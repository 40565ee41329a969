import DrogonStarter.Lib.JsonText
import DrogonStarter.Observability.CapturedEvents

/-!
# The OTLP payload

`OtlpErrorReporter::payload` writes one log record for each event.  The attributes of a
record are the request id, unless it is empty, and then the entries of the context.

* `record` and `document` are what `payload` builds, and `logRecords`, `message?` and
  `attributes?` read it.
* `attributes_record` and `logRecords_document` say what is read back.
* `wellFormedRecords_iff`: for events of the request-aware `captureException` the keys of a
  record are distinct exactly when the event has no request id, because the id is in the
  context already.
-/

namespace DrogonStarter.Observability

open Json

namespace OtlpErrorReporter

def attributeJson (key value : String) : Json :=
  assign [.member "value", .member "stringValue"] (.string value)
    (assign [.member "key"] (.string key) .null)

def addAttribute (record : Json) (key value : String) : Json :=
  modify (·.append (attributeJson key value)) [.member "attributes"] record

/-- A record before its attributes. -/
def bareRecord (message : String) : Json :=
  let record := assign [.member "body", .member "stringValue"] (.string message) .null
  let record := assign [.member "severityText"] (.string "ERROR") record
  assign [.member "attributes"] (.array []) record

/-- The record of an event. -/
def record (event : CapturedException) : Json :=
  let record := bareRecord event.message
  let record :=
    if event.requestId ≠ "" then addAttribute record "request.id" event.requestId else record
  event.context.foldl addAttribute record

/-- The place of the records. -/
def recordsPath : List Step :=
  [.member "resourceLogs", .item 0, .member "scopeLogs", .item 0, .member "logRecords"]

def document (events : List CapturedException) : Json :=
  events.foldl (fun body event => modify (·.append (record event)) recordsPath body) .null

/-- `payload`. -/
def payload (library : Json.Codec) (events : List CapturedException) : String :=
  library.writeString (document events)

/-! ## Reading a payload -/

def logRecords (body : Json) : List Json := items recordsPath body

def message? (record : Json) : Option String :=
  text? [.member "body", .member "stringValue"] record

/-- The key and the value of an attribute. -/
def readAttribute (j : Json) : Option (String × String) := do
  let key ← text? [.member "key"] j
  let value ← text? [.member "value", .member "stringValue"] j
  return (key, value)

def attributes? (record : Json) : Option (List (String × String)) :=
  (items [.member "attributes"] record).mapM readAttribute

/-- The attributes of an event. -/
def attributes (event : CapturedException) : List (String × String) :=
  (if event.requestId ≠ "" then [("request.id", event.requestId)] else []) ++
    event.context.toList

/-- The attributes are added one after another, wherever they come from. -/
theorem record_eq (event : CapturedException) :
    record event =
      (attributes event).foldl (fun record entry => addAttribute record entry.1 entry.2)
        (bareRecord event.message) := by
  unfold record attributes
  rw [List.foldl_append, Std.ExtTreeMap.foldl_eq_foldl_toList]
  by_cases hid : event.requestId ≠ ""
  · rw [if_pos hid, if_pos hid]
    rfl
  · rw [if_neg hid, if_neg hid]
    rfl

theorem items_record (event : CapturedException) :
    items [.member "attributes"] (record event) =
      (attributes event).map fun entry => attributeJson entry.1 entry.2 := by
  have hbare : at? [.member "attributes"] (bareRecord event.message) = some (.array []) :=
    at?_assign _ _ _
  rw [record_eq]
  cases attributes event with
  | nil =>
    unfold items
    rw [List.foldl_nil, hbare]
    rfl
  | cons entry entries =>
    unfold items addAttribute
    rw [at?_foldl_modify fun (entry : String × String) j =>
        j.append (attributeJson entry.1 entry.2),
      hbare, Option.getD_some, foldl_append_array fun entry : String × String =>
        attributeJson entry.1 entry.2]
    rfl

theorem readAttribute_attributeJson (entry : String × String) :
    readAttribute (attributeJson entry.1 entry.2) = some entry := by
  have hapart : Apart [.member "value", .member "stringValue"] [.member "key"] :=
    apart_member (by decide) _ _
  have hkey : text? [.member "key"] (attributeJson entry.1 entry.2) = some entry.1 := by
    unfold text? attributeJson
    rw [assign, at?_modify_of_apart _ hapart, at?_assign]
  have hvalue : text? [.member "value", .member "stringValue"] (attributeJson entry.1 entry.2) =
      some entry.2 := text?_assign _ _ _
  unfold readAttribute
  rw [hkey, hvalue]
  rfl

/-- The attributes of a record are those of its event. -/
theorem attributes?_record (event : CapturedException) :
    attributes? (record event) = some (attributes event) := by
  unfold attributes?
  rw [items_record]
  induction attributes event with
  | nil => rfl
  | cons entry entries ih =>
    rw [List.map_cons, List.mapM_cons, readAttribute_attributeJson, ih]
    rfl

theorem message?_record (event : CapturedException) :
    message? (record event) = some event.message := by
  have hattributes : Apart [.member "attributes"] [.member "body", .member "stringValue"] :=
    apart_member (by decide) _ _
  have hseverity : Apart [.member "severityText"] [.member "body", .member "stringValue"] :=
    apart_member (by decide) _ _
  rw [record_eq]
  unfold message? text? addAttribute
  rw [at?_foldl_modify_of_apart (fun (entry : String × String) j =>
    j.append (attributeJson entry.1 entry.2)) _ hattributes]
  unfold bareRecord
  rw [assign, at?_modify_of_apart _ hattributes, assign, at?_modify_of_apart _ hseverity,
    at?_assign]

/-- One record for each event, in order. -/
theorem logRecords_document (events : List CapturedException) :
    logRecords (document events) = events.map record := by
  unfold logRecords items document
  cases events with
  | nil => rfl
  | cons event events =>
    rw [at?_foldl_modify fun event (j : Json) => j.append (record event)]
    have hfirst : append ((at? recordsPath null).getD null) (record event) =
        .array [record event] := rfl
    rw [List.foldl_cons, hfirst, foldl_append_array]
    rfl

/-! ## The text of a payload -/

theorem numberless_attributeJson (key value : String) : (attributeJson key value).Numberless :=
  (Numberless.null.assign _ (.string key)).assign _ (.string value)

theorem numberless_addAttribute {record : Json} (h : record.Numberless) (key value : String) :
    (addAttribute record key value).Numberless :=
  h.modify (fun _ hj => hj.append (numberless_attributeJson key value)) _

theorem numberless_record (event : CapturedException) : (record event).Numberless := by
  have hbare : (bareRecord event.message).Numberless := by
    refine Numberless.assign _ (Numberless.assign _ (Numberless.null.assign _ ?_) ?_) ?_
    · exact .string event.message
    · exact .string "ERROR"
    · exact .array fun j hj => nomatch hj
  rw [record_eq]
  generalize bareRecord event.message = start at hbare
  induction attributes event generalizing start with
  | nil => exact hbare
  | cons entry entries ih => exact ih _ (numberless_addAttribute hbare entry.1 entry.2)

theorem numberless_document (events : List CapturedException) :
    (document events).Numberless := by
  unfold document
  have hnull := Numberless.null
  generalize Json.null = start at hnull
  induction events generalizing start with
  | nil => exact hnull
  | cons event events ih =>
    exact ih _ (hnull.modify (fun _ hj => hj.append (numberless_record event)) recordsPath)

/-- The payload reads back as the document. -/
theorem parse_payload {library : Json.Codec} (hlawful : library.Lawful)
    (events : List CapturedException) :
    library.parse (payload library events) = some (document events) :=
  hlawful.parse_writeString (numberless_document events)

/-! ## Request-aware records -/

/-- A record has the message of its event and attributes with distinct keys, and the caller's
entries are among them. -/
structure WellFormedRecord (capture : Capture) (record : Json) : Prop where
  message : message? record = some capture.message
  attributes : ∃ attributes, attributes? record = some attributes ∧
    (attributes.map Prod.fst).Nodup ∧
    ∀ key value, capture.context[key]? = some value → (key, value) ∈ attributes

/-- The request of a capture has an id that is not empty. -/
def HasRequestId (capture : Capture) : Prop :=
  ∃ request, capture.request = some request ∧ request.attributes kRequestId ≠ some ""

theorem requestId_event_ne_empty_iff (capture : Capture) :
    capture.event.requestId ≠ "" ↔ HasRequestId capture := by
  rw [Ne, Capture.requestId_event_eq_empty_iff]
  unfold HasRequestId
  push Not
  rfl

theorem caller_mem_attributes (capture : Capture) {key value : String}
    (h : capture.context[key]? = some value) : (key, value) ∈ attributes capture.event := by
  refine List.mem_append_right _ ?_
  rw [Std.ExtTreeMap.mem_toList_iff_getElem?_eq_some]
  exact capture.getElem?_context_of_caller h

/-- The id of the request is an attribute twice, once for itself and once in the context. -/
theorem nodup_attributes_iff (capture : Capture) :
    ((attributes capture.event).map Prod.fst).Nodup ↔ ¬ HasRequestId capture := by
  rw [← requestId_event_ne_empty_iff]
  unfold attributes
  by_cases hid : capture.event.requestId ≠ ""
  · refine iff_of_false ?_ fun hnot => hnot hid
    obtain ⟨request, hrequest, -⟩ := (requestId_event_ne_empty_iff capture).1 hid
    obtain ⟨value, hvalue⟩ := capture.exists_request_id hrequest
    rw [if_pos hid, List.singleton_append, List.map_cons, List.nodup_cons]
    rintro ⟨hnot, -⟩
    refine hnot (List.mem_map.2 ⟨("request.id", value), ?_, rfl⟩)
    exact Std.ExtTreeMap.mem_toList_iff_getElem?_eq_some.2 hvalue
  · refine iff_of_true ?_ hid
    rw [if_neg hid, List.nil_append, Std.ExtTreeMap.map_fst_toList_eq_keys]
    exact Std.ExtTreeMap.nodup_keys

theorem wellFormedRecord_iff_not_hasRequestId (capture : Capture) :
    WellFormedRecord capture (record capture.event) ↔ ¬ HasRequestId capture := by
  rw [← nodup_attributes_iff]
  constructor
  · rintro ⟨-, attributes, hattributes, hnodup, -⟩
    rw [attributes?_record, Option.some.injEq] at hattributes
    rw [hattributes]
    exact hnodup
  · intro hnodup
    refine ⟨?_, attributes capture.event, attributes?_record capture.event, hnodup, ?_⟩
    · rw [message?_record, Capture.message_event]
    · intro key value
      exact caller_mem_attributes capture

/-- The payload has a well-formed record for each event, in order, exactly when no event has
a request with an id. -/
theorem wellFormedRecords_iff (captures : List Capture) :
    List.Forall₂ WellFormedRecord captures
        (logRecords (document (captures.map Capture.event))) ↔
      ∀ capture ∈ captures, ¬ HasRequestId capture := by
  rw [logRecords_document, List.map_map, List.forall₂_map_right_iff, List.forall₂_same]
  exact forall₂_congr fun capture _ => wellFormedRecord_iff_not_hasRequestId capture

/-- An event of a request with an id in its header. -/
def tracedCapture : Capture where
  message := "out of memory"
  request := some
    { methodString := "GET"
      path := "/api/v1/user"
      getHeader := fun name => if name = "X-Request-ID" then "r-1" else "" }
  context := ∅
  random := { requestId := 0, traceId := fun _ => 0, spanId := fun _ => 0 }

/-- The record of one event of such a request. -/
theorem request_id_twice :
    ¬ ∀ captures : List Capture,
      List.Forall₂ WellFormedRecord captures
        (logRecords (document (captures.map Capture.event))) := by
  intro hall
  have hrecords := hall [tracedCapture]
  rw [logRecords_document] at hrecords
  have hrecord := (List.forall₂_cons.1 hrecords).1
  have hid : HasRequestId tracedCapture := ⟨_, rfl, nofun⟩
  exact (wellFormedRecord_iff_not_hasRequestId tracedCapture).1 hrecord hid

end OtlpErrorReporter

end DrogonStarter.Observability
