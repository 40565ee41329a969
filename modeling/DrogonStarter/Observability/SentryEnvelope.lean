import DrogonStarter.Lib.JsonText
import DrogonStarter.Observability.CapturedEvents

/-!
# The Sentry envelope

`SentryErrorReporter::payload` writes one line for the envelope and two lines for each event:
a header and a body with the message, the request id unless it is empty, and the context.

* `eventBody` and `payload` are what the code writes.
* `message?`, `requestId?` and `context` read a body, and `decoded_eventBody` is their round
  trip.
* `lines_payload`: the lines of an envelope are the texts that were written, whatever is in
  the events, and so `envelope_decodes`.
-/

namespace DrogonStarter.Observability

open Json

namespace SentryErrorReporter

/-- `{"type":"event"}`, the header of an envelope and of an item. -/
def header : Json := assign [.member "type"] (.string "event") .null

def addExtra (event : Json) (key value : String) : Json :=
  assign [.member "extra", .member key] (.string value) event

/-- A body before the request id and the context. -/
def bareEvent (message : String) : Json :=
  assign [.member "exception", .member "values", .item 0, .member "value"] (.string message)
    (assign [.member "exception", .member "values", .item 0, .member "type"]
      (.string "std::exception") .null)

/-- The body of an event. -/
def eventBody (captured : CapturedException) : Json :=
  let event := bareEvent captured.message
  let event :=
    if captured.requestId ≠ "" then
      assign [.member "tags", .member "request_id"] (.string captured.requestId) event
    else event
  captured.context.foldl addExtra event

/-- `payload`. -/
def payload (library : Json.Codec) (events : List CapturedException) : String :=
  events.foldl
    (fun envelope captured =>
      envelope ++ ("\n" ++ library.writeString header ++ "\n" ++
        library.writeString (eventBody captured)))
    (library.writeString header)

/-! ## Reading an envelope -/

/-- The pieces of an envelope between its newlines. -/
def lines (envelope : String) : List String :=
  (envelope.toList.splitOn '\n').map String.ofList

def message? (event : Json) : Option String :=
  text? [.member "exception", .member "values", .item 0, .member "value"] event

def requestId? (event : Json) : Option String :=
  text? [.member "tags", .member "request_id"] event

/-- The entries of `extra`. -/
def context (event : Json) : ContextMap :=
  Std.ExtTreeMap.ofList
    ((members [.member "extra"] event).map fun member => (member.1, member.2.asString))

/-- The event of a body. -/
def decodeEvent (event : Json) : Option CapturedException := do
  let message ← message? event
  return { message, requestId := (requestId? event).getD "", context := context event }

/-- The events of the lines after the first one. -/
def decodeItems (library : Json.Codec) : List String → Option (List CapturedException)
  | _ :: body :: rest => do
    let captured ← decodeEvent (← library.parse body)
    return captured :: (← decodeItems library rest)
  | _ => some []

def decode (library : Json.Codec) (envelope : String) : Option (List CapturedException) :=
  decodeItems library (lines envelope).tail

/-! ## The body of an event -/

/-- A body before the context. -/
def taggedEvent (captured : CapturedException) : Json :=
  if captured.requestId ≠ "" then
    assign [.member "tags", .member "request_id"] (.string captured.requestId)
      (bareEvent captured.message)
  else bareEvent captured.message

/-- The loop over the context changes `extra` and nothing else. -/
theorem eventBody_eq (captured : CapturedException) :
    eventBody captured =
      captured.context.toList.foldl
        (fun event entry => modify (·.set entry.1 (.string entry.2)) [.member "extra"] event)
        (taggedEvent captured) := by
  unfold eventBody taggedEvent
  rw [Std.ExtTreeMap.foldl_eq_foldl_toList]
  rfl

theorem at?_eventBody_of_apart (captured : CapturedException) {path : List Step}
    (h : Apart [.member "extra"] path) :
    at? path (eventBody captured) = at? path (taggedEvent captured) := by
  rw [eventBody_eq]
  exact at?_foldl_modify_of_apart
    (fun (entry : String × String) j => j.set entry.1 (.string entry.2)) _ h _

/-- A body starts with `exception` only. -/
theorem at?_bareEvent {name : String} (hname : "exception" ≠ name) (path : List Step)
    (message : String) : at? (.member name :: path) (bareEvent message) = none := by
  unfold bareEvent
  rw [assign, at?_modify_of_apart _ (apart_member hname _ _), assign,
    at?_modify_of_apart _ (apart_member hname _ _)]
  rfl

/-- The request id changes `tags` and nothing else. -/
theorem at?_taggedEvent {name : String} (hname : "tags" ≠ name) (path : List Step)
    (captured : CapturedException) :
    at? (.member name :: path) (taggedEvent captured) =
      at? (.member name :: path) (bareEvent captured.message) := by
  unfold taggedEvent
  split
  · rw [assign, at?_modify_of_apart _ (apart_member hname _ _)]
  · rfl

theorem message?_eventBody (captured : CapturedException) :
    message? (eventBody captured) = some captured.message := by
  have hbare : message? (bareEvent captured.message) = some captured.message :=
    text?_assign _ _ _
  unfold message? text? at hbare ⊢
  rw [at?_eventBody_of_apart captured (apart_member (by decide) _ _),
    at?_taggedEvent (by decide)]
  exact hbare

theorem requestId?_eventBody (captured : CapturedException) :
    requestId? (eventBody captured) =
      if captured.requestId = "" then none else some captured.requestId := by
  unfold requestId? text?
  rw [at?_eventBody_of_apart captured (apart_member (by decide) _ _)]
  unfold taggedEvent
  by_cases hid : captured.requestId ≠ ""
  · rw [if_pos hid, at?_assign, if_neg hid]
  · rw [if_neg hid, at?_bareEvent (by decide), if_pos (not_not.1 hid)]

/-- The members of `extra` are the entries of the context. -/
theorem members_eventBody (captured : CapturedException) :
    members [.member "extra"] (eventBody captured) =
      captured.context.toList.map fun entry => (entry.1, Json.string entry.2) := by
  have htagged : at? [.member "extra"] (taggedEvent captured) = none := by
    rw [at?_taggedEvent (by decide), at?_bareEvent (by decide)]
  have hascending := ContextMap.pairwise_lt captured.context
  rw [eventBody_eq]
  unfold members
  cases hentries : captured.context.toList with
  | nil =>
    rw [List.foldl_nil, htagged]
    rfl
  | cons entry entries =>
    rw [hentries] at hascending
    have hmembers : ((entry :: entries).map fun entry => (entry.1, Json.string entry.2)).Pairwise
        fun member other => member.1 < other.1 := List.pairwise_map.2 hascending
    have hset := foldl_set_null (fun entry : String × String => (entry.1, Json.string entry.2))
      (List.cons_ne_nil entry entries) hmembers
    rw [at?_foldl_modify (fun (entry : String × String) j => j.set entry.1 (.string entry.2)),
      htagged, Option.getD_none, hset]

theorem context_eventBody (captured : CapturedException) :
    context (eventBody captured) = captured.context := by
  unfold context
  rw [members_eventBody, List.map_map]
  have hentries : (fun member : String × Json => (member.1, member.2.asString)) ∘
      (fun entry : String × String => (entry.1, Json.string entry.2)) = id := rfl
  rw [hentries, List.map_id, ContextMap.ofList_toList]

/-- The round trip of one event. -/
theorem decodeEvent_eventBody (captured : CapturedException) :
    decodeEvent (eventBody captured) = some captured := by
  have hid : (requestId? (eventBody captured)).getD "" = captured.requestId := by
    rw [requestId?_eventBody]
    by_cases hempty : captured.requestId = ""
    · rw [if_pos hempty, hempty]
      rfl
    · rw [if_neg hempty]
      rfl
  unfold decodeEvent
  rw [message?_eventBody, hid, context_eventBody]
  rfl

/-! ## The lines of an envelope -/

theorem numberless_header : header.Numberless := Numberless.null.assign _ (.string "event")

theorem numberless_eventBody (captured : CapturedException) : (eventBody captured).Numberless := by
  have hbare : (bareEvent captured.message).Numberless :=
    (Numberless.null.assign _ (.string "std::exception")).assign _ (.string captured.message)
  have htagged : (taggedEvent captured).Numberless := by
    unfold taggedEvent
    by_cases hid : captured.requestId ≠ ""
    · rw [if_pos hid]
      exact hbare.assign _ (.string captured.requestId)
    · rw [if_neg hid]
      exact hbare
  rw [eventBody_eq]
  generalize taggedEvent captured = start at htagged
  induction captured.context.toList generalizing start with
  | nil => exact htagged
  | cons entry entries ih =>
    exact ih _ (htagged.modify (fun _ hj => hj.set entry.1 (.string entry.2)) _)

variable (library : Json.Codec)

/-- The two lines of an event. -/
def itemLines (captured : CapturedException) : List String :=
  [library.writeString header, library.writeString (eventBody captured)]

/-- What follows the first line, as characters. -/
def tailText : List CapturedException → List Char
  | [] => []
  | captured :: rest =>
    '\n' :: ((library.writeString header).toList ++
      '\n' :: ((library.writeString (eventBody captured)).toList ++ tailText rest))

theorem toList_foldl (events : List CapturedException) (envelope : String) :
    (events.foldl
        (fun envelope captured =>
          envelope ++ ("\n" ++ library.writeString header ++ "\n" ++
            library.writeString (eventBody captured)))
        envelope).toList = envelope.toList ++ tailText library events := by
  induction events generalizing envelope with
  | nil => exact (List.append_nil _).symm
  | cons captured events ih =>
    have hnewline : "\n".toList = ['\n'] := rfl
    rw [List.foldl_cons, ih]
    simp only [String.toList_append, hnewline, tailText, List.append_assoc, List.cons_append,
      List.nil_append]

variable {library}

/-- No text that is written breaks the line that it is on. -/
theorem splitOn_tailText (hlawful : library.Lawful) (events : List CapturedException)
    {line : List Char} (hline : '\n' ∉ line) :
    (line ++ tailText library events).splitOn '\n' =
      line :: (events.flatMap (itemLines library)).map String.toList := by
  induction events generalizing line with
  | nil =>
    rw [tailText, List.append_nil]
    exact List.splitOn_eq_singleton hline
  | cons captured events ih =>
    have hheader := hlawful.oneLine numberless_header
    have hbody := hlawful.oneLine (numberless_eventBody captured)
    rw [tailText, List.splitOn_append_cons_self_of_not_mem hline,
      List.splitOn_append_cons_self_of_not_mem hheader, ih hbody]
    rfl

/-- The lines of an envelope are the texts that were written. -/
theorem lines_payload (hlawful : library.Lawful) (events : List CapturedException) :
    lines (payload library events) =
      library.writeString header :: events.flatMap (itemLines library) := by
  have hheader := hlawful.oneLine numberless_header
  unfold lines payload
  rw [toList_foldl, splitOn_tailText hlawful events hheader, List.map_cons, List.map_map,
    String.ofList_toList]
  have hid : String.ofList ∘ String.toList = id := funext fun text => String.ofList_toList
  rw [hid, List.map_id]

theorem length_flatMap_itemLines (events : List CapturedException) :
    (events.flatMap (itemLines library)).length = 2 * events.length := by
  induction events with
  | nil => rfl
  | cons captured events ih =>
    rw [List.flatMap_cons, List.length_append, ih, List.length_cons]
    change 2 + _ = _
    omega

/-- The lines of an event stand at its place. -/
theorem getElem?_flatMap_itemLines (library : Json.Codec) (events : List CapturedException)
    {i : Nat} {captured : CapturedException} (hevent : events[i]? = some captured) :
    (events.flatMap (itemLines library))[2 * i]? = some (library.writeString header) ∧
      (events.flatMap (itemLines library))[2 * i + 1]? =
        some (library.writeString (eventBody captured)) := by
  induction events generalizing i with
  | nil => cases hevent
  | cons first events ih =>
    cases i with
    | zero =>
      cases hevent
      exact ⟨rfl, rfl⟩
    | succ i => exact ih hevent

/-- The round trip. -/
theorem decode_payload (hlawful : library.Lawful) (events : List CapturedException) :
    decode library (payload library events) = some events := by
  unfold decode
  rw [lines_payload hlawful, List.tail_cons]
  induction events with
  | nil => rfl
  | cons captured events ih =>
    change (library.parse (library.writeString (eventBody captured)) >>= fun body =>
      decodeEvent body >>= fun captured =>
        decodeItems library (events.flatMap (itemLines library)) >>= fun rest =>
          some (captured :: rest)) = _
    rw [hlawful.parse_writeString (numberless_eventBody captured)]
    change (decodeEvent (eventBody captured) >>= _) = _
    rw [decodeEvent_eventBody, ih]
    rfl

/-- Two lines are those of an event. -/
structure Decodes (library : Json.Codec) (captured : CapturedException) (itemHeader body : String) :
    Prop where
  itemHeader : library.parse itemHeader = some header
  body : ∃ event, library.parse body = some event ∧
    message? event = some captured.message ∧
    requestId? event = (if captured.requestId = "" then none else some captured.requestId) ∧
    context event = captured.context

theorem decodes_itemLines (hlawful : library.Lawful) (captured : CapturedException) :
    Decodes library captured (library.writeString header)
      (library.writeString (eventBody captured)) where
  itemHeader := hlawful.parse_writeString numberless_header
  body := ⟨eventBody captured, hlawful.parse_writeString (numberless_eventBody captured),
    message?_eventBody captured, requestId?_eventBody captured, context_eventBody captured⟩

/-- Every envelope has the header and two lines for each event, in order, from which the event
is read back, and no two lists of events have the same envelope. -/
theorem envelope_decodes (library : Json.Codec) (hlawful : library.Lawful) :
    (∀ events : List CapturedException,
      (lines (payload library events)).length = 2 * events.length + 1 ∧
      (lines (payload library events)).head?.bind library.parse = some header ∧
      ∀ i captured, events[i]? = some captured →
        ∃ itemHeader body, (lines (payload library events))[2 * i + 1]? = some itemHeader ∧
          (lines (payload library events))[2 * i + 2]? = some body ∧
          Decodes library captured itemHeader body) ∧
      Function.Injective (payload library) := by
  refine ⟨fun events => ?_, fun events events' hsame => ?_⟩
  · rw [lines_payload hlawful]
    refine ⟨?_, ?_, fun i captured hevent => ?_⟩
    · rw [List.length_cons, length_flatMap_itemLines]
    · exact hlawful.parse_writeString numberless_header
    · obtain ⟨hheader, hbody⟩ := getElem?_flatMap_itemLines library events hevent
      exact ⟨_, _, hheader, hbody, decodes_itemLines hlawful captured⟩
  · have hdecode := decode_payload hlawful events
    rw [hsame, decode_payload hlawful events'] at hdecode
    exact (Option.some.inj hdecode).symm

/-- An event with newlines, quotation marks and braces, and without an id. -/
def quotedEvent : CapturedException where
  message := "expected \"\x7b\"\nfound \"\x7d\""
  requestId := ""
  context := Std.ExtTreeMap.ofList [("line\n1", "\x7b\"type\":\"event\"\x7d")]

/-- With the writer of `Json.compact`, the envelope of such an event has three lines. -/
theorem envelope_decodes_quoted :
    (lines (payload compact [quotedEvent])).length = 3 ∧ Function.Injective (payload compact) :=
  ⟨((envelope_decodes compact lawful_compact).1 [quotedEvent]).1,
    (envelope_decodes compact lawful_compact).2⟩

end SentryErrorReporter

end DrogonStarter.Observability
