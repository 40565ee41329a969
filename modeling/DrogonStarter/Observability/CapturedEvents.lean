import DrogonStarter.Lib.Number
import Mathlib.Data.List.Sort

/-!
# The events that the reporters get

A captured event has a message, a request id and a context.  The request-aware
`captureException` makes the last two out of a request: it takes the id from an attribute of
the request, from a header or from a generator, and puts it into the context too, with the
method, the path and the trace context, before the caller's own entries.

* `ContextMap` is a context as a map in the order of its keys, and `getElem?_assignAll` is
  what a loop of assignments makes of one.
* `requestId` and `traceparent` are the two functions that remember their result in the
  attributes of the request.
* `Capture.event` is the event of a call of `captureException` with a request.  The theorems
  after it say what is in its context and when its id is empty.
-/

namespace DrogonStarter.Observability

/-- `ErrorContext` as the map that an event carries. -/
abbrev ContextMap := Std.ExtTreeMap String String

namespace ContextMap

/-- `for (const auto& [key, value] : other) context[key] = value;` -/
def assignAll (context other : ContextMap) : ContextMap :=
  other.foldl (fun context key value => context.insert key value) context

theorem getElem?_foldl_insert (entries : List (String × String)) (context : ContextMap)
    (key : String) (h : ∀ entry ∈ entries, entry.1 ≠ key) :
    (entries.foldl (fun context entry => context.insert entry.1 entry.2) context)[key]? =
      context[key]? := by
  induction entries generalizing context with
  | nil => rfl
  | cons entry entries ih =>
    have hne := h entry List.mem_cons_self
    rw [List.foldl_cons, ih _ fun e he => h e (List.mem_cons_of_mem _ he),
      Std.ExtTreeMap.getElem?_insert, if_neg fun heq => hne (Std.compare_eq_iff_eq.1 heq)]

/-- The entries of a map have different keys. -/
theorem pairwise_ne (context : ContextMap) :
    context.toList.Pairwise fun entry other => entry.1 ≠ other.1 :=
  Std.ExtTreeMap.distinct_keys_toList.imp fun hne heq => hne (Std.compare_eq_iff_eq.2 heq)

/-- The last assignment to a key counts. -/
theorem getElem?_assignAll (context other : ContextMap) (key : String) :
    (context.assignAll other)[key]? = (other[key]?).or (context[key]?) := by
  unfold assignAll
  rw [Std.ExtTreeMap.foldl_eq_foldl_toList]
  cases hother : other[key]? with
  | none =>
    refine getElem?_foldl_insert other.toList context key fun entry hentry heq => ?_
    have hsome : other[entry.1]? = some entry.2 :=
      Std.ExtTreeMap.mem_toList_iff_getElem?_eq_some.1 hentry
    rw [heq, hother] at hsome
    cases hsome
  | some value =>
    obtain ⟨before, after, hsplit⟩ := List.append_of_mem
      (Std.ExtTreeMap.mem_toList_iff_getElem?_eq_some.2 hother)
    have hdistinct := pairwise_ne other
    rw [hsplit] at hdistinct ⊢
    have hafter : ∀ entry ∈ after, entry.1 ≠ key := fun entry hentry =>
      ((List.pairwise_cons.1 (List.pairwise_append.1 hdistinct).2.1).1 entry hentry).symm
    rw [List.foldl_append, List.foldl_cons, getElem?_foldl_insert after _ key hafter,
      Std.ExtTreeMap.getElem?_insert_self]
    rfl

/-- A map is made of its entries. -/
theorem ofList_toList (context : ContextMap) : Std.ExtTreeMap.ofList context.toList = context := by
  have hloop : Std.ExtTreeMap.ofList context.toList = assignAll ∅ context := by
    unfold assignAll
    rw [Std.ExtTreeMap.ofList_eq_foldl, Std.ExtTreeMap.foldl_eq_foldl_toList]
  rw [hloop]
  refine Std.ExtTreeMap.ext_getElem? fun key => ?_
  rw [getElem?_assignAll, Std.ExtTreeMap.getElem?_empty, Option.or_none]

/-- The entries are in the order of their keys. -/
theorem pairwise_lt (context : ContextMap) :
    context.toList.Pairwise fun entry other => entry.1 < other.1 := by
  have hordered : context.toList.Pairwise fun entry other => compare entry.1 other.1 = .lt :=
    Std.ExtTreeMap.ordered_keys_toList
  refine hordered.imp fun hlt => ?_
  exact compareOfLessAndEq_eq_lt.1 hlt

end ContextMap

/-! ## Requests -/

/-- What the enrichment reads of a request.  A header that is absent is empty. -/
structure HttpRequest where
  methodString : String
  path : String
  getHeader : String → String := fun _ => ""
  attributes : String → Option String := fun _ => none

/-- What the generators of `Observability.cc` produce in one call of `captureException`. -/
structure Entropy where
  requestId : UInt64
  traceId : Nat → UInt64
  spanId : Nat → UInt64

/-- `attributes()->insert(key, value)`. -/
def HttpRequest.insert (request : HttpRequest) (key value : String) : HttpRequest :=
  { request with
    attributes := fun other => if other = key then some value else request.attributes other }

def kRequestId : String := "observability.request_id"

def kTraceparent : String := "observability.traceparent"

/-- A number as `std::hex << std::setw(16) << std::setfill('0')` prints it. -/
def hexBlock (value : UInt64) : List Char :=
  let digits := Nat.toDigits 16 value.toNat
  List.replicate (16 - digits.length) '0' ++ digits

def generateRequestId (value : UInt64) : String := String.ofList (hexBlock value)

/-- The loop adds blocks of 16 characters while the text is too short. -/
def randomHex (generator : Nat → UInt64) (length : Nat) : String :=
  String.ofList
    (((List.range ((length + 15) / 16)).flatMap fun i => hexBlock (generator i)).take length)

def validHex (value : List Char) : Bool := value.all CppNumber.isHexDigit

/-- `requestId`: the id, and the request that remembers it. -/
def requestId (request : HttpRequest) (random : Entropy) : String × HttpRequest :=
  match request.attributes kRequestId with
  | some id => (id, request)
  | none =>
    let supplied := request.getHeader "X-Request-ID"
    let id := if supplied = "" then generateRequestId random.requestId else supplied
    (id, request.insert kRequestId id)

/-- The form of a trace context that is taken over from the header. -/
def validTraceparent (supplied : List Char) : Bool :=
  decide (supplied.length = 55) && decide (supplied[2]? = some '-') &&
    decide (supplied[35]? = some '-') && decide (supplied[52]? = some '-') &&
    validHex (supplied.take 2) && validHex ((supplied.drop 3).take 32) &&
    validHex ((supplied.drop 36).take 16) && validHex ((supplied.drop 53).take 2)

/-- `traceparent`: the trace context, and the request that remembers it. -/
def traceparent (request : HttpRequest) (random : Entropy) : String × HttpRequest :=
  match request.attributes kTraceparent with
  | some context => (context, request)
  | none =>
    let supplied := request.getHeader "traceparent"
    let context :=
      if validTraceparent supplied.toList then supplied
      else "00-" ++ randomHex random.traceId 32 ++ "-" ++ randomHex random.spanId 16 ++ "-01"
    (context, request.insert kTraceparent context)

/-- A generated id has 16 digits. -/
theorem generateRequestId_ne_empty (value : UInt64) : generateRequestId value ≠ "" := by
  intro h
  have hlength := congrArg String.length h
  unfold generateRequestId hexBlock at hlength
  rw [String.length_ofList, List.length_append, List.length_replicate, String.length_empty]
    at hlength
  omega

/-- The id is empty only where an attribute says so. -/
theorem requestId_eq_empty_iff (request : HttpRequest) (random : Entropy) :
    (requestId request random).1 = "" ↔ request.attributes kRequestId = some "" := by
  unfold requestId
  cases request.attributes kRequestId with
  | some id => simp
  | none =>
    by_cases hsupplied : request.getHeader "X-Request-ID" = ""
    · simp [hsupplied, generateRequestId_ne_empty]
    · simp [hsupplied]

/-- A request keeps its id. -/
theorem requestId_again (request : HttpRequest) (random random' : Entropy) :
    requestId (requestId request random).2 random' = requestId request random := by
  cases hattribute : request.attributes kRequestId with
  | some id => simp [requestId, hattribute]
  | none => simp [requestId, hattribute, HttpRequest.insert]

/-- The trace context has nothing to do with the id. -/
theorem requestId_traceparent (request : HttpRequest) (random : Entropy) :
    (requestId (traceparent request random).2 random).1 = (requestId request random).1 := by
  have hother : kRequestId ≠ kTraceparent := by decide
  unfold traceparent
  cases request.attributes kTraceparent with
  | some context => rfl
  | none =>
    unfold requestId HttpRequest.insert
    simp only [if_neg hother]
    cases request.attributes kRequestId <;> rfl

/-! ## Captures -/

/-- `HttpErrorReporter::CapturedException`. -/
structure CapturedException where
  message : String
  requestId : String
  context : ContextMap

/-- A call of the request-aware `captureException`. -/
structure Capture where
  /-- `error.what()`. -/
  message : String
  /-- The request, unless the pointer is null. -/
  request : Option HttpRequest
  context : ContextMap
  random : Entropy

namespace Capture

/-- The context of a request, without the caller's, and the request afterwards. -/
def requestContext (request : HttpRequest) (random : Entropy) : ContextMap × HttpRequest :=
  let trace := traceparent request random
  let id := requestId trace.2 random
  let context := Std.ExtTreeMap.ofList
    [("http.method", request.methodString), ("http.path", request.path), ("traceparent", trace.1)]
  (context.insertIfNew "request.id" id.1, id.2)

/-- `captureException(error, request, context)`: what the reporter gets. -/
def event (capture : Capture) : CapturedException :=
  match capture.request with
  | none => { message := capture.message, requestId := "", context := capture.context }
  | some request =>
    let enriched := requestContext request capture.random
    { message := capture.message
      requestId := (requestId enriched.2 capture.random).1
      context := enriched.1.assignAll capture.context }

variable (capture : Capture)

theorem message_event : capture.event.message = capture.message := by
  unfold event
  cases capture.request <;> rfl

/-- The id of an event is that of its request. -/
theorem requestId_event {request : HttpRequest} (hrequest : capture.request = some request) :
    capture.event.requestId = (requestId request capture.random).1 := by
  unfold event
  rw [hrequest]
  change (requestId (requestId (traceparent request capture.random).2 capture.random).2
    capture.random).1 = _
  rw [requestId_again, requestId_traceparent]

theorem requestId_event_eq_empty_iff :
    capture.event.requestId = "" ↔
      ∀ request, capture.request = some request → request.attributes kRequestId = some "" := by
  cases hrequest : capture.request with
  | none =>
    have hid : capture.event.requestId = "" := by
      unfold event
      rw [hrequest]
    exact iff_of_true hid fun request h => nomatch h
  | some request =>
    rw [requestId_event capture hrequest, requestId_eq_empty_iff]
    constructor
    · rintro hempty _ ⟨⟩
      exact hempty
    · intro hall
      exact hall request rfl

/-- What the caller says about a key is in the context. -/
theorem getElem?_context_of_caller {key value : String}
    (h : capture.context[key]? = some value) : capture.event.context[key]? = some value := by
  unfold event
  cases capture.request with
  | none => exact h
  | some request =>
    change (ContextMap.assignAll _ capture.context)[key]? = _
    rw [ContextMap.getElem?_assignAll, h]
    rfl

/-- With a request, the context has an id, the caller's or that of the request. -/
theorem exists_request_id {request : HttpRequest} (hrequest : capture.request = some request) :
    ∃ value, capture.event.context["request.id"]? = some value := by
  unfold event
  rw [hrequest]
  change ∃ value, (ContextMap.assignAll _ capture.context)["request.id"]? = some value
  rw [ContextMap.getElem?_assignAll]
  cases capture.context["request.id"]? with
  | some value => exact ⟨value, rfl⟩
  | none =>
    refine ⟨(requestId (traceparent request capture.random).2 capture.random).1, ?_⟩
    unfold requestContext
    rw [Option.none_or, Std.ExtTreeMap.getElem?_insertIfNew, if_pos]
    refine ⟨Std.compare_eq_iff_eq.2 rfl, ?_⟩
    rw [Std.ExtTreeMap.mem_ofList]
    change ¬ ["http.method", "http.path", "traceparent"].contains "request.id" = true
    decide

end Capture

end DrogonStarter.Observability
