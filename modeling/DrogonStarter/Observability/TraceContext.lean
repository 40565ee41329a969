import DrogonStarter.Lib.HexNumeral
import DrogonStarter.Lib.Text
import DrogonStarter.Observability.CapturedEvents

/-!
# The trace context of a request

`traceparent` takes a trace context over from the header when it has the shape of one, and
generates one otherwise.  The request remembers it.

* `TraceContext` is a context of the W3C form, with what the form demands of its parts.
* `validTraceparent_iff` says which texts have the shape, and `Lax` which of them are not of
  the form all the same.
* `ofForm_generated` is about the generator, and `traceparent_foldl` about what the request
  remembers.
* `propagates_iff` says for which headers the service propagates a valid context.
-/

namespace DrogonStarter.Observability

open CppNumber

/-- A number of lower-case hexadecimal digits. -/
def HexField (length : Nat) (digits : List Char) : Prop :=
  digits.length = length ∧ ∀ c ∈ digits, isLowerHexDigit c = true

def AllZero (digits : List Char) : Prop := ∀ c ∈ digits, c = '0'

/-- The four fields and the dashes between them. -/
def joinFields (version traceId spanId flags : List Char) : List Char :=
  version ++ '-' :: (traceId ++ '-' :: (spanId ++ '-' :: flags))

/-- A context of the W3C form. -/
structure TraceContext where
  version : List Char
  traceId : List Char
  spanId : List Char
  flags : List Char
  version_hex : HexField 2 version
  version_ne : version ≠ "ff".toList
  traceId_hex : HexField 32 traceId
  traceId_ne : ¬ AllZero traceId
  spanId_hex : HexField 16 spanId
  spanId_ne : ¬ AllZero spanId
  flags_hex : HexField 2 flags

def TraceContext.text (context : TraceContext) : List Char :=
  joinFields context.version context.traceId context.spanId context.flags

def OfForm (text : List Char) : Prop := ∃ context : TraceContext, context.text = text

/-! ## The shape -/

section fields

variable {version traceId spanId flags : List Char}

/-- Where the fields are. -/
theorem fields_joinFields (flags : List Char) (hversion : version.length = 2)
    (htraceId : traceId.length = 32) (hspanId : spanId.length = 16) :
    (joinFields version traceId spanId flags).take 2 = version ∧
      ((joinFields version traceId spanId flags).drop 3).take 32 = traceId ∧
      ((joinFields version traceId spanId flags).drop 36).take 16 = spanId ∧
      (joinFields version traceId spanId flags).drop 53 = flags ∧
      (joinFields version traceId spanId flags)[2]? = some '-' ∧
      (joinFields version traceId spanId flags)[35]? = some '-' ∧
      (joinFields version traceId spanId flags)[52]? = some '-' := by
  have hfirst : (joinFields version traceId spanId flags).drop 3 =
      traceId ++ '-' :: (spanId ++ '-' :: flags) := Text.drop_append_cons hversion
  have hsecond : (joinFields version traceId spanId flags).drop 36 = spanId ++ '-' :: flags := by
    rw [show 36 = 3 + (32 + 1) from rfl, ← List.drop_drop, hfirst]
    exact Text.drop_append_cons htraceId
  have hthird : (joinFields version traceId spanId flags).drop 53 = flags := by
    rw [show 53 = 36 + (16 + 1) from rfl, ← List.drop_drop, hsecond]
    exact Text.drop_append_cons hspanId
  refine ⟨List.take_left' hversion, ?_, ?_, hthird, Text.getElem?_append_cons hversion, ?_, ?_⟩
  · rw [hfirst]
    exact List.take_left' htraceId
  · rw [hsecond]
    exact List.take_left' hspanId
  · rw [show 35 = 3 + 32 from rfl, ← List.getElem?_drop, hfirst]
    exact Text.getElem?_append_cons htraceId
  · rw [show 52 = 36 + 16 from rfl, ← List.getElem?_drop, hsecond]
    exact Text.getElem?_append_cons hspanId

end fields

/-- The texts that pass the checks: four fields of hexadecimal digits, of any case. -/
theorem validTraceparent_iff (text : List Char) :
    validTraceparent text = true ↔
      ∃ version traceId spanId flags, text = joinFields version traceId spanId flags ∧
        version.length = 2 ∧ traceId.length = 32 ∧ spanId.length = 16 ∧ flags.length = 2 ∧
        (∀ c ∈ version, isHexDigit c = true) ∧ (∀ c ∈ traceId, isHexDigit c = true) ∧
        (∀ c ∈ spanId, isHexDigit c = true) ∧ ∀ c ∈ flags, isHexDigit c = true := by
  constructor
  · intro h
    simp only [validTraceparent, Bool.and_eq_true, decide_eq_true_eq, validHex,
      List.all_eq_true] at h
    obtain ⟨⟨⟨⟨⟨⟨⟨hlength, hfirst⟩, hsecond⟩, hthird⟩, hversion⟩, htraceId⟩, hspanId⟩, hflags⟩ := h
    refine ⟨text.take 2, (text.drop 3).take 32, (text.drop 36).take 16, (text.drop 53).take 2,
      ?_, ?_, ?_, ?_, ?_, hversion, htraceId, hspanId, hflags⟩
    · have hrest : (text.drop 53).take 2 = text.drop 53 :=
        List.take_of_length_le (by rw [List.length_drop]; omega)
      have hspan : text.drop 36 = (text.drop 36).take 16 ++ '-' :: text.drop 53 := by
        have hdash : (text.drop 36)[16]? = some '-' := by rw [List.getElem?_drop]; exact hthird
        have hsplit := Text.eq_append_of_getElem? hdash
        rwa [List.drop_drop] at hsplit
      have htrace : text.drop 3 = (text.drop 3).take 32 ++ '-' :: text.drop 36 := by
        have hdash : (text.drop 3)[32]? = some '-' := by rw [List.getElem?_drop]; exact hsecond
        have hsplit := Text.eq_append_of_getElem? hdash
        rwa [List.drop_drop] at hsplit
      rw [joinFields, hrest, ← hspan, ← htrace]
      exact Text.eq_append_of_getElem? hfirst
    all_goals simp only [List.length_take, List.length_drop]; omega
  · rintro ⟨version, traceId, spanId, flags, rfl, hversion, htraceId, hspanId, hflags, hall⟩
    obtain ⟨htake, htrace, hspan, hlast, hfirst, hsecond, hthird⟩ :=
      fields_joinFields flags hversion htraceId hspanId
    have hlength : (joinFields version traceId spanId flags).length = 55 := by
      simp only [joinFields, List.length_append, List.length_cons]
      omega
    have hrest : flags.take 2 = flags := List.take_of_length_le (le_of_eq hflags)
    simp only [validTraceparent, htake, htrace, hspan, hlast, hfirst, hsecond, hthird, hlength,
      hrest, validHex, List.all_eq_true, decide_true, Bool.true_and, Bool.and_eq_true]
    exact ⟨⟨⟨hall.1, hall.2.1⟩, hall.2.2.1⟩, hall.2.2.2⟩

/-- What the checks let through although the form excludes it: an upper-case digit, the version
that is reserved, or an id without a digit other than zero. -/
def Lax (text : List Char) : Prop :=
  (∃ c ∈ text, 'A' ≤ c ∧ c ≤ 'F') ∨ text.take 2 = "ff".toList ∨
    AllZero ((text.drop 3).take 32) ∨ AllZero ((text.drop 36).take 16)

instance (digits : List Char) : Decidable (AllZero digits) :=
  List.decidableBAll (· = '0') digits

instance : DecidablePred Lax := fun text =>
  haveI : Decidable (∃ c ∈ text, 'A' ≤ c ∧ c ≤ 'F') := List.decidableBEx _ text
  inferInstanceAs (Decidable (_ ∨ _))

theorem HexField.of_isHexDigit {length : Nat} {digits text : List Char}
    (hlength : digits.length = length) (hdigits : ∀ c ∈ digits, isHexDigit c = true)
    (hin : ∀ c ∈ digits, c ∈ text) (hupper : ¬ ∃ c ∈ text, 'A' ≤ c ∧ c ≤ 'F') :
    HexField length digits :=
  ⟨hlength, fun c hc => isLowerHexDigit_of_isHexDigit (hdigits c hc) fun h =>
    hupper ⟨c, hin c hc, h⟩⟩

theorem HexField.isHexDigit {length : Nat} {digits : List Char} (h : HexField length digits) :
    ∀ c ∈ digits, isHexDigit c = true :=
  fun c hc => isHexDigit_of_isLowerHexDigit (h.2 c hc)

namespace TraceContext

variable (context : TraceContext)

theorem validTraceparent_text : validTraceparent context.text = true :=
  (validTraceparent_iff _).2 ⟨_, _, _, _, rfl, context.version_hex.1, context.traceId_hex.1,
    context.spanId_hex.1, context.flags_hex.1, context.version_hex.isHexDigit,
    context.traceId_hex.isHexDigit, context.spanId_hex.isHexDigit, context.flags_hex.isHexDigit⟩

theorem eq_dash_or_isLowerHexDigit {c : Char} (hc : c ∈ context.text) :
    c = '-' ∨ isLowerHexDigit c = true := by
  simp only [text, joinFields, List.mem_append, List.mem_cons] at hc
  rcases hc with hc | hc | hc | hc | hc | hc | hc
  · exact Or.inr (context.version_hex.2 c hc)
  · exact Or.inl hc
  · exact Or.inr (context.traceId_hex.2 c hc)
  · exact Or.inl hc
  · exact Or.inr (context.spanId_hex.2 c hc)
  · exact Or.inl hc
  · exact Or.inr (context.flags_hex.2 c hc)

theorem not_lax : ¬ Lax context.text := by
  obtain ⟨htake, htrace, hspan, _⟩ := fields_joinFields context.flags
    context.version_hex.1 context.traceId_hex.1 context.spanId_hex.1
  rintro (⟨c, hc, hupper⟩ | hversion | hzero | hzero)
  · rcases context.eq_dash_or_isLowerHexDigit hc with rfl | hlower
    · exact absurd hupper (by decide)
    · exact not_upper_of_isLowerHexDigit hlower hupper
  · exact context.version_ne (htake.symm.trans hversion)
  · rw [text, htrace] at hzero
    exact context.traceId_ne hzero
  · rw [text, hspan] at hzero
    exact context.spanId_ne hzero

end TraceContext

/-- What has the shape and is not lax is the text of a context. -/
theorem ofForm_of_not_lax {text : List Char} (hvalid : validTraceparent text = true)
    (hlax : ¬ Lax text) : OfForm text := by
  obtain ⟨version, traceId, spanId, flags, rfl, hversion, htraceId, hspanId, hflags,
    hall⟩ := (validTraceparent_iff _).1 hvalid
  obtain ⟨htake, htrace, hspan, _⟩ :=
    fields_joinFields flags hversion htraceId hspanId
  simp only [Lax, htake, htrace, hspan, not_or] at hlax
  obtain ⟨hupper, hreserved, htraceZero, hspanZero⟩ := hlax
  have hin : ∀ c, c ∈ version ∨ c ∈ traceId ∨ c ∈ spanId ∨ c ∈ flags →
      c ∈ joinFields version traceId spanId flags := by
    intro c hc
    simp only [joinFields, List.mem_append, List.mem_cons]
    rcases hc with hc | hc | hc | hc <;> simp only [hc, true_or, or_true]
  exact ⟨{
    version, traceId, spanId, flags
    version_hex := .of_isHexDigit hversion hall.1 (fun c hc => hin c (Or.inl hc)) hupper
    version_ne := hreserved
    traceId_hex :=
      .of_isHexDigit htraceId hall.2.1 (fun c hc => hin c (Or.inr (Or.inl hc))) hupper
    traceId_ne := htraceZero
    spanId_hex :=
      .of_isHexDigit hspanId hall.2.2.1 (fun c hc => hin c (Or.inr (Or.inr (Or.inl hc)))) hupper
    spanId_ne := hspanZero
    flags_hex :=
      .of_isHexDigit hflags hall.2.2.2 (fun c hc => hin c (Or.inr (Or.inr (Or.inr hc))))
        hupper }, rfl⟩

/-- A text is of the form when it has the shape and is not lax. -/
theorem ofForm_iff (text : List Char) :
    OfForm text ↔ validTraceparent text = true ∧ ¬ Lax text := by
  constructor
  · rintro ⟨context, rfl⟩
    exact ⟨context.validTraceparent_text, context.not_lax⟩
  · exact fun h => ofForm_of_not_lax h.1 h.2

/-! ## The generator -/

theorem length_hexBlock (value : UInt64) : (hexBlock value).length = 16 := by
  have hdigits : (Nat.toDigits 16 value.toNat).length ≤ 16 :=
    (Nat.length_toDigits_le_iff (by decide) (by decide)).2 value.toNat_lt
  simp only [hexBlock, List.length_append, List.length_replicate]
  omega

theorem isLowerHexDigit_of_mem_hexBlock {value : UInt64} {c : Char} (h : c ∈ hexBlock value) :
    isLowerHexDigit c = true := by
  rcases List.mem_append.1 h with hpadding | hdigit
  · rw [(List.mem_replicate.1 hpadding).2]
    decide
  · exact isLowerHexDigit_of_mem_toDigits hdigit

/-- Only zero is printed as zeros. -/
theorem eq_zero_of_allZero_hexBlock {value : UInt64} (h : AllZero (hexBlock value)) :
    value = 0 := by
  have hdigits : value.toNat = 0 :=
    eq_zero_of_toDigits fun c hc => h c (List.mem_append_right _ hc)
  exact UInt64.toNat_inj.1 hdigits

theorem toList_randomHex_16 (generator : Nat → UInt64) :
    (randomHex generator 16).toList = hexBlock (generator 0) := by
  have hloop : (List.range ((16 + 15) / 16)).flatMap (fun i => hexBlock (generator i)) =
      hexBlock (generator 0) := List.append_nil _
  rw [randomHex, String.toList_ofList, hloop]
  exact List.take_of_length_le (le_of_eq (length_hexBlock _))

theorem toList_randomHex_32 (generator : Nat → UInt64) :
    (randomHex generator 32).toList = hexBlock (generator 0) ++ hexBlock (generator 1) := by
  have hloop : (List.range ((32 + 15) / 16)).flatMap (fun i => hexBlock (generator i)) =
      hexBlock (generator 0) ++ hexBlock (generator 1) := by
    change hexBlock (generator 0) ++ (hexBlock (generator 1) ++ []) = _
    rw [List.append_nil]
  rw [randomHex, String.toList_ofList, hloop]
  refine List.take_of_length_le (le_of_eq ?_)
  rw [List.length_append, length_hexBlock, length_hexBlock]

/-- The generated ids are not zero. -/
structure Entropy.NonZero (random : Entropy) : Prop where
  traceId : random.traceId 0 ≠ 0 ∨ random.traceId 1 ≠ 0
  spanId : random.spanId 0 ≠ 0

/-- The context that is generated in place of a header. -/
def generated (random : Entropy) : String :=
  "00-" ++ randomHex random.traceId 32 ++ "-" ++ randomHex random.spanId 16 ++ "-01"

/-- A generated context is of the form. -/
theorem ofForm_generated {random : Entropy} (h : random.NonZero) :
    OfForm (generated random).toList := by
  have htrace := toList_randomHex_32 random.traceId
  have hspan := toList_randomHex_16 random.spanId
  refine ⟨{
    version := "00".toList
    traceId := (randomHex random.traceId 32).toList
    spanId := (randomHex random.spanId 16).toList
    flags := "01".toList
    version_hex := ⟨rfl, List.all_eq_true.1 rfl⟩
    version_ne := by decide
    traceId_hex := ?_
    traceId_ne := ?_
    spanId_hex := ?_
    spanId_ne := ?_
    flags_hex := ⟨rfl, List.all_eq_true.1 rfl⟩ }, ?_⟩
  · rw [htrace]
    refine ⟨by rw [List.length_append, length_hexBlock, length_hexBlock], fun c hc => ?_⟩
    rcases List.mem_append.1 hc with hc | hc
    · exact isLowerHexDigit_of_mem_hexBlock hc
    · exact isLowerHexDigit_of_mem_hexBlock hc
  · rw [htrace]
    intro hzero
    rcases h.traceId with hfirst | hsecond
    · exact hfirst (eq_zero_of_allZero_hexBlock fun c hc =>
        hzero c (List.mem_append_left _ hc))
    · exact hsecond (eq_zero_of_allZero_hexBlock fun c hc =>
        hzero c (List.mem_append_right _ hc))
  · rw [hspan]
    exact ⟨length_hexBlock _, fun c hc => isLowerHexDigit_of_mem_hexBlock hc⟩
  · rw [hspan]
    exact fun hzero => h.spanId (eq_zero_of_allZero_hexBlock hzero)
  · have hfirst : "00-".toList = "00".toList ++ ['-'] := rfl
    have hdash : "-".toList = ['-'] := rfl
    have hlast : "-01".toList = '-' :: "01".toList := rfl
    simp only [TraceContext.text, joinFields, generated, String.toList_append, hfirst, hdash,
      hlast, List.append_assoc, List.cons_append, List.nil_append]

/-! ## What the request remembers -/

/-- The functions of the module that work on a request. -/
inductive RequestCall where
  | requestId (random : Entropy)
  | traceparent (random : Entropy)
  /-- The request-aware `captureException`. -/
  | captureException (random : Entropy)

/-- The request after a call. -/
def RequestCall.perform (request : HttpRequest) : RequestCall → HttpRequest
  | .requestId random => (Observability.requestId request random).2
  | .traceparent random => (Observability.traceparent request random).2
  | .captureException random => (Capture.requestContext request random).2

theorem attributes_insert (request : HttpRequest) (key value other : String) :
    (request.insert key value).attributes other =
      if other = key then some value else request.attributes other := rfl

theorem attributes_requestId (request : HttpRequest) (random : Entropy) :
    (requestId request random).2.attributes kTraceparent = request.attributes kTraceparent := by
  have hother : kTraceparent ≠ kRequestId := by decide
  unfold requestId
  cases request.attributes kRequestId with
  | some id => rfl
  | none =>
    simp only [attributes_insert, if_neg hother]

/-- A context that the request has is returned, and nothing changes. -/
theorem traceparent_of_some {request : HttpRequest} {context : String}
    (h : request.attributes kTraceparent = some context) (random : Entropy) :
    traceparent request random = (context, request) := by
  unfold traceparent
  rw [h]

theorem attributes_perform {request : HttpRequest} {context : String}
    (h : request.attributes kTraceparent = some context) (call : RequestCall) :
    (call.perform request).attributes kTraceparent = some context := by
  cases call with
  | requestId random => exact (attributes_requestId request random).trans h
  | traceparent random =>
    change (Observability.traceparent request random).2.attributes kTraceparent = _
    rw [traceparent_of_some h]
    exact h
  | captureException random =>
    change (requestId (traceparent request random).2 random).2.attributes kTraceparent = _
    rw [attributes_requestId, traceparent_of_some h]
    exact h

/-- A context that the request has is returned after any calls. -/
theorem traceparent_foldl {request : HttpRequest} {context : String}
    (h : request.attributes kTraceparent = some context) (calls : List RequestCall)
    (random : Entropy) :
    (traceparent (calls.foldl RequestCall.perform request) random).1 = context := by
  induction calls generalizing request with
  | nil => exact congrArg Prod.fst (traceparent_of_some h random)
  | cons call calls ih => exact ih (attributes_perform h call)

/-! ## What is propagated -/

/-- A call of `traceparent` returns a context of the form, the one of the header exactly if that
is of the form, and so does every later call. -/
structure Propagates (request : HttpRequest) (random : Entropy) : Prop where
  ofForm : OfForm (traceparent request random).1.toList
  supplied : (traceparent request random).1 = request.getHeader "traceparent" ↔
    OfForm (request.getHeader "traceparent").toList
  again : ∀ (calls : List RequestCall) (random' : Entropy),
    (traceparent (calls.foldl RequestCall.perform (traceparent request random).2) random').1 =
      (traceparent request random).1

/-- The first call on a request. -/
theorem traceparent_of_none {request : HttpRequest}
    (h : request.attributes kTraceparent = none) (random : Entropy) :
    (traceparent request random).1 =
        (if validTraceparent (request.getHeader "traceparent").toList then
          request.getHeader "traceparent"
        else generated random) ∧
      (traceparent request random).2.attributes kTraceparent =
        some (traceparent request random).1 := by
  unfold traceparent
  rw [h]
  refine ⟨rfl, ?_⟩
  simp only [attributes_insert, if_true]

/-- The service propagates a valid context if and only if the header does not have the shape of
a context with an upper-case digit, the reserved version or an id that is zero. -/
theorem propagates_iff {request : HttpRequest} {random : Entropy}
    (hfresh : request.attributes kTraceparent = none) (hrandom : random.NonZero) :
    Propagates request random ↔
      ¬ (validTraceparent (request.getHeader "traceparent").toList = true ∧
        Lax (request.getHeader "traceparent").toList) := by
  obtain ⟨hresult, hkept⟩ := traceparent_of_none hfresh random
  have hform := ofForm_iff (request.getHeader "traceparent").toList
  by_cases hvalid : validTraceparent (request.getHeader "traceparent").toList = true
  case neg =>
    rw [if_neg hvalid] at hresult
    have hgenerated : OfForm (traceparent request random).1.toList := by
      rw [hresult]
      exact ofForm_generated hrandom
    refine iff_of_true ⟨hgenerated, ?_, fun calls => traceparent_foldl hkept calls⟩
      fun h => hvalid h.1
    refine iff_of_false (fun hsame => ?_) fun h => hvalid (hform.1 h).1
    exact hvalid (hform.1 (hsame ▸ hgenerated)).1
  case pos =>
    rw [if_pos hvalid] at hresult
    constructor
    · intro h hlax
      have hheader := h.ofForm
      rw [hresult] at hheader
      exact (hform.1 hheader).2 hlax.2
    · intro hlax
      have hheader : OfForm (request.getHeader "traceparent").toList :=
        hform.2 ⟨hvalid, fun h => hlax ⟨hvalid, h⟩⟩
      refine ⟨?_, iff_of_true hresult hheader, fun calls => traceparent_foldl hkept calls⟩
      rw [hresult]
      exact hheader

/-- A request with the header, and generators that produce one. -/
def tracedRequest (header : String) : HttpRequest where
  methodString := "GET"
  path := "/api/v1/user"
  getHeader name := if name = "traceparent" then header else ""

def ones : Entropy where
  requestId := 1
  traceId _ := 1
  spanId _ := 1

theorem propagates_iff_sampled :
    Propagates (tracedRequest "00-4bf92f3577b34da6a3ce929d0e0e4736-00f067aa0ba902b7-01") ones :=
  (propagates_iff rfl ⟨Or.inl (by decide), by decide⟩).2 fun h => by
    have hlax : ¬ Lax "00-4bf92f3577b34da6a3ce929d0e0e4736-00f067aa0ba902b7-01".toList := by
      decide
    exact hlax h.2

/-- The version that is reserved is taken over from the header. -/
theorem reserved_version_propagated :
    ¬ ∀ (request : HttpRequest) (random : Entropy), request.attributes kTraceparent = none →
      random.NonZero → Propagates request random := by
  intro hall
  have hform := (hall (tracedRequest "ff-4bf92f3577b34da6a3ce929d0e0e4736-00f067aa0ba902b7-01") ones
    rfl ⟨Or.inl (by decide), by decide⟩).ofForm
  have hreturned :
      (traceparent (tracedRequest "ff-4bf92f3577b34da6a3ce929d0e0e4736-00f067aa0ba902b7-01")
        ones).1 = "ff-4bf92f3577b34da6a3ce929d0e0e4736-00f067aa0ba902b7-01" := by
    rw [(traceparent_of_none rfl ones).1]
    exact if_pos (by decide)
  rw [hreturned, ofForm_iff] at hform
  exact hform.2 (Or.inr (Or.inl (by decide)))

end DrogonStarter.Observability
