import DrogonStarter.Lib.Decimal

/-!
# Page requests

A list endpoint reads `page` and `page_size` from its query parameters.
`PageRequest.fromParameters` is the parser with its two error texts, and
`PageRequest.cacheKey` is the Redis key under which the page is stored.
-/

namespace DrogonStarter

open CppNumber

/-- `struct PageRequest`.  The fields are 32-bit integers. -/
structure PageRequest where
  page : Int := 1
  pageSize : Int := 25
deriving DecidableEq

namespace PageRequest

def kMaxPageSize : Int := 100

/-- `offset()`.  A product that does not fit wraps around. -/
def offset (r : PageRequest) : Int := int32 (int32 (r.page - 1) * r.pageSize)

def cacheKey (r : PageRequest) (resource : String) : String :=
  resource ++ ":page=" ++ toString r.page ++ ":size=" ++ toString r.pageSize

/-- One of the two parameters: its default, or the integer at the start of its
text. -/
def readParameter (parameters : String → Option String) (name : String) (fallback : Int) :
    Except String Int :=
  match parameters name with
  | none => .ok fallback
  | some text => (stoi text).mapError fun _ => "page and page_size must be integers"

/-- `PageRequest::from`, on the parameters of the request.  An error is the
text of its `std::invalid_argument`. -/
def fromParameters (parameters : String → Option String) : Except String PageRequest := do
  let base : PageRequest := {}
  let page ← readParameter parameters "page" base.page
  let pageSize ← readParameter parameters "page_size" base.pageSize
  if page < 1 ∨ pageSize < 1 ∨ kMaxPageSize < pageSize then
    throw "page must be positive and page_size must be between 1 and 100"
  return { page, pageSize }

/-- Every key of a resource begins with its name and a colon. -/
theorem cacheKey_begins (r : PageRequest) (resource : String) :
    (resource ++ ":").toList <+: (r.cacheKey resource).toList := by
  have hcolon : ":page=".toList = ":".toList ++ "page=".toList := rfl
  simp only [cacheKey, String.toList_append, hcolon, List.append_assoc]
  rw [← List.append_assoc]
  exact List.prefix_append _ _

/-- Both numbers are positive, as `from` makes sure. -/
structure Positive (r : PageRequest) : Prop where
  page : 1 ≤ r.page
  pageSize : 1 ≤ r.pageSize

/-- `from` accepts what it reads of the two parameters when both are in range. -/
theorem fromParameters_ok_iff {parameters : String → Option String} {r : PageRequest} :
    fromParameters parameters = .ok r ↔
      readParameter parameters "page" 1 = .ok r.page ∧
        readParameter parameters "page_size" 25 = .ok r.pageSize ∧
        1 ≤ r.page ∧ 1 ≤ r.pageSize ∧ r.pageSize ≤ kMaxPageSize := by
  unfold fromParameters
  cases hpage : readParameter parameters "page" 1 with
  | error what =>
    refine iff_of_false (fun h => ?_) (by simp)
    simp only [hpage, bind, Except.bind] at h
    cases h
  | ok page =>
    cases hpageSize : readParameter parameters "page_size" 25 with
    | error what =>
      refine iff_of_false (fun h => ?_) (by simp)
      simp only [hpage, hpageSize, bind, Except.bind] at h
      cases h
    | ok pageSize =>
      simp only [hpage, hpageSize, bind, Except.bind, Except.ok.injEq]
      constructor
      · intro h
        split at h
        case isTrue => cases h
        case isFalse hrange =>
          cases h
          refine ⟨rfl, rfl, ?_, ?_, ?_⟩ <;> dsimp only <;> omega
      · rintro ⟨rfl, rfl, hpage, hpageSize, hmax⟩
        rw [if_neg (by omega)]
        rfl

theorem positive_of_fromParameters {parameters : String → Option String} {r : PageRequest}
    (h : fromParameters parameters = .ok r) : r.Positive := by
  obtain ⟨_, _, hpage, hpageSize, _⟩ := fromParameters_ok_iff.1 h
  exact ⟨hpage, hpageSize⟩

/-- A key with its last two equality signs, which no number contains. -/
theorem toList_cacheKey (r : PageRequest) (resource : String) :
    (r.cacheKey resource).toList =
      (resource.toList ++ ":page".toList ++ '=' :: ((toString r.page).toList ++ ":size".toList)) ++
        '=' :: (toString r.pageSize).toList := by
  have hpage : ":page=".toList = ":page".toList ++ ['='] := rfl
  have hsize : ":size=".toList = ":size".toList ++ ['='] := rfl
  simp only [cacheKey, String.toList_append, hpage, hsize, List.append_assoc, List.cons_append,
    List.nil_append]

/-- Different requests, and requests for different resources, have different keys. -/
theorem cacheKey_inj {r r' : PageRequest} {resource resource' : String}
    (h : r.cacheKey resource = r'.cacheKey resource') : resource = resource' ∧ r = r' := by
  have hnumber : ∀ n : Int, '=' ∉ (toString n).toList :=
    not_mem_toString_int (by decide) (by decide)
  have hbefore : ∀ n : Int, '=' ∉ (toString n).toList ++ ":size".toList := by
    intro n
    rw [List.mem_append, not_or]
    exact ⟨hnumber n, by decide⟩
  have hchars := congrArg String.toList h
  rw [toList_cacheKey, toList_cacheKey] at hchars
  obtain ⟨hstem, hsize⟩ := append_cons_inj_last (hnumber _) (hnumber _) hchars
  obtain ⟨hresource, hpage⟩ := append_cons_inj_last (hbefore _) (hbefore _) hstem
  refine ⟨String.toList_inj.1 (List.append_cancel_right hresource), ?_⟩
  have hpageValue := toString_int_injective (String.toList_inj.1 (List.append_cancel_right hpage))
  have hsizeValue := toString_int_injective (String.toList_inj.1 hsize)
  rw [PageRequest.mk.injEq]
  exact ⟨hpageValue, hsizeValue⟩

end PageRequest

/-- `struct PageResult`. -/
structure PageResult (α : Type) where
  items : List α
  total : Nat := 0
  request : PageRequest

/-- `hasNext()`, which compares as `std::size_t`. -/
def PageResult.hasNext {α : Type} (p : PageResult α) : Bool :=
  decide (toSize (int32 (p.request.offset + p.request.pageSize)) < p.total)

example :
    PageRequest.fromParameters (fun name => if name = "page" then some "2 pages" else none) =
      .ok { page := 2, pageSize := 25 } := by rfl

end DrogonStarter
