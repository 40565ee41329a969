import DrogonStarter.Lib.Json
import DrogonStarter.Pagination.PageRequest

/-!
# Page responses

`PageResult.toJson` is the body of a list response: the projected items, the
request that they answer, and how many rows there are.
-/

namespace DrogonStarter

namespace PageResult

variable {α : Type}

/-- `pagination::toJson`. -/
def toJson (page : PageResult α) (project : α → Json) : Json :=
  Json.ofMembers
    [("results", .array (page.items.map project)),
      ("page", .int page.request.page),
      ("page_size", .int page.request.pageSize),
      ("total", .int page.total),
      ("has_next", .bool page.hasNext)]

/-- The page with every item replaced. -/
def map {β : Type} (page : PageResult α) (f : α → β) : PageResult β :=
  { items := page.items.map f, total := page.total, request := page.request }

/-- A page of other items that the projection does not tell apart. -/
theorem toJson_map {β : Type} (page : PageResult α) (f : α → β) (project : β → Json) :
    (page.map f).toJson project = page.toJson (project ∘ f) := by
  unfold toJson map
  rw [List.map_map]
  rfl

/-- The names in a list response are those of the page and those of its
items. -/
theorem not_hasMember_toJson {page : PageResult α} {project : α → Json} {name : String}
    (hname : name ∉ ["results", "page", "page_size", "total", "has_next"])
    (hitems : ∀ item ∈ page.items, ¬ (project item).HasMember name) :
    ¬ (page.toJson project).HasMember name := by
  have hresults : ¬ (Json.array (page.items.map project)).HasMember name := by
    refine Json.not_hasMember_array fun j hj => ?_
    obtain ⟨item, hitem, rfl⟩ := List.mem_map.1 hj
    exact hitems item hitem
  refine Json.not_hasMember_ofMembers fun member hmember => ?_
  have hkey : member.1 ≠ name := fun hkey =>
    hname (hkey ▸ List.mem_map_of_mem (f := Prod.fst) hmember)
  refine ⟨hkey, ?_⟩
  simp only [List.mem_cons, List.not_mem_nil, or_false] at hmember
  rcases hmember with rfl | rfl | rfl | rfl | rfl
  · exact hresults
  all_goals simp

end PageResult

end DrogonStarter
