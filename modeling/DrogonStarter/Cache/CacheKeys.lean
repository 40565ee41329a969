import DrogonStarter.Records.CachedPages
import DrogonStarter.Roles.RoleController

/-!
# The keys of the two lists

The list handlers store their pages under `PageRequest.cacheKey`, and the write handlers
delete the pages of their resource by a prefix that is written in another place.

* `RecordEndpoint.Stores` are the keys that a list handler can have stored.
* `RecordEndpoint.InvalidatesOnly` says that the writes of one resource delete all of its own
  keys and none of those of another.
* `keys_separate_prefixes_cover` says both of the users and of the roles.
-/

namespace DrogonStarter

namespace RecordEndpoint

variable {ρ σ : Type}

/-- The list handler can have stored a page under the key. -/
def Stores (endpoint : RecordEndpoint ρ) (key : String) : Prop :=
  ∃ (p : Platform) (s : Records ρ) (call : RecordRequest × Circumstances ρ),
    endpoint.storedKey p s call = some key

/-- The keys of a resource begin with its name and a colon. -/
theorem Stores.begins {endpoint : RecordEndpoint ρ} {key : String} (h : endpoint.Stores key) :
    (endpoint.resource ++ ":").toList <+: key.toList := by
  obtain ⟨_, _, _, hstored⟩ := h
  obtain ⟨request, hkey⟩ := eq_cacheKey_of_storedKey hstored
  rw [hkey]
  exact request.cacheKey_begins endpoint.resource

/-- Whatever is cached and whichever commands take effect, an invalidation deletes the keys of
the one resource, and none of the other. -/
def InvalidatesOnly (endpoint : RecordEndpoint ρ) (other : RecordEndpoint σ) : Prop :=
  ∀ (o : RedisOutcome) (redis : Redis String),
    (∀ key, endpoint.Stores key → o.keys = true → o.del key = true →
      (RedisCache.erasePrefix o redis endpoint.stem).get key = none) ∧
    ∀ key, other.Stores key →
      (RedisCache.erasePrefix o redis endpoint.stem).get key = redis.get key

/-- It does when neither name with its colon begins the other. -/
theorem invalidatesOnly {endpoint : RecordEndpoint ρ} {other : RecordEndpoint σ}
    (hconv : endpoint.Conventional)
    (hnot : ¬ (endpoint.resource ++ ":").toList <+: (other.resource ++ ":").toList)
    (hnot' : ¬ (other.resource ++ ":").toList <+: (endpoint.resource ++ ":").toList) :
    endpoint.InvalidatesOnly other := by
  intro o redis
  rw [hconv.stem]
  constructor
  · intro key hstores hkeys hdel
    exact RedisCache.get_erasePrefix_eq_none hkeys redis hdel hstores.begins
  · intro key hstores
    refine RedisCache.get_erasePrefix_of_not_prefix o redis fun hbegins => ?_
    -- two beginnings of one key: the shorter one begins the longer one
    rcases List.prefix_or_prefix_of_prefix hbegins hstores.begins with h | h
    · exact hnot h
    · exact hnot' h

end RecordEndpoint

/-- A key belongs to one page of one resource, and the writes of either resource delete the
keys of its list handler and none of the other one's. -/
theorem keys_separate_prefixes_cover (generateHash : GenerateHash) :
    (∀ (r r' : PageRequest) (resource resource' : String),
      r.cacheKey resource = r'.cacheKey resource' →
        resource = resource' ∧ r.page = r'.page ∧ r.pageSize = r'.pageSize) ∧
    (UserController.endpoint generateHash).InvalidatesOnly RoleController.endpoint ∧
    RoleController.endpoint.InvalidatesOnly (UserController.endpoint generateHash) := by
  have husers : ¬ "users:".toList <+: "roles:".toList := by decide
  have hroles : ¬ "roles:".toList <+: "users:".toList := by decide
  refine ⟨?_, ?_, ?_⟩
  · intro r r' resource resource' hkey
    obtain ⟨hresource, hrequest⟩ := PageRequest.cacheKey_inj hkey
    exact ⟨hresource, congrArg PageRequest.page hrequest, congrArg PageRequest.pageSize hrequest⟩
  · exact RecordEndpoint.invalidatesOnly (UserController.conventional generateHash) husers hroles
  · exact RecordEndpoint.invalidatesOnly RoleController.conventional hroles husers

/-- A list of the roles stores its page. -/
example : RoleController.endpoint.Stores "roles:page=1:size=25" :=
  ⟨compactPlatform, { rows := [] }, (.getRecords fun _ => none, letterCircumstances Roles), by
    decide⟩

end DrogonStarter
