import DrogonStarter.Records.RecordEndpoint
import DrogonStarter.Roles.RoleService

/-!
# The role endpoints

`RoleController` has one handler for each of the five requests.  Each is a handler of
`RecordEndpoint` at the values of the roles.
-/

namespace DrogonStarter

open Serving

namespace RoleController

/-- The values of `RoleController`.  A list handler without a case for
`std::invalid_argument` answers it like any other exception. -/
def endpoint : RecordEndpoint Roles where
  toRecordService := RoleService.records
  resource := "roles"
  stem := "roles:"
  toPublicJson := RoleService.toPublicJson
  toJson := Roles.toJson
  listRefused := 500
  createRefused := errorResponse "Missing data in JSON body" 400
  createFailed := errorResponse "Unable to create role" 500
  updateRefused := errorResponse "Request body must contain name and description" 400
  updateFailed := errorResponse "Unable to update role" 500

/-- `getRoles`. -/
def getRoles (p : Platform) (s : Records Roles) (env : Circumstances Roles)
    (parameters : String → Option String) : Records Roles × HttpResponse :=
  endpoint.getRecords p s env parameters

/-- `getRoleById`. -/
def getRoleById (p : Platform) (s : Records Roles) (env : Circumstances Roles) (id : String) :
    Records Roles × HttpResponse :=
  endpoint.getRecordById p s env id

/-- `createRole`. -/
def createRole (p : Platform) (s : Records Roles) (env : Circumstances Roles)
    (jsonBody : Option Json) : Records Roles × HttpResponse :=
  endpoint.createRecord p s env jsonBody

/-- `updateRoleById`. -/
def updateRoleById (p : Platform) (s : Records Roles) (env : Circumstances Roles)
    (roleId : String) (jsonBody : Option Json) : Records Roles × HttpResponse :=
  endpoint.updateRecordById p s env roleId jsonBody

/-- `deleteRoleById`. -/
def deleteRoleById (s : Records Roles) (env : Circumstances Roles) (roleId : String) :
    Records Roles × HttpResponse :=
  endpoint.deleteRecordById s env roleId

/-- The handler of a request. -/
def dispatch (p : Platform) (s : Records Roles) (env : Circumstances Roles) :
    RecordRequest → Records Roles × HttpResponse
  | .getRecords parameters => getRoles p s env parameters
  | .getRecordById id => getRoleById p s env id
  | .createRecord jsonBody => createRole p s env jsonBody
  | .updateRecordById roleId jsonBody => updateRoleById p s env roleId jsonBody
  | .deleteRecordById roleId => deleteRoleById s env roleId

theorem dispatch_eq : dispatch = endpoint.dispatch := by
  funext p s env request
  cases request <;> rfl

end RoleController

end DrogonStarter
