import OriginGate.Event
import OriginGate.Response.ErrorPage
import OriginGate.Tenant.Directory

/-!
The check that a request's tenant is active. A check keeps, beside its verdict, the calls it made
on the directory and what it logged. A request without a tenant passes without a call.
-/

namespace OriginGate

/-- A call on the directory. -/
inductive DirectoryCall where
  /-- Asks for the number of a domain. -/
  | tenantId (domain : String)
  /-- Asks whether the tenant with a number is active. -/
  | isActive (id : TenantId)
  deriving DecidableEq

/-- What came of asking about one domain, down to the call that settled it. -/
inductive Standing where
  /-- The domain has no number. -/
  | noId (fault : DirectoryFault)
  /-- The activity of the tenant with a number could not be told. -/
  | noActivity (id : TenantId) (fault : DirectoryFault)
  /-- The tenant with a number is active or not. -/
  | known (id : TenantId) (active : Bool)

/-- Asks a directory about a domain: for its number, and, with the number, for the activity. -/
def Directory.standing (directory : Directory) (domain : String) : Standing :=
  match directory.tenantId domain with
  | .error fault => .noId fault
  | .ok id =>
    match directory.isActive id with
    | .error fault => .noActivity id fault
    | .ok active => .known id active

namespace Standing

/-- The calls that were made, in order. -/
def calls (domain : String) : Standing → List DirectoryCall
  | noId _ => [.tenantId domain]
  | noActivity id _ => [.tenantId domain, .isActive id]
  | known id _ => [.tenantId domain, .isActive id]

/-- The call that failed, if one did. -/
def fault? : Standing → Option DirectoryFault
  | noId fault => some fault
  | noActivity _ fault => some fault
  | known .. => none

/-- Only an active tenant is served. -/
def verdict (domain : String) : Standing → Except TenantRejection Unit
  | noId fault => .error (fault.rejection domain)
  | noActivity _ fault => .error (fault.rejection domain)
  | known _ active => if active then .ok () else .error (.inactive domain)

/-- A failed call is logged. -/
def events (domain : String) (standing : Standing) : List Event :=
  standing.fault?.toList.map (.directoryFailed domain)

end Standing

/-- A finished check. -/
structure Check where
  /-- Why the tenant is rejected, if it is. -/
  verdict : Except TenantRejection Unit
  calls : List DirectoryCall := []
  events : List Event := []

/-- Checks the tenant of a request. An empty domain is no domain. -/
def Directory.check (directory : Directory) (tenant : Option String) : Check :=
  match tenant.filter (· ≠ "") with
  | none => { verdict := .ok () }
  | some domain =>
    let standing := directory.standing domain
    { verdict := standing.verdict domain
      calls := standing.calls domain
      events := standing.events domain }

/-- The response after a check has been rendered into it: a rejection is written, a pass leaves no
trace. -/
def Check.screen (check : Check) (response : Response) : Response :=
  match check.verdict with
  | .ok () => response
  | .error rejection => response.rejectTenant rejection

@[simp] theorem Directory.check_none (directory : Directory) :
    directory.check none = { verdict := .ok () } :=
  rfl

@[simp] theorem Directory.check_empty (directory : Directory) :
    directory.check (some "") = { verdict := .ok () } :=
  rfl

theorem Directory.check_some (directory : Directory) {domain : String} (named : domain ≠ "") :
    directory.check (some domain) =
      { verdict := (directory.standing domain).verdict domain
        calls := (directory.standing domain).calls domain
        events := (directory.standing domain).events domain } := by
  simp [check, Option.filter, named]

end OriginGate
