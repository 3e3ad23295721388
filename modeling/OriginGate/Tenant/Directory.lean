import OriginGate.Fault
import OriginGate.Refusal
import OriginGate.Text.Blank
import OriginGate.Text.Substring

/-!
The directory of tenants: which number a domain has, and whether the tenant with a number is
active. Both questions may fail, and a failure is told to the client as a rejection. A directory
can be read off a list of registrations.
-/

namespace OriginGate

/-- The number under which the directory keeps a tenant. -/
abbrev TenantId := Int

/-- A directory, as the answers it gives. -/
structure Directory where
  /-- The number of the tenant with a domain. -/
  tenantId : String → Except DirectoryFault TenantId
  /-- Whether the tenant with a number is active. -/
  isActive : TenantId → Except DirectoryFault Bool

/-- What a directory's failure says if the domain asked for is unknown to it. -/
def unknownDomainMark : String := "Invalid tenant domain"

/-- Whether a message that is not blank says that a domain is unknown. -/
def saysUnknownDomain (message : String) : Bool :=
  !Text.isBlank message && Text.isSubstring unknownDomainMark message

/-- How a failure is told to the client. A failing user store, and any failure that says the
domain is unknown, means that there is no such tenant. -/
def DirectoryFault.rejection (fault : DirectoryFault) (domain : String) : TenantRejection :=
  match fault with
  | userStore _ => .inactive domain
  | runtime message =>
    if saysUnknownDomain message then .inactive domain else .lookupFailed domain

@[simp] theorem DirectoryFault.domain_rejection (fault : DirectoryFault) (domain : String) :
    (fault.rejection domain).domain = domain := by
  cases fault
  · rfl
  · unfold rejection
    dsimp only
    split <;> rfl

/-! ## Registrations -/

/-- What a directory has on record about one tenant: each entry is an answer or a failure. -/
structure Registration where
  domain : String
  id : Except DirectoryFault TenantId
  active : Except DirectoryFault Bool := .ok true

/-- Whether a registration tells its number and has the number given. -/
def Registration.hasId (registration : Registration) (id : TenantId) : Bool :=
  match registration.id with
  | .ok own => own == id
  | .error _ => false

/-- The number in the first registration of a domain. A domain without one is unknown. -/
def lookupId (registrations : List Registration) (domain : String) :
    Except DirectoryFault TenantId :=
  match registrations.find? (·.domain = domain) with
  | some registration => registration.id
  | none => .error (.runtime (unknownDomainMark ++ " " ++ domain))

/-- The activity in the first registration with a number. A number without one is not active. -/
def lookupActive (registrations : List Registration) (id : TenantId) :
    Except DirectoryFault Bool :=
  match registrations.find? (·.hasId id) with
  | some registration => registration.active
  | none => .ok false

/-- The directory that answers from a list of registrations. -/
def Directory.ofRegistrations (registrations : List Registration) : Directory where
  tenantId := lookupId registrations
  isActive := lookupActive registrations

end OriginGate
