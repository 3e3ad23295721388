import OriginGate.Fault
import OriginGate.Text.Token

/-!
The cross-origin policy of a tenant. Two of its fields steer the gate, `allowGeneric` and
`tagRequests`; the others are for the handlers that negotiate headers. `Policy.fault?` finds what
is wrong with a policy, and `Policy.fault?_eq_none_iff` says that it misses nothing.
-/

namespace OriginGate

/-- What a tenant admits across origins. -/
structure Policy where
  /-- Whether requests outside the cross-origin protocol are served. -/
  allowGeneric : Bool := true
  allowAnyOrigin : Bool := false
  allowedOrigins : List String := []
  /-- Whether subdomains of the origins admitted are admitted too. -/
  allowSubdomains : Bool := false
  methods : List String := [Method.get, Method.post, Method.head, Method.options]
  anyHeader : Bool := true
  requestHeaders : List String := []
  /-- The response headers that scripts may read. -/
  exposedHeaders : List String := []
  credentials : Bool := false
  /-- For how many seconds a preflight's answer holds; -1 leaves it unsaid. -/
  maxAge : Int := 3600
  /-- Whether requests are tagged with what the gate found out about them. -/
  tagRequests : Bool := false
  deriving DecidableEq

namespace Policy

instance : Inhabited Policy := ⟨{}⟩

/-- The names of header fields that a policy mentions: request headers, then response headers. -/
def headerNames (policy : Policy) : List String :=
  policy.requestHeaders ++ policy.exposedHeaders

/-- A policy is valid when its methods and header names are tokens and its age is at least -1. -/
def Valid (policy : Policy) : Prop :=
  (∀ name ∈ policy.methods, Text.IsToken name) ∧
  (∀ name ∈ policy.headerNames, Text.IsToken name) ∧ -1 ≤ policy.maxAge

instance (policy : Policy) : Decidable policy.Valid :=
  inferInstanceAs (Decidable (_ ∧ _ ∧ _))

/-- The first name of a list that is no token. -/
def firstBadName? (names : List String) : Option String :=
  names.find? fun name => !Text.isToken name

/-- The first thing wrong with a policy: a method that is no token, else a header name that is
none, else the age. -/
def fault? (policy : Policy) : Option SettingError :=
  match firstBadName? policy.methods with
  | some name => some (.invalidMethod name)
  | none =>
    match firstBadName? policy.headerNames with
    | some name => some (.invalidHeader name)
    | none => if policy.maxAge < -1 then some (.invalidMaxAge policy.maxAge) else none

/-- Refuses a policy with anything wrong. -/
def validate (policy : Policy) : Except SettingError Unit :=
  match policy.fault? with
  | some fault => .error fault
  | none => .ok ()

theorem firstBadName?_eq_none_iff {names : List String} :
    firstBadName? names = none ↔ ∀ name ∈ names, Text.IsToken name := by
  simp [firstBadName?, Text.isToken_iff]

theorem fault?_eq_none_iff {policy : Policy} : policy.fault? = none ↔ policy.Valid := by
  unfold fault? Valid
  rw [← firstBadName?_eq_none_iff, ← firstBadName?_eq_none_iff]
  split <;> rename_i methods
  · simp [methods]
  split <;> rename_i headers
  · simp [headers]
  · simp only [methods, headers, true_and, ite_eq_right_iff, reduceCtorEq, imp_false]
    omega

/-- A policy is accepted exactly when it is valid. -/
theorem validate_eq_ok_iff {policy : Policy} : policy.validate = .ok () ↔ policy.Valid := by
  rw [← fault?_eq_none_iff, validate]
  cases policy.fault? <;> simp

end Policy

end OriginGate
