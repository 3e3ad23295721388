import OriginGate.Fault
import OriginGate.Request.Kind

/-!
The options of a gate: how requests are sorted into kinds, and what happens to a request for which
the policy store fails. A gate may answer such a request only with a status by which a server
reports a failure of its own.
-/

namespace OriginGate.Gate

/-- What happens to a request for which the policy store fails. -/
inductive PolicyFaultAnswer where
  /-- It is dropped: nothing is written and nothing is called. -/
  | silence
  /-- It is refused with a status. -/
  | refuse (status : Status)
  deriving DecidableEq

/-- The options of a gate. -/
structure Options where
  /-- How requests are sorted into kinds. -/
  kindRule : KindRule := {}
  /-- What happens when the policy store fails. -/
  onPolicyFault : PolicyFaultAnswer := .silence
  deriving DecidableEq

namespace Options

/-- What is wrong with the options, if anything is. -/
def fault? (options : Options) : Option SettingError :=
  match options.onPolicyFault with
  | .silence => none
  | .refuse status => if status.IsServerError then none else some (.faultStatus status)

/-- Refuses options with anything wrong. -/
def validate (options : Options) : Except SettingError Unit :=
  match options.fault? with
  | some fault => .error fault
  | none => .ok ()

/-- Options are right exactly when a failing policy store is answered, if at all, with a server
error. -/
theorem fault?_eq_none_iff {options : Options} :
    options.fault? = none ↔
      ∀ status, options.onPolicyFault = .refuse status → status.IsServerError := by
  unfold fault?
  cases options.onPolicyFault <;> simp

end Options

end OriginGate.Gate
