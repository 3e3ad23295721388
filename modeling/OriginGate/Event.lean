import OriginGate.Fault
import OriginGate.Refusal
import OriginGate.Request.Kind

/-!
Log events. An event is kept as what happened; its level, message and fields are read off it.
-/

namespace OriginGate

/-- How much an event matters. -/
inductive Level where
  | trace
  | debug
  | error
  deriving DecidableEq

/-- The value of a field of an event. -/
inductive FieldValue where
  | number (value : Nat)
  | text (value : String)
  /-- A text that may be lacking. The field holds it as it is; how it is printed, with which escapes
  and with what for the lack of it, is up to whoever prints the log. -/
  | optional (value : Option String)
  deriving DecidableEq

/-- What the gate and its parts report. -/
inductive Event where
  | directoryFailed (domain : String) (fault : DirectoryFault)
  /-- A request was answered with a tenant's rejection. -/
  | tenantRejected (rejection : TenantRejection)
  | policyFailed (fault : PolicyFault)
  /-- A request of a kind goes on to its handling, for a tenant or for none. -/
  | dispatching (kind : Kind) (tenant : Option String)
  /-- A refusal was written into a response. -/
  | refused (refusal : Refusal)
  deriving DecidableEq

namespace Event

/-- How much an event matters: a failing policy store is an error, a request on its way is worth a
trace, and the rest is for finding faults. -/
def level : Event → Level
  | directoryFailed .. => .debug
  | tenantRejected .. => .debug
  | policyFailed .. => .error
  | dispatching .. => .trace
  | refused .. => .debug

/-- The text of an event; what differs from one event to the next stands in the fields. -/
def message : Event → String
  | directoryFailed .. => "Error occurred while validating tenant domain"
  | tenantRejected .. => "request rejected by tenant validation"
  | policyFailed .. => "CORS management service error when intercepting an HTTP request"
  | dispatching .. => "dispatching request"
  | refused .. => "CORS valve error when intercepting an HTTP request"

/-- The fields of an event, by name. -/
def fields : Event → List (String × FieldValue)
  | directoryFailed domain fault =>
    [("tenant_domain", .text domain), ("error", .text fault.message)]
  | tenantRejected rejection =>
    [("tenant_domain", .text rejection.domain), ("status", .number rejection.status)]
  | policyFailed fault => [("error", .text fault.message)]
  | dispatching kind tenant =>
    [("request_type", .text kind.label), ("tenant_domain", .optional tenant)]
  | refused refusal => [("status", .number refusal.status), ("error", .text refusal.message)]

end Event

end OriginGate
