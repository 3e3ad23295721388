import OriginGate.Gate.Intercept
import OriginGate.Proofs.TenantVerdicts

/-! Two things are settled before a gate handles a request: whether its tenant is served, and which
policy is in force. After that the request is refused, answered by the preflight stage or forwarded.
`Gate.way` lists the ways through a gate, and one equation for each gives its whole report, so that
a statement about reports is a case analysis over the ways. -/
namespace OriginGate

/-! ## What is settled -/

/-- What is settled about a request before it is handled. -/
inductive Clearance where
  /-- Its tenant is not served. -/
  | rejected (rejection : TenantRejection)
  /-- The policy store failed. -/
  | unavailable (fault : PolicyFault)
  /-- It is to be handled under a policy. -/
  | granted (policy : Policy)

/-- How a request ends that the chain behind the gate got. -/
def Delivery.result (delivery : Delivery) : Except TransportError Outcome :=
  match delivery.failure with
  | some failure => .error failure
  | none => .ok .forwarded

theorem Report.forwarding_eq (request : Request) (response : Response) (next : Chain) :
    Report.forwarding request response next =
      { result := (next request response).result
        response := (next request response).response
        attributes := request.attributes
        calls := [.next request.attributes]
        events := (next request response).written.map .refused } :=
  rfl

namespace Gate
variable {gate : Gate} {request : Request} {response : Response} {next : Chain}

/-- The policy store is asked for a tenant that is served, and for no other. -/
def clearance (gate : Gate) (request : Request) : Clearance :=
  match (gate.services.directory.check request.servedTenant).verdict with
  | .error rejection => .rejected rejection
  | .ok () =>
    match gate.services.policies request.servedTenant with
    | .error fault => .unavailable fault
    | .ok policy => .granted policy

theorem clearance_eq_rejected_iff {rejection : TenantRejection} :
    gate.clearance request = .rejected rejection ↔
      (gate.services.directory.check request.servedTenant).verdict = .error rejection := by
  unfold clearance
  split
  · rename_i found verdict
    simp [verdict]
  · rename_i verdict
    split <;> simp [verdict]

theorem clearance_eq_unavailable_iff {fault : PolicyFault} :
    gate.clearance request = .unavailable fault ↔
      gate.services.directory.Serves request.tenant ∧
        gate.services.policies request.servedTenant = .error fault := by
  rw [← Directory.serves_servedTenant, ← Directory.check_verdict_eq_ok_iff]
  unfold clearance
  split
  · rename_i rejection verdict
    simp [verdict]
  · rename_i verdict
    split <;> rename_i found <;> simp [verdict, found]

/-- A policy is in force for a request if the tenant is served and the store has this policy for
it. -/
structure InForce (gate : Gate) (request : Request) (policy : Policy) : Prop where
  served : gate.services.directory.Serves request.tenant
  found : gate.services.policies request.servedTenant = .ok policy

theorem inForce_iff {policy : Policy} :
    gate.InForce request policy ↔ gate.services.directory.Serves request.tenant ∧
      gate.services.policies request.servedTenant = .ok policy :=
  ⟨fun force => ⟨force.served, force.found⟩, fun both => ⟨both.1, both.2⟩⟩

theorem clearance_eq_granted_iff {policy : Policy} :
    gate.clearance request = .granted policy ↔ gate.InForce request policy := by
  rw [inForce_iff, ← Directory.serves_servedTenant, ← Directory.check_verdict_eq_ok_iff]
  unfold clearance
  split
  · rename_i rejection verdict
    simp [verdict]
  · rename_i verdict
    split <;> rename_i found <;> simp [verdict, found]

/-- A request is rejected for its tenant exactly if the tenant is not served. -/
theorem rejected_iff_not_serves :
    (∃ rejection, gate.clearance request = .rejected rejection) ↔
      ¬gate.services.directory.Serves request.tenant := by
  rw [← Directory.serves_servedTenant, ← Directory.check_verdict_eq_ok_iff]
  simp only [clearance_eq_rejected_iff]
  cases (gate.services.directory.check request.servedTenant).verdict <;> simp

/-! ## What becomes of a request that is handled -/

/-- The kind of a request under the rule of the gate. -/
abbrev kindOf (gate : Gate) (request : Request) : Kind :=
  gate.options.kindRule.kindOf request

/-- The request as stages and chain see it under a policy. -/
def seen (gate : Gate) (policy : Policy) (request : Request) : Request :=
  gate.tagged (gate.kindOf request) policy request

/-- What is ruled on a request under a policy. The stage for its kind decides, if there is one.
Other requests have none and are refused unless the policy serves them. -/
def ruling (gate : Gate) (policy : Policy) (request : Request) (response : Response) :
    Negotiation :=
  match gate.kindOf request with
  | .actual => gate.services.stages.actual (gate.seen policy request) policy response
  | .preflight => gate.services.stages.preflight (gate.seen policy request) policy response
  | .other => { response, refusal := if policy.allowGeneric then none else some .genericDenied }

theorem ruling_of_actual (kind : gate.kindOf request = .actual) (policy : Policy)
    (response : Response) : gate.ruling policy request response =
      gate.services.stages.actual (gate.seen policy request) policy response := by
  simp only [ruling, kind]

theorem ruling_of_preflight (kind : gate.kindOf request = .preflight) (policy : Policy)
    (response : Response) : gate.ruling policy request response =
      gate.services.stages.preflight (gate.seen policy request) policy response := by
  simp only [ruling, kind]

theorem ruling_of_other (kind : gate.kindOf request = .other) (policy : Policy)
    (response : Response) : gate.ruling policy request response =
      { response, refusal := if policy.allowGeneric then none else some .genericDenied } := by
  simp only [ruling, kind]

/-- The call of a stage that a request takes: of the one for its kind, if there is one. -/
def stageCall (gate : Gate) (policy : Policy) (request : Request) : List Call :=
  match gate.kindOf request with
  | .other => []
  | kind => [.stage kind (gate.seen policy request).attributes policy]

/-- The calls that a request takes until the policy is known. -/
def lookupCalls (gate : Gate) (request : Request) : List Call :=
  (gate.services.directory.questions request.servedTenant).map .directory ++
    [.policy request.servedTenant]

/-- The calls that a request takes until the chain behind the gate may have it. -/
def handlingCalls (gate : Gate) (policy : Policy) (request : Request) : List Call :=
  gate.lookupCalls request ++
    (taggerCalls (gate.kindOf request) policy ++ gate.stageCall policy request)

/-- What is logged about a request until the chain behind the gate may have it. -/
def handlingEvents (gate : Gate) (policy : Policy) (request : Request) (response : Response) :
    List Event :=
  .dispatching (gate.kindOf request) request.servedTenant ::
    (gate.ruling policy request response).written.map .refused

/-- How a request of a kind ends when it is refused. -/
def refusedAs : Kind → Outcome
  | .other => .denied
  | _ => .errored

/-- Handling a request goes by the ruling on it. -/
theorem dispatch_seen (gate : Gate) (policy : Policy) (request : Request) (response : Response)
    (next : Chain) :
    gate.dispatch (gate.kindOf request) policy (gate.seen policy request) response next =
      Report.after
        (match (gate.ruling policy request response).refusal with
          | some refusal =>
            .refusing (gate.seen policy request) (gate.ruling policy request response).response
              (refusedAs (gate.kindOf request)) refusal
          | none =>
            if gate.kindOf request = .preflight then
              { result := .ok .handled
                response := (gate.ruling policy request response).response
                attributes := (gate.seen policy request).attributes }
            else
              .forwarding (gate.seen policy request) (gate.ruling policy request response).response
                next)
        (gate.stageCall policy request)
        ((gate.ruling policy request response).written.map .refused) := by
  cases kind : gate.kindOf request with
  | actual =>
    have call : gate.stageCall policy request =
        [.stage .actual (gate.seen policy request).attributes policy] := by
      simp only [stageCall, kind]
    rw [ruling_of_actual kind, call]
    rfl
  | preflight =>
    have call : gate.stageCall policy request =
        [.stage .preflight (gate.seen policy request).attributes policy] := by
      simp only [stageCall, kind]
    rw [ruling_of_preflight kind, call]
    rfl
  | other =>
    cases serves : policy.allowGeneric <;>
      simp [dispatch, ruling, stageCall, kind, refusedAs, serves, Report.after]

/-! ## The report of each way -/

/-- The response of a rejected request holds the rejection; nothing but the directory was called. -/
theorem intercept_rejected {rejection : TenantRejection}
    (rejected : gate.clearance request = .rejected rejection) :
    gate.intercept request response next =
      { result := .ok .errored
        response := response.rejectTenant rejection
        attributes := request.attributes
        calls := (gate.services.directory.questions request.servedTenant).map .directory
        events := (gate.services.directory.check request.servedTenant).events ++
          [.tenantRejected rejection] } := by
  have verdict := clearance_eq_rejected_iff.mp rejected
  have calls := gate.services.directory.check_calls request.servedTenant_ne_empty
  simp [intercept, verdict, calls, Check.screen, Report.after]

private theorem intercept_served (served : gate.services.directory.Serves request.tenant) :
    gate.intercept request response next =
      (gate.serve request.servedTenant request response next).after
        ((gate.services.directory.questions request.servedTenant).map .directory) [] := by
  have passed := Directory.serves_servedTenant.mpr served
  have verdict := Directory.check_verdict_eq_ok_iff.mpr passed
  have calls := gate.services.directory.check_calls request.servedTenant_ne_empty
  have events := Directory.check_events_of_serves passed
  simp only [intercept, verdict, calls, events]

/-- A failing policy store may end a request without a trace in the response. -/
theorem intercept_dropped {fault : PolicyFault}
    (unavailable : gate.clearance request = .unavailable fault)
    (silent : gate.options.onPolicyFault = .silence) :
    gate.intercept request response next =
      { result := .ok .dropped
        response
        attributes := request.attributes
        calls := gate.lookupCalls request
        events := [.policyFailed fault] } := by
  obtain ⟨served, failed⟩ := clearance_eq_unavailable_iff.mp unavailable
  rw [intercept_served served]
  simp [serve, failed, answerPolicyFault, silent, Report.after, lookupCalls]

/-- A failing policy store may be answered with a status, as the options have it. -/
theorem intercept_unavailable {fault : PolicyFault} {status : Status}
    (unavailable : gate.clearance request = .unavailable fault)
    (told : gate.options.onPolicyFault = .refuse status) :
    gate.intercept request response next =
      { result := .ok .errored
        response := response.refuse (.custom status policyUnavailable)
        attributes := request.attributes
        calls := gate.lookupCalls request
        events := [.policyFailed fault, .refused (.custom status policyUnavailable)] } := by
  obtain ⟨served, failed⟩ := clearance_eq_unavailable_iff.mp unavailable
  rw [intercept_served served]
  simp [serve, failed, answerPolicyFault, told, Report.refusing, Report.after, lookupCalls]

private theorem intercept_granted {policy : Policy}
    (granted : gate.clearance request = .granted policy) :
    gate.intercept request response next =
      (gate.dispatch (gate.kindOf request) policy (gate.seen policy request) response next).after
        (gate.lookupCalls request ++ taggerCalls (gate.kindOf request) policy)
        [.dispatching (gate.kindOf request) request.servedTenant] := by
  obtain ⟨served, found⟩ := clearance_eq_granted_iff.mp granted
  rw [intercept_served served]
  simp [serve, found, seen, Report.after, lookupCalls]

/-- A refusal is written over what the stage left, and the chain behind the gate is not called. -/
theorem intercept_refused {policy : Policy} {refusal : Refusal}
    (granted : gate.clearance request = .granted policy)
    (refused : (gate.ruling policy request response).refusal = some refusal) :
    gate.intercept request response next =
      { result := .ok (refusedAs (gate.kindOf request))
        response := (gate.ruling policy request response).response.refuse refusal
        attributes := (gate.seen policy request).attributes
        calls := gate.handlingCalls policy request
        events := gate.handlingEvents policy request response ++ [.refused refusal] } := by
  rw [intercept_granted granted, dispatch_seen, refused]
  simp [Report.refusing, Report.after, handlingCalls, handlingEvents]

/-- A preflight that its stage lets go is answered by what the stage left. -/
theorem intercept_answered {policy : Policy}
    (granted : gate.clearance request = .granted policy)
    (accepted : (gate.ruling policy request response).refusal = none)
    (preflight : gate.kindOf request = .preflight) :
    gate.intercept request response next =
      { result := .ok .handled
        response := (gate.ruling policy request response).response
        attributes := (gate.seen policy request).attributes
        calls := gate.handlingCalls policy request
        events := gate.handlingEvents policy request response } := by
  rw [intercept_granted granted, dispatch_seen, accepted]
  simp [preflight, Report.after, handlingCalls, handlingEvents]

/-- What came of the chain behind the gate, for a request it gets. -/
def delivery (gate : Gate) (policy : Policy) (request : Request) (response : Response)
    (next : Chain) : Delivery :=
  next (gate.seen policy request) (gate.ruling policy request response).response

/-- Any other request that is let go ends as the chain behind the gate ends it. -/
theorem intercept_forwarded {policy : Policy}
    (granted : gate.clearance request = .granted policy)
    (accepted : (gate.ruling policy request response).refusal = none)
    (through : gate.kindOf request ≠ .preflight) :
    gate.intercept request response next =
      { result := (gate.delivery policy request response next).result
        response := (gate.delivery policy request response next).response
        attributes := (gate.seen policy request).attributes
        calls := gate.handlingCalls policy request ++ [.next (gate.seen policy request).attributes]
        events := gate.handlingEvents policy request response ++
          (gate.delivery policy request response next).written.map .refused } := by
  rw [intercept_granted granted, dispatch_seen, accepted]
  simp [through, Report.forwarding_eq, delivery, Report.after, handlingCalls, handlingEvents]

/-- The ways of a request through a gate. -/
inductive Way (gate : Gate) (request : Request) (response : Response) : Prop where
  | rejected (rejection : TenantRejection) (rejected : gate.clearance request = .rejected rejection)
  | dropped (fault : PolicyFault) (unavailable : gate.clearance request = .unavailable fault)
      (silent : gate.options.onPolicyFault = .silence)
  | unavailable (fault : PolicyFault) (status : Status)
      (unavailable : gate.clearance request = .unavailable fault)
      (told : gate.options.onPolicyFault = .refuse status)
  | refused (policy : Policy) (refusal : Refusal)
      (granted : gate.clearance request = .granted policy)
      (refused : (gate.ruling policy request response).refusal = some refusal)
  | answered (policy : Policy) (granted : gate.clearance request = .granted policy)
      (accepted : (gate.ruling policy request response).refusal = none)
      (preflight : gate.kindOf request = .preflight)
  | forwarded (policy : Policy) (granted : gate.clearance request = .granted policy)
      (accepted : (gate.ruling policy request response).refusal = none)
      (through : gate.kindOf request ≠ .preflight)

/-- Every request takes one of the ways. -/
theorem way (gate : Gate) (request : Request) (response : Response) :
    gate.Way request response := by
  cases settled : gate.clearance request with
  | rejected rejection => exact .rejected rejection settled
  | unavailable fault =>
    cases answer : gate.options.onPolicyFault with
    | silence => exact .dropped fault settled answer
    | refuse status => exact .unavailable fault status settled answer
  | granted policy =>
    cases verdict : (gate.ruling policy request response).refusal with
    | some refusal => exact .refused policy refusal settled verdict
    | none =>
      by_cases preflight : gate.kindOf request = .preflight
      · exact .answered policy settled verdict preflight
      · exact .forwarded policy settled verdict preflight

/-- A report depends on the gate and the request only through what is settled about the request, how
a failing policy store is answered, and what stages and chain make of the request. -/
theorem intercept_congr {other : Gate} {again : Request} {after : Chain}
    (tenant : again.servedTenant = request.servedTenant)
    (attributes : again.attributes = request.attributes)
    (check : other.services.directory.check request.servedTenant =
      gate.services.directory.check request.servedTenant)
    (policies : other.services.policies request.servedTenant =
      gate.services.policies request.servedTenant)
    (answer : other.options.onPolicyFault = gate.options.onPolicyFault)
    (kind : other.kindOf again = gate.kindOf request)
    (noted : ∀ policy, (other.seen policy again).attributes = (gate.seen policy request).attributes)
    (ruled : ∀ policy, other.ruling policy again response = gate.ruling policy request response)
    (delivered : ∀ policy, other.delivery policy again response after =
      gate.delivery policy request response next) :
    other.intercept again response after = gate.intercept request response next := by
  have settled : other.clearance again = gate.clearance request := by
    simp only [clearance, tenant, check, policies]
  have questions : other.services.directory.questions request.servedTenant =
      gate.services.directory.questions request.servedTenant := by
    have named := request.servedTenant_ne_empty
    rw [← Directory.check_calls _ named, ← Directory.check_calls _ named, check]
  have lookups : other.lookupCalls again = gate.lookupCalls request := by
    simp only [lookupCalls, tenant, questions]
  have calls : ∀ policy, other.handlingCalls policy again = gate.handlingCalls policy request := by
    intro policy
    simp only [handlingCalls, stageCall, lookups, kind, noted]
  have events : ∀ policy, other.handlingEvents policy again response =
      gate.handlingEvents policy request response := by
    intro policy
    simp only [handlingEvents, tenant, kind, ruled]
  cases gate.way request response with
  | rejected rejection rejected =>
    rw [intercept_rejected rejected, intercept_rejected (settled.trans rejected)]
    simp only [attributes, tenant, check, questions]
  | dropped fault unavailable silent =>
    rw [intercept_dropped unavailable silent,
      intercept_dropped (settled.trans unavailable) (answer.trans silent)]
    simp only [attributes, lookups]
  | unavailable fault status unavailable told =>
    rw [intercept_unavailable unavailable told,
      intercept_unavailable (settled.trans unavailable) (answer.trans told)]
    simp only [attributes, lookups]
  | refused policy refusal granted refused =>
    rw [intercept_refused granted refused,
      intercept_refused (settled.trans granted) (by rw [ruled, refused])]
    simp only [kind, noted, ruled, calls, events]
  | answered policy granted accepted preflight =>
    rw [intercept_answered granted accepted preflight,
      intercept_answered (settled.trans granted) (by rw [ruled, accepted]) (kind.trans preflight)]
    simp only [noted, ruled, calls, events]
  | forwarded policy granted accepted through =>
    rw [intercept_forwarded granted accepted through,
      intercept_forwarded (settled.trans granted) (by rw [ruled, accepted])
        (fun preflight => through (kind.symm.trans preflight))]
    simp only [noted, calls, events, delivered]

end Gate
end OriginGate
