import OriginGate.Proofs.CallOrder
import OriginGate.Proofs.Forwarding

/-! What a request's response holds at the end, outcome by outcome. A request that is turned away
ends in one error written over the response as the stage left it, or, for its tenant, into the
response as it was given. Nothing is written after that. -/
namespace OriginGate.Gate
variable {gate : Gate} {request : Request} {response : Response} {policy : Policy}

/-- The response when the stage is done with it. Where no stage is called it is the one given. -/
def staged (gate : Gate) (request : Request) (response : Response) : Response :=
  match gate.clearance request with
  | .granted policy => (gate.ruling policy request response).response
  | _ => response

theorem staged_of_inForce (force : gate.InForce request policy) (response : Response) :
    gate.staged request response = (gate.ruling policy request response).response := by
  rw [staged, clearance_eq_granted_iff.mpr force]

theorem staged_of_no_policy (lacking : ¬∃ policy, gate.InForce request policy)
    (response : Response) : gate.staged request response = response := by
  unfold staged
  split
  · rename_i policy granted
    exact absurd ⟨policy, clearance_eq_granted_iff.mp granted⟩ lacking
  · rfl

/-- Only a stage makes the response another one than that given. -/
theorem staged_of_no_stage {next : Chain}
    (uncalled : (gate.intercept request response next).stageCalls = []) :
    gate.staged request response = response := by
  by_cases forced : ∃ policy, gate.InForce request policy
  · obtain ⟨policy, force⟩ := forced
    have other : gate.kindOf request = .other := by
      simpa [stageCalls_of_inForce force] using uncalled
    rw [staged_of_inForce force, ruling_of_other other]
  · exact staged_of_no_policy forced response

/-- Why a request whose tenant is served is refused, and how it ends. -/
inductive RefusedFor (gate : Gate) (request : Request) (response : Response) :
    Refusal → Outcome → Prop where
  /-- The policy store fails, and the options have a status for that. -/
  | unavailable {fault : PolicyFault} {status : Status}
      (served : gate.services.directory.Serves request.tenant)
      (failed : gate.services.policies request.servedTenant = .error fault)
      (told : gate.options.onPolicyFault = .refuse status) :
      RefusedFor gate request response (.custom status policyUnavailable) .errored
  /-- The stage for its kind refuses it. -/
  | stage {policy : Policy} {refusal : Refusal} (force : gate.InForce request policy)
      (kind : gate.kindOf request ≠ .other)
      (refused : (gate.ruling policy request response).refusal = some refusal) :
      RefusedFor gate request response refusal .errored
  /-- It is outside the protocol, and the policy does not serve such requests. -/
  | generic {policy : Policy} (force : gate.InForce request policy)
      (kind : gate.kindOf request = .other) (closed : policy.allowGeneric = false) :
      RefusedFor gate request response .genericDenied .denied

theorem refusedAs_of_ne_other {kind : Kind} (staged : kind ≠ .other) :
    refusedAs kind = .errored := by
  cases kind with
  | other => exact absurd rfl staged
  | _ => rfl

/-- A ruling against a request has one of the causes. -/
theorem refusedFor_of_ruling {refusal : Refusal} (force : gate.InForce request policy)
    (refused : (gate.ruling policy request response).refusal = some refusal) :
    gate.RefusedFor request response refusal (refusedAs (gate.kindOf request)) := by
  by_cases kind : gate.kindOf request = .other
  · rw [kind]
    cases closed : policy.allowGeneric with
    | true => simp [ruling_of_other kind, closed] at refused
    | false =>
      have same : refusal = .genericDenied := by
        simpa [ruling_of_other kind, closed, eq_comm] using refused
      subst same
      exact .generic force kind closed
  · rw [refusedAs_of_ne_other kind]
    exact .stage force kind refused

private theorem report_of_ruling {refusal : Refusal} (force : gate.InForce request policy)
    (refused : (gate.ruling policy request response).refusal = some refusal) (next : Chain) :
    (gate.intercept request response next).result = .ok (refusedAs (gate.kindOf request)) ∧
      (gate.intercept request response next).nextCalls = [] ∧
      (gate.intercept request response next).response =
        (gate.staged request response).refuse refusal := by
  have granted := clearance_eq_granted_iff.mpr force
  rw [intercept_refused granted refused, staged_of_inForce force]
  exact ⟨rfl, next?_handlingCalls gate policy request, rfl⟩

/-- A refused request ends in its refusal alone, written over what the stage left. -/
theorem report_of_refusedFor {refusal : Refusal} {outcome : Outcome}
    (cause : gate.RefusedFor request response refusal outcome) (next : Chain) :
    (gate.intercept request response next).result = .ok outcome ∧
      (gate.intercept request response next).nextCalls = [] ∧
      (gate.intercept request response next).response =
        (gate.staged request response).refuse refusal := by
  cases cause with
  | unavailable served failed told =>
    have unavailable := clearance_eq_unavailable_iff.mpr ⟨served, failed⟩
    rw [intercept_unavailable unavailable told, staged, unavailable]
    exact ⟨rfl, next?_lookupCalls gate request, rfl⟩
  | stage force kind refused =>
    have report := report_of_ruling force refused next
    rwa [refusedAs_of_ne_other kind] at report
  | @generic policy force kind closed =>
    have refused : (gate.ruling policy request response).refusal = some .genericDenied := by
      simp [ruling_of_other kind, closed]
    have report := report_of_ruling force refused next
    rwa [kind] at report

/-- A request that is denied, or ends in an error though its tenant is served, has a cause. -/
theorem exists_refusedFor {next : Chain} {outcome : Outcome}
    (result : (gate.intercept request response next).result = .ok outcome)
    (turned : outcome = .denied ∨
      outcome = .errored ∧ gate.services.directory.Serves request.tenant) :
    ∃ refusal, gate.RefusedFor request response refusal outcome := by
  cases gate.way request response with
  | rejected rejection rejected =>
    have unserved := rejected_iff_not_serves.mp ⟨rejection, rejected⟩
    rw [intercept_rejected rejected] at result
    cases result
    rcases turned with denied | ⟨-, served⟩
    · cases denied
    · exact absurd served unserved
  | dropped fault unavailable silent =>
    rw [intercept_dropped unavailable silent] at result
    cases result
    simp at turned
  | unavailable fault status unavailable told =>
    obtain ⟨served, failed⟩ := clearance_eq_unavailable_iff.mp unavailable
    rw [intercept_unavailable unavailable told] at result
    cases result
    exact ⟨_, .unavailable served failed told⟩
  | refused policy refusal granted refused =>
    rw [intercept_refused granted refused] at result
    cases result
    exact ⟨refusal, refusedFor_of_ruling (clearance_eq_granted_iff.mp granted) refused⟩
  | answered policy granted accepted preflight =>
    rw [intercept_answered granted accepted preflight] at result
    cases result
    simp at turned
  | forwarded policy granted accepted through =>
    rw [intercept_forwarded granted accepted through] at result
    unfold Delivery.result at result
    split at result
    · cases result
    · cases result
      simp at turned

/-- A request that ends without an error leaves the response as the stage left it, as it was given
or as the chain behind the gate left it. -/
theorem response_of_no_error (gate : Gate) (request : Request) (response : Response)
    (next : Chain) :
    ((gate.intercept request response next).result = .ok .handled →
      (gate.intercept request response next).response = gate.staged request response) ∧
    ((gate.intercept request response next).result = .ok .dropped →
      (gate.intercept request response next).response = response) ∧
    ((gate.intercept request response next).result = .ok .forwarded →
      ∃ policy, gate.InForce request policy ∧
        (gate.intercept request response next).response =
          (next (gate.seen policy request) (gate.staged request response)).response) := by
  cases gate.way request response with
  | rejected rejection rejected =>
    rw [intercept_rejected rejected]
    simp
  | dropped fault unavailable silent =>
    rw [intercept_dropped unavailable silent]
    simp
  | unavailable fault status unavailable told =>
    rw [intercept_unavailable unavailable told]
    simp
  | refused policy refusal granted refused =>
    rw [intercept_refused granted refused]
    cases kind : gate.kindOf request <;> simp [refusedAs]
  | answered policy granted accepted preflight =>
    rw [intercept_answered granted accepted preflight,
      staged_of_inForce (clearance_eq_granted_iff.mp granted)]
    simp
  | forwarded policy granted accepted through =>
    have force := clearance_eq_granted_iff.mp granted
    have left : (gate.delivery policy request response next).response =
        (next (gate.seen policy request) (gate.staged request response)).response := by
      rw [staged_of_inForce force, delivery]
    rw [intercept_forwarded granted accepted through]
    refine ⟨fun handled => ?_, fun dropped => ?_, fun _ => ⟨policy, force, left⟩⟩
    · cases outcome : (gate.delivery policy request response next).failure <;>
        simp [Delivery.result, outcome] at handled
    · cases outcome : (gate.delivery policy request response next).failure <;>
        simp [Delivery.result, outcome] at dropped

/-- A tenant that is not served is told in one document, put behind what the body held before. -/
theorem report_of_not_served (unserved : ¬gate.services.directory.Serves request.tenant)
    (response : Response) (next : Chain) :
    ∃ rejection,
      (gate.services.directory.check request.servedTenant).verdict = .error rejection ∧
      (gate.intercept request response next).result = .ok .errored ∧
      (gate.intercept request response next).nextCalls = [] ∧
      (gate.intercept request response next).response = response.rejectTenant rejection := by
  obtain ⟨rejection, rejected⟩ := rejected_iff_not_serves.mpr unserved
  refine ⟨rejection, clearance_eq_rejected_iff.mp rejected, ?_⟩
  rw [intercept_rejected rejected]
  exact ⟨rfl, by simp [Report.nextCalls, Call.next?], rfl⟩

theorem status_of_rejection (rejection : TenantRejection) :
    rejection.status = 404 ∨ rejection.status = 500 := by
  cases rejection with
  | inactive domain => exact .inl rfl
  | lookupFailed domain => exact .inr rfl

/-- Whatever was written before, the outcome of a request says what its response holds at the end.
A preflight that is handled leaves what its stage left, a dropped request what it was given, and a
forwarded one what the chain made of the stage's response. Every other outcome renders one error
as the last thing written: a tenant's rejection into the response as given, and any other refusal
over what the stage left, keeping its headers and its encoding. A failing policy store is answered
with the status of the options alone, and that is one of a server error. -/
theorem final_response_by_outcome {options : Options} {services : Services} {gate : Gate}
    (built : Gate.build options services = .ok gate) (request : Request) (given : Response)
    (next : Chain) :
    let report := gate.intercept request given next
    let staged := gate.staged request given
    (report.stageCalls = [] → staged = given) ∧
    (∀ policy, gate.InForce request policy → gate.kindOf request = .actual →
      staged = (services.stages.actual (gate.seen policy request) policy given).response) ∧
    (∀ policy, gate.InForce request policy → gate.kindOf request = .preflight →
      staged = (services.stages.preflight (gate.seen policy request) policy given).response) ∧
    (report.result = .ok .handled → report.response = staged) ∧
    (report.result = .ok .dropped → report.response = given) ∧
    (report.result = .ok .forwarded → ∃ policy, gate.InForce request policy ∧
      report.response = (next (gate.seen policy request) staged).response) ∧
    (∀ outcome, report.result = .ok outcome →
      outcome = .denied ∨ outcome = .errored ∧ services.directory.Serves request.tenant →
      ∃ refusal, gate.RefusedFor request given refusal outcome) ∧
    (∀ refusal outcome, gate.RefusedFor request given refusal outcome →
      report.result = .ok outcome ∧ report.nextCalls = [] ∧
      report.response =
        { staged with
          status := some refusal.status
          contentType := some "text/plain"
          body := "CORS Valve: " ++ refusal.message ++ "\n" }) ∧
    (¬services.directory.Serves request.tenant → ∃ rejection,
      (services.directory.check request.servedTenant).verdict = .error rejection ∧
      (rejection.status = 404 ∨ rejection.status = 500) ∧
      report.result = .ok .errored ∧ report.nextCalls = [] ∧
      report.response =
        { given with
          status := some rejection.status
          contentType := some "application/json"
          encoding := some "UTF-8"
          body := given.body ++ rejection.document }) ∧
    (∀ fault status, services.directory.Serves request.tenant →
      services.policies request.servedTenant = .error fault →
      options.onPolicyFault = .refuse status →
      report.result = .ok .errored ∧ report.response.status = some status ∧
        500 ≤ status ∧ status ≤ 599) := by
  obtain ⟨rfl, rfl⟩ := build_eq_ok_iff.mp built
  dsimp only
  obtain ⟨handled, dropped, forwarded⟩ := response_of_no_error gate request given next
  refine ⟨staged_of_no_stage, ?_, ?_, handled, dropped, forwarded, ?_, ?_, ?_, ?_⟩
  · intro policy force kind
    rw [staged_of_inForce force, ruling_of_actual kind]
  · intro policy force kind
    rw [staged_of_inForce force, ruling_of_preflight kind]
  · exact fun outcome result turned => exists_refusedFor result turned
  · exact fun refusal outcome cause => report_of_refusedFor cause next
  · intro unserved
    obtain ⟨rejection, verdict, report⟩ := report_of_not_served unserved given next
    exact ⟨rejection, verdict, status_of_rejection rejection, report⟩
  · intro fault status served failed told
    obtain ⟨result, -, left⟩ := report_of_refusedFor (.unavailable served failed told) next
    have bounds := Options.fault?_eq_none_iff.mp gate.accepted status told
    exact ⟨result, by rw [left]; rfl, bounds⟩

/-- Services whose policy store is down. -/
def storeDown : Services where
  directory := { tenantId := fun _ => .ok 7, isActive := fun _ => .ok true }
  policies := fun _ => .error { cause := "timeout" }

/-- A response that was begun before the gate saw it. -/
def begun : Response where
  status := some 200
  contentType := some "text/html"
  encoding := some "ISO-8859-1"
  headers := Table.insert ∅ HeaderName.vary "Accept"
  body := "<p>"

/-- While the store is down the begun response ends as the refusal that the options set, and keeps
its header and its encoding. -/
theorem final_response_of_storeDown :
    ∃ gate, build { onPolicyFault := .refuse 503 } storeDown = .ok gate ∧
      (gate.intercept { method := Method.get, tenant := some "a.example" } begun
          (Chain.ofEdits [] none)).response =
        { begun with
          status := some 503
          contentType := some "text/plain"
          body := "CORS Valve: Error occurred while retrieving CORS configuration\n" } := by
  have accepted : ({ onPolicyFault := .refuse 503 } : Options).fault? = none := by decide
  have built : build { onPolicyFault := .refuse 503 } storeDown =
      .ok ⟨{ onPolicyFault := .refuse 503 }, storeDown, accepted⟩ :=
    build_eq_ok_iff.mpr ⟨rfl, rfl⟩
  have served : storeDown.directory.Serves (some "a.example") :=
    .inr (.inr ⟨"a.example", 7, rfl, rfl, rfl⟩)
  obtain ⟨-, -, -, -, -, -, -, refused, -, -⟩ := final_response_by_outcome built
    { method := Method.get, tenant := some "a.example" } begun (Chain.ofEdits [] none)
  obtain ⟨-, -, response⟩ := refused _ _ (.unavailable served rfl rfl)
  exact ⟨_, built, response⟩

end OriginGate.Gate
