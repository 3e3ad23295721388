import OriginGate.Proofs.Clearance

/-! Which requests get to the chain behind the gate. `Gate.Approved` says it without the gate's own
order of steps, and the chain turns out to be called for approved requests and for no others. -/
namespace OriginGate.Gate
variable {gate : Gate} {request : Request} {response : Response} {policy : Policy}

/-- A request is approved under the policy in force if it is an actual request that its stage
accepts, or if it is outside the protocol and the policy serves such requests. -/
structure Approved (gate : Gate) (request : Request) (response : Response) (policy : Policy) :
    Prop extends gate.InForce request policy where
  admitted :
    (gate.kindOf request = .actual ∧
      (gate.services.stages.actual (gate.seen policy request) policy response).refusal = none) ∨
    (gate.kindOf request = .other ∧ policy.allowGeneric = true)

/-- Approval is a grant, a ruling in the request's favour and a kind that is not answered here. -/
theorem approved_iff_ruling : gate.Approved request response policy ↔
    gate.clearance request = .granted policy ∧
      (gate.ruling policy request response).refusal = none ∧
      gate.kindOf request ≠ .preflight := by
  rw [clearance_eq_granted_iff]
  constructor
  · rintro ⟨force, ⟨actual, accepted⟩ | ⟨other, generic⟩⟩
    · exact ⟨force, by rw [ruling_of_actual actual, accepted], by simp [actual]⟩
    · exact ⟨force, by simp [ruling_of_other other, generic], by simp [other]⟩
  · rintro ⟨force, accepted, through⟩
    refine ⟨force, ?_⟩
    cases kind : gate.kindOf request with
    | actual =>
      rw [ruling_of_actual kind] at accepted
      exact .inl ⟨rfl, accepted⟩
    | preflight => exact absurd kind through
    | other =>
      simp only [ruling_of_other kind, ite_eq_left_iff, reduceCtorEq, imp_false,
        Bool.not_eq_true, Bool.not_eq_false] at accepted
      exact .inr ⟨rfl, accepted⟩

theorem next?_lookupCalls (gate : Gate) (request : Request) :
    (gate.lookupCalls request).filterMap Call.next? = [] := by
  simp [lookupCalls, Call.next?]

theorem next?_handlingCalls (gate : Gate) (policy : Policy) (request : Request) :
    (gate.handlingCalls policy request).filterMap Call.next? = [] := by
  have tagging : (taggerCalls (gate.kindOf request) policy).filterMap Call.next? = [] := by
    cases wanted : policy.tagRequests <;> simp [taggerCalls, wanted, Call.next?]
  have stage : (gate.stageCall policy request).filterMap Call.next? = [] := by
    cases kind : gate.kindOf request <;> simp [stageCall, kind, Call.next?]
  simp [handlingCalls, next?_lookupCalls, tagging, stage]

theorem nextCalls_of_approved (approved : gate.Approved request response policy) (next : Chain) :
    (gate.intercept request response next).nextCalls = [(gate.seen policy request).attributes] := by
  obtain ⟨granted, accepted, through⟩ := approved_iff_ruling.mp approved
  rw [intercept_forwarded granted accepted through]
  simp [Report.nextCalls, next?_handlingCalls, Call.next?]

/-- Every way but one ends at the gate, with an outcome of the gate's own. -/
theorem kept_of_not_approved (unapproved : ¬∃ policy, gate.Approved request response policy)
    (next : Chain) :
    (gate.intercept request response next).nextCalls = [] ∧
      ∃ outcome, outcome ≠ .forwarded ∧
        (gate.intercept request response next).result = .ok outcome := by
  cases gate.way request response with
  | rejected rejection rejected =>
    rw [intercept_rejected rejected]
    exact ⟨by simp [Report.nextCalls, Call.next?], .errored, by decide, rfl⟩
  | dropped fault unavailable silent =>
    rw [intercept_dropped unavailable silent]
    exact ⟨next?_lookupCalls gate request, .dropped, by decide, rfl⟩
  | unavailable fault status unavailable told =>
    rw [intercept_unavailable unavailable told]
    exact ⟨next?_lookupCalls gate request, .errored, by decide, rfl⟩
  | refused policy refusal granted refused =>
    rw [intercept_refused granted refused]
    refine ⟨next?_handlingCalls gate policy request, _, ?_, rfl⟩
    cases gate.kindOf request <;> decide
  | answered policy granted accepted preflight =>
    rw [intercept_answered granted accepted preflight]
    exact ⟨next?_handlingCalls gate policy request, .handled, by decide, rfl⟩
  | forwarded policy granted accepted through =>
    exact absurd ⟨policy, approved_iff_ruling.mpr ⟨granted, accepted, through⟩⟩ unapproved

/-- The chain behind the gate is called at most once: for approved requests, for no others, and
never for a preflight. Its call is the last one, the response stays as it leaves it, and it decides
the result. A request ends as forwarded, or with a failure of the transport, only by that call. -/
theorem forwarding_is_exactly_approval (gate : Gate) (request : Request) (response : Response)
    (next : Chain) :
    let report := gate.intercept request response next
    report.nextCalls.length ≤ 1 ∧
    (report.nextCalls ≠ [] ↔ ∃ policy, gate.Approved request response policy) ∧
    (gate.kindOf request = .preflight → report.nextCalls = []) ∧
    (∀ policy, gate.Approved request response policy →
      let delivery := next (gate.seen policy request) (gate.ruling policy request response).response
      report.calls.getLast? = some (.next (gate.seen policy request).attributes) ∧
      report.response = delivery.response ∧
      (delivery.failure = none → report.result = .ok .forwarded) ∧
      (∀ failure, delivery.failure = some failure → report.result = .error failure)) ∧
    (report.result = .ok .forwarded → report.nextCalls ≠ []) ∧
    (∀ failure, report.result = .error failure → report.nextCalls ≠ []) := by
  dsimp only
  by_cases approval : ∃ policy, gate.Approved request response policy
  · obtain ⟨policy, approved⟩ := approval
    have called := nextCalls_of_approved approved next
    refine ⟨by simp [called], ⟨fun _ => ⟨policy, approved⟩, fun _ => by simp [called]⟩, ?_, ?_, ?_,
      ?_⟩
    · intro preflight
      exact absurd preflight (approved_iff_ruling.mp approved).2.2
    · intro other approvedToo
      obtain ⟨granted, accepted, through⟩ := approved_iff_ruling.mp approvedToo
      rw [intercept_forwarded granted accepted through]
      refine ⟨by simp, rfl, fun sound => ?_, fun failure failed => ?_⟩
      · simp [Delivery.result, delivery, sound]
      · simp [Delivery.result, delivery, failed]
    · simp [called]
    · simp [called]
  · obtain ⟨uncalled, outcome, own, result⟩ := kept_of_not_approved approval next
    refine ⟨by simp [uncalled], by simp [uncalled, approval], fun _ => uncalled, ?_, ?_, ?_⟩
    · intro policy approved
      exact absurd ⟨policy, approved⟩ approval
    · intro forwarded
      rw [result] at forwarded
      exact absurd (Except.ok.inj forwarded) own
    · intro failure failed
      rw [result] at failed
      cases failed

end OriginGate.Gate
