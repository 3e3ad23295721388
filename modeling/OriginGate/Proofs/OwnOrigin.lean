import OriginGate.Proofs.CallOrder
import OriginGate.Proofs.FinalResponse
import OriginGate.Proofs.RequestKinds

/-! What it comes to that a gate exempts requests from its own origin. The exemption concerns no
other requests, and one that it concerns goes through the gate as if it carried no origin. -/
namespace OriginGate
variable {request : Request}

/-! ## Requests from their own origin -/

/-- The request without its `Origin` header. -/
def Request.withoutOrigin (request : Request) : Request :=
  { request with origin := none }

/-- The origin of a request is the address that the request was sent to, spelled `scheme://host`,
and the request is no preflight. -/
structure Request.FromOwnOrigin (request : Request) : Prop where
  unannounced : request.isPreflight = false
  own : ∃ host, request.host = some host ∧
    request.origin = some (request.scheme ++ "://" ++ host)

theorem Request.fromOwnOrigin_iff :
    request.FromOwnOrigin ↔ ¬request.Announces ∧ request.NamesOwnAddress := by
  rw [← isPreflight_iff, Bool.not_eq_true]
  exact ⟨fun own => ⟨own.unannounced, own.own⟩, fun both => ⟨both.1, both.2⟩⟩

theorem Request.not_fromOwnOrigin_iff :
    ¬request.FromOwnOrigin ↔
      request.isPreflight = true ∨ request.origin = none ∨ request.host = none ∨
        ∃ origin host, request.origin = some origin ∧ request.host = some host ∧
          origin ≠ request.scheme ++ "://" ++ host := by
  rw [fromOwnOrigin_iff, ← isPreflight_iff, NamesOwnAddress]
  cases request.origin with
  | none => simp
  | some origin => cases request.host <;> simp [imp_iff_not_or]

/-- Whatever a rule says of own origins, it sorts a request from elsewhere like any other rule. -/
theorem KindRule.kindOf_of_not_fromOwnOrigin (rule : KindRule) (foreign : ¬request.FromOwnOrigin) :
    rule.kindOf request = request.kind := by
  obtain ⟨exempt⟩ := rule
  cases exempt with
  | false => rfl
  | true =>
    refine (kindOf_exempt_eq_or request).resolve_right ?_
    rintro ⟨actual, other⟩
    obtain ⟨unannounced, sent, -⟩ := kindOf_eq_actual_iff.mp actual
    obtain ⟨-, without | ⟨-, own⟩⟩ := kindOf_eq_other_iff.mp other
    · exact sent without
    · exact foreign (Request.fromOwnOrigin_iff.mpr ⟨unannounced, own⟩)

theorem KindRule.kindOf_of_fromOwnOrigin {rule : KindRule} (exempt : rule.exemptOwnOrigin = true)
    (own : request.FromOwnOrigin) : rule.kindOf request = .other := by
  obtain ⟨unannounced, named⟩ := Request.fromOwnOrigin_iff.mp own
  exact kindOf_eq_other_iff.mpr ⟨unannounced, .inr ⟨exempt, named⟩⟩

theorem KindRule.kindOf_withoutOrigin (rule : KindRule) (unannounced : request.isPreflight = false) :
    rule.kindOf request.withoutOrigin = .other := by
  have still : ¬request.withoutOrigin.Announces := by
    rw [← Request.isPreflight_iff, Bool.not_eq_true]
    exact unannounced
  exact kindOf_eq_other_iff.mpr ⟨still, .inl rfl⟩

/-- What a tagger notes on requests outside the protocol does not go by their origin. -/
def Tagger.IgnoresOtherOrigins (tagger : Tagger) : Prop :=
  ∀ request : Request,
    (tagger request.withoutOrigin .other).attributes = (tagger request .other).attributes

theorem Tagger.ignoresOtherOrigins_standard : Tagger.standard.IgnoresOtherOrigins :=
  fun _ => rfl

/-- A chain goes by nothing of a request but its attributes. -/
def Chain.GoesByAttributes (next : Chain) : Prop :=
  ∀ {a b : Request}, a.attributes = b.attributes → next a = next b

namespace Gate
variable {gate : Gate} {response : Response} {next : Chain} {policy : Policy}

/-! ## Requests outside the protocol -/

/-- No stage is called for a request outside the protocol. -/
theorem stageCalls_of_other (other : gate.kindOf request = .other) (response : Response)
    (next : Chain) : (gate.intercept request response next).stageCalls = [] := by
  by_cases forced : ∃ policy, gate.InForce request policy
  · obtain ⟨policy, force⟩ := forced
    rw [stageCalls_of_inForce force, if_pos other]
  · exact (uncalled_of_no_policy forced response next).2.1

/-- The policy in force decides about a request outside the protocol. Either the chain behind the
gate gets it with the response as it was, or it is denied. -/
theorem generic_policy_decides (force : gate.InForce request policy)
    (other : gate.kindOf request = .other) (response : Response) (next : Chain) :
    let report := gate.intercept request response next
    let delivery := next (gate.seen policy request) response
    (policy.allowGeneric = true →
      report.nextCalls = [(gate.seen policy request).attributes] ∧
        report.result = delivery.result ∧ report.response = delivery.response) ∧
    (policy.allowGeneric = false →
      report.nextCalls = [] ∧ report.result = .ok .denied ∧
        report.response = response.refuse .genericDenied) := by
  dsimp only
  have granted := clearance_eq_granted_iff.mpr force
  constructor
  · intro serves
    have approved : gate.Approved request response policy := ⟨force, .inr ⟨other, serves⟩⟩
    have accepted : (gate.ruling policy request response).refusal = none := by
      simp [ruling_of_other other, serves]
    refine ⟨nextCalls_of_approved approved next, ?_⟩
    rw [intercept_forwarded granted accepted (by simp [other]), delivery, ruling_of_other other]
    exact ⟨rfl, rfl⟩
  · intro closed
    have cause : gate.RefusedFor request response .genericDenied .denied :=
      .generic force other closed
    obtain ⟨result, uncalled, written⟩ := report_of_refusedFor cause next
    refine ⟨uncalled, result, ?_⟩
    rw [written, staged_of_inForce force, ruling_of_other other]

/-- The origin of a request outside the protocol is not looked at, unless by the tagger or by the
chain behind the gate. -/
theorem intercept_withoutOrigin (ignored : gate.services.tagger.IgnoresOtherOrigins)
    (blind : next.GoesByAttributes) (other : gate.kindOf request = .other)
    (unannounced : request.isPreflight = false) (response : Response) :
    gate.intercept request.withoutOrigin response next = gate.intercept request response next := by
  have still : gate.kindOf request.withoutOrigin = .other :=
    gate.options.kindRule.kindOf_withoutOrigin unannounced
  have noted : ∀ policy, (gate.seen policy request.withoutOrigin).attributes =
      (gate.seen policy request).attributes := by
    intro policy
    rw [seen, seen, still, other, tagged, tagged]
    split
    · exact ignored request
    · rfl
  have ruled : ∀ policy, gate.ruling policy request.withoutOrigin response =
      gate.ruling policy request response := by
    intro policy
    rw [ruling_of_other still, ruling_of_other other]
  refine intercept_congr rfl rfl rfl rfl rfl (still.trans other.symm) noted ruled ?_
  intro policy
  rw [delivery, delivery, ruled, blind (noted policy)]

/-! ## The exemption -/

/-- The gate with its own origin exempted or not. -/
def exempting (gate : Gate) (exemptOwnOrigin : Bool) : Gate where
  options := { gate.options with kindRule := { exemptOwnOrigin } }
  services := gate.services
  accepted := gate.accepted

/-- Where the exemption has no part in the kind of a request, it has none in the report. -/
theorem intercept_exempting_of_kindOf {exempt exemptToo : Bool}
    (kind : (gate.exempting exempt).kindOf request = (gate.exempting exemptToo).kindOf request)
    (response : Response) (next : Chain) :
    (gate.exempting exempt).intercept request response next =
      (gate.exempting exemptToo).intercept request response next := by
  have seen : ∀ policy, (gate.exempting exempt).seen policy request =
      (gate.exempting exemptToo).seen policy request := by
    intro policy
    rw [Gate.seen, Gate.seen, kind]
    rfl
  have ruled : ∀ policy, (gate.exempting exempt).ruling policy request response =
      (gate.exempting exemptToo).ruling policy request response := by
    intro policy
    rw [ruling, ruling, kind, seen]
    rfl
  refine intercept_congr rfl rfl rfl rfl rfl kind ?_ ruled ?_
  · exact fun policy => congrArg Request.attributes (seen policy)
  · intro policy
    rw [delivery, delivery, seen, ruled]

/-- The exemption tells two gates apart only by requests that are no preflights and whose origin is
spelled `scheme://host` of their own address. For such a request no stage is called, and what its
tenant's policy says of requests outside the protocol decides about it. If neither the tagger nor
the chain behind the gate goes by the origin, the gate with the exemption reports on it as on the
same request without an origin. -/
theorem exemption_drops_own_origin (gate : Gate) (request : Request) (response : Response)
    (next : Chain) :
    let on := gate.exempting true
    let off := gate.exempting false
    let report := on.intercept request response next
    (request.isPreflight = true ∨ request.origin = none ∨ request.host = none ∨
        (∃ origin host, request.origin = some origin ∧ request.host = some host ∧
          origin ≠ request.scheme ++ "://" ++ host) →
      report = off.intercept request response next) ∧
    (∀ host, request.isPreflight = false → request.host = some host →
      request.origin = some (request.scheme ++ "://" ++ host) →
      report.stageCalls = [] ∧
      (∀ policy, gate.InForce request policy →
        let delivery := next (on.seen policy request) response
        (policy.allowGeneric = true →
          report.nextCalls = [(on.seen policy request).attributes] ∧
            report.result = delivery.result ∧ report.response = delivery.response) ∧
        (policy.allowGeneric = false →
          report.nextCalls = [] ∧ report.result = .ok .denied ∧
            report.response = response.refuse .genericDenied)) ∧
      (gate.services.tagger.IgnoresOtherOrigins → next.GoesByAttributes →
        report = on.intercept request.withoutOrigin response next)) := by
  dsimp only
  constructor
  · intro cases
    have foreign := Request.not_fromOwnOrigin_iff.mpr cases
    have kind : (gate.exempting true).kindOf request = (gate.exempting false).kindOf request := by
      rw [kindOf, kindOf, KindRule.kindOf_of_not_fromOwnOrigin _ foreign,
        KindRule.kindOf_of_not_fromOwnOrigin _ foreign]
    exact intercept_exempting_of_kindOf kind response next
  · intro host unannounced named sent
    have other : (gate.exempting true).kindOf request = .other :=
      KindRule.kindOf_of_fromOwnOrigin rfl ⟨unannounced, host, named, sent⟩
    refine ⟨stageCalls_of_other other response next, ?_, ?_⟩
    · intro policy force
      have forceToo : (gate.exempting true).InForce request policy := ⟨force.served, force.found⟩
      exact generic_policy_decides forceToo other response next
    · intro ignored blind
      have ignoredToo : (gate.exempting true).services.tagger.IgnoresOtherOrigins := ignored
      exact (intercept_withoutOrigin ignoredToo blind other unannounced response).symm

/-- At a gate that exempts its own origin, a request from there is reported on as without an origin,
also where the host is spelled with a scheme of its own, and one from a neighbour as at a gate that
exempts none. -/
theorem exemption_drops_own_origin_at_plainGate :
    (plainGate.exempting true).intercept
        { method := Method.get, host := some "a://b", origin := some "https://a://b" } ∅
        (Chain.ofEdits [] none) =
      (plainGate.exempting true).intercept { method := Method.get, host := some "a://b" } ∅
        (Chain.ofEdits [] none) ∧
    (plainGate.exempting true).intercept
        { method := Method.get, host := some "b", origin := some "https://a.b" } ∅
        (Chain.ofEdits [] none) =
      (plainGate.exempting false).intercept
        { method := Method.get, host := some "b", origin := some "https://a.b" } ∅
        (Chain.ofEdits [] none) := by
  obtain ⟨-, exempted⟩ := exemption_drops_own_origin plainGate
    { method := Method.get, host := some "a://b", origin := some "https://a://b" } ∅
    (Chain.ofEdits [] none)
  obtain ⟨-, -, alike⟩ := exempted "a://b" (by decide) rfl rfl
  obtain ⟨unconcerned, -⟩ := exemption_drops_own_origin plainGate
    { method := Method.get, host := some "b", origin := some "https://a.b" } ∅
    (Chain.ofEdits [] none)
  refine ⟨alike Tagger.ignoresOtherOrigins_standard fun _ => rfl, unconcerned ?_⟩
  exact .inr (.inr (.inr ⟨_, _, rfl, rfl, by decide⟩))

end Gate
end OriginGate
