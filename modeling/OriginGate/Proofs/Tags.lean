import OriginGate.Proofs.CallOrder
import OriginGate.Proofs.Forwarding

/-! Tags are shown to everyone who comes after them, and they steer nothing. Stages, chain and host
are shown one list of attributes: the tagged one if the policy in force wants tags, and otherwise
the one that the request came with. Where nobody reads tags, a report without its tags is the same
whatever a request came with, whoever tags it and whether it is tagged at all. -/
namespace OriginGate

/-! ## Without tags -/

/-- A policy but for the wish for tags. -/
def Policy.untagged (policy : Policy) : Policy :=
  { policy with tagRequests := false }

/-- A call but for tags; what is left of one of the tagger is nothing. -/
def Call.untagged : Call → Option Call
  | tagger _ => none
  | stage kind _ inForce => some (stage kind ∅ inForce.untagged)
  | next _ => some (next ∅)
  | call => some call

/-- A report but for tags. -/
def Report.untagged (report : Report) : Report :=
  { report with attributes := ∅, calls := report.calls.filterMap Call.untagged }

/-- Two reports differ at most in tags. Stages are compared by kind and by the policy they were
handed, calls of the chain by their number. -/
structure Report.SameButTags (a b : Report) : Prop where
  result : a.result = b.result
  response : a.response = b.response
  directoryCalls : a.directoryCalls = b.directoryCalls
  policyLookups : a.policyLookups = b.policyLookups
  stages : a.stageCalls.map (fun handed => (handed.1, handed.2.2.untagged)) =
    b.stageCalls.map (fun handed => (handed.1, handed.2.2.untagged))
  deliveries : a.nextCalls.length = b.nextCalls.length
  events : a.events = b.events

namespace Report
variable (report : Report)

theorem directoryCalls_untagged : report.untagged.directoryCalls = report.directoryCalls := by
  have kept : (fun call => (Call.untagged call).bind Call.directory?) = Call.directory? := by
    funext call
    cases call <;> rfl
  rw [directoryCalls, untagged, List.filterMap_filterMap, kept, directoryCalls]

theorem policyLookups_untagged : report.untagged.policyLookups = report.policyLookups := by
  have kept : (fun call => (Call.untagged call).bind Call.policy?) = Call.policy? := by
    funext call
    cases call <;> rfl
  rw [policyLookups, untagged, List.filterMap_filterMap, kept, policyLookups]

theorem stageCalls_untagged : report.untagged.stageCalls =
    report.stageCalls.map fun handed => (handed.1, ∅, handed.2.2.untagged) := by
  have kept : (fun call => (Call.untagged call).bind Call.stage?) =
      fun call => (Call.stage? call).map fun handed => (handed.1, ∅, handed.2.2.untagged) := by
    funext call
    cases call <;> rfl
  rw [stageCalls, untagged, List.filterMap_filterMap, kept, stageCalls, List.map_filterMap]

theorem nextCalls_untagged :
    report.untagged.nextCalls = report.nextCalls.map fun _ => (∅ : Attributes) := by
  have kept : (fun call => (Call.untagged call).bind Call.next?) =
      fun call => (Call.next? call).map fun _ => (∅ : Attributes) := by
    funext call
    cases call <;> rfl
  rw [nextCalls, untagged, List.filterMap_filterMap, kept, nextCalls, List.map_filterMap]

theorem sameButTags_of_untagged_eq {a b : Report} (same : a.untagged = b.untagged) :
    a.SameButTags b where
  result := by
    have shared := congrArg Report.result same
    exact shared
  response := by
    have shared := congrArg Report.response same
    exact shared
  directoryCalls := by
    rw [← a.directoryCalls_untagged, same, b.directoryCalls_untagged]
  policyLookups := by
    rw [← a.policyLookups_untagged, same, b.policyLookups_untagged]
  stages := by
    have handed := congrArg (fun report => report.stageCalls.map fun call => (call.1, call.2.2)) same
    simpa [stageCalls_untagged, Function.comp_def] using handed
  deliveries := by
    have handed := congrArg (fun report => report.nextCalls.length) same
    simpa [nextCalls_untagged] using handed
  events := by
    have shared := congrArg Report.events same
    exact shared

end Report

/-! ## Whoever does not read tags -/

/-- Two requests differ at most in their attributes. -/
def Request.SameButAttributes (a b : Request) : Prop :=
  { a with attributes := ∅ } = { b with attributes := ∅ }

theorem Request.SameButAttributes.trans {a b c : Request} (first : a.SameButAttributes b)
    (second : b.SameButAttributes c) : a.SameButAttributes c :=
  Eq.trans first second

theorem Request.SameButAttributes.symm {a b : Request} (same : a.SameButAttributes b) :
    b.SameButAttributes a :=
  Eq.symm same

theorem Request.SameButAttributes.kindOf_eq {a b : Request} (same : a.SameButAttributes b)
    (rule : KindRule) : rule.kindOf a = rule.kindOf b := by
  have shared := congrArg rule.kindOf same
  exact shared

theorem Request.SameButAttributes.servedTenant_eq {a b : Request} (same : a.SameButAttributes b) :
    a.servedTenant = b.servedTenant := by
  have shared := congrArg Request.servedTenant same
  exact shared

/-- A tagger changes nothing but attributes. -/
def Tagger.OnlyTags (tagger : Tagger) : Prop :=
  ∀ request kind, (tagger request kind).SameButAttributes request

theorem Tagger.onlyTags_standard : Tagger.standard.OnlyTags := fun _ _ => rfl

theorem Tagger.onlyTags_labelled (name : String) : (Tagger.labelled name).OnlyTags := fun _ _ => rfl

/-- A stage reads neither attributes nor the wish for tags. -/
def Stage.IgnoresTags (stage : Stage) : Prop :=
  ∀ {a b : Request} {policy other : Policy}, a.SameButAttributes b →
    policy.untagged = other.untagged → stage a policy = stage b other

theorem Stage.ignoresTags_ofEdits (edits : List Edit) (refusal : Option Refusal) :
    (Stage.ofEdits edits refusal).IgnoresTags := fun _ _ => rfl

/-- Neither stages nor chain read attributes or the wish for tags. -/
structure Stages.IgnoreTags (stages : Stages) (next : Chain) : Prop where
  actual : stages.actual.IgnoresTags
  preflight : stages.preflight.IgnoresTags
  next : ∀ {a b : Request}, a.SameButAttributes b → next a = next b

namespace Gate
variable {gate other : Gate} {request again : Request} {response : Response} {next : Chain}
  {policy policyToo : Policy}

/-- Two gates differ at most in their taggers and in which of their policies want tags. -/
structure SameButTags (gate other : Gate) : Prop where
  options : gate.options = other.options
  directory : gate.services.directory = other.services.directory
  stages : gate.services.stages = other.services.stages
  policies : ∀ tenant, (gate.services.policies tenant).map Policy.untagged =
    (other.services.policies tenant).map Policy.untagged
  tagger : gate.services.tagger.OnlyTags
  taggerToo : other.services.tagger.OnlyTags

theorem seen_sameButAttributes (only : gate.services.tagger.OnlyTags) (policy : Policy)
    (request : Request) : (gate.seen policy request).SameButAttributes request := by
  unfold seen tagged
  split
  · exact only request _
  · rfl

namespace SameButTags
variable (same : gate.SameButTags other) (alike : request.SameButAttributes again)
include same alike

theorem kindOf_eq : gate.kindOf request = other.kindOf again := by
  rw [kindOf, same.options]
  exact alike.kindOf_eq other.options.kindRule

theorem seen_alike (policy policyToo : Policy) :
    (gate.seen policy request).SameButAttributes (other.seen policyToo again) :=
  (seen_sameButAttributes same.tagger policy request).trans
    (alike.trans (seen_sameButAttributes same.taggerToo policyToo again).symm)

theorem ruling_eq (ignored : gate.services.stages.IgnoreTags next)
    (policies : policy.untagged = policyToo.untagged) (response : Response) :
    gate.ruling policy request response = other.ruling policyToo again response := by
  have seen := same.seen_alike alike policy policyToo
  have generic : policy.allowGeneric = policyToo.allowGeneric := by
    have shared := congrArg Policy.allowGeneric policies
    exact shared
  unfold ruling
  rw [same.kindOf_eq alike, ← same.stages, ignored.actual seen policies,
    ignored.preflight seen policies, generic]

/-- What is settled about the requests is the same but for the wish for tags. -/
theorem clearance_untagged :
    (∀ rejection, gate.clearance request = .rejected rejection →
      other.clearance again = .rejected rejection) ∧
    (∀ fault, gate.clearance request = .unavailable fault →
      other.clearance again = .unavailable fault) ∧
    (∀ policy, gate.clearance request = .granted policy →
      ∃ policyToo, other.clearance again = .granted policyToo ∧
        policy.untagged = policyToo.untagged) := by
  have found := same.policies again.servedTenant
  unfold clearance
  rw [alike.servedTenant_eq, same.directory]
  cases (other.services.directory.check again.servedTenant).verdict with
  | error rejection => simp
  | ok =>
    cases first : gate.services.policies again.servedTenant <;>
      cases second : other.services.policies again.servedTenant <;>
      simp_all [Except.map]

theorem untagged_lookupCalls : (gate.lookupCalls request).filterMap Call.untagged =
    (other.lookupCalls again).filterMap Call.untagged := by
  rw [lookupCalls, lookupCalls, same.directory, alike.servedTenant_eq]

theorem untagged_handlingCalls (policies : policy.untagged = policyToo.untagged) :
    (gate.handlingCalls policy request).filterMap Call.untagged =
      (other.handlingCalls policyToo again).filterMap Call.untagged := by
  have tagging : ∀ kind policy, (taggerCalls kind policy).filterMap Call.untagged = [] := by
    intro kind policy
    cases wanted : policy.tagRequests <;> simp [taggerCalls, wanted, Call.untagged]
  have stage : (gate.stageCall policy request).filterMap Call.untagged =
      (other.stageCall policyToo again).filterMap Call.untagged := by
    unfold stageCall
    rw [same.kindOf_eq alike]
    cases other.kindOf again <;> simp [Call.untagged, policies]
  simp only [handlingCalls, List.filterMap_append, same.untagged_lookupCalls alike, tagging, stage]

theorem handlingEvents_eq (ignored : gate.services.stages.IgnoreTags next)
    (policies : policy.untagged = policyToo.untagged) (response : Response) :
    gate.handlingEvents policy request response = other.handlingEvents policyToo again response := by
  rw [handlingEvents, handlingEvents, same.kindOf_eq alike, alike.servedTenant_eq,
    same.ruling_eq alike ignored policies]

/-- Where nobody reads tags, reports without tags are the same. -/
theorem untagged_intercept (ignored : gate.services.stages.IgnoreTags next) (response : Response) :
    (gate.intercept request response next).untagged =
      (other.intercept again response next).untagged := by
  obtain ⟨rejections, faults, grants⟩ := same.clearance_untagged alike
  have kind := same.kindOf_eq alike
  cases gate.way request response with
  | rejected rejection rejected =>
    rw [intercept_rejected rejected, intercept_rejected (rejections _ rejected)]
    simp only [Report.untagged, same.directory, alike.servedTenant_eq]
  | dropped fault unavailable silent =>
    have silentToo := same.options ▸ silent
    rw [intercept_dropped unavailable silent, intercept_dropped (faults _ unavailable) silentToo]
    simp only [Report.untagged, same.untagged_lookupCalls alike]
  | unavailable fault status unavailable told =>
    have toldToo := same.options ▸ told
    rw [intercept_unavailable unavailable told,
      intercept_unavailable (faults _ unavailable) toldToo]
    simp only [Report.untagged, same.untagged_lookupCalls alike]
  | refused policy refusal granted refused =>
    obtain ⟨policyToo, grantedToo, policies⟩ := grants _ granted
    have ruled := same.ruling_eq alike ignored policies response
    rw [intercept_refused granted refused, intercept_refused grantedToo (ruled ▸ refused)]
    simp only [Report.untagged, kind, ruled, same.untagged_handlingCalls alike policies,
      same.handlingEvents_eq alike ignored policies]
  | answered policy granted accepted preflight =>
    obtain ⟨policyToo, grantedToo, policies⟩ := grants _ granted
    have ruled := same.ruling_eq alike ignored policies response
    rw [intercept_answered granted accepted preflight,
      intercept_answered grantedToo (ruled ▸ accepted) (kind ▸ preflight)]
    simp only [Report.untagged, ruled, same.untagged_handlingCalls alike policies,
      same.handlingEvents_eq alike ignored policies]
  | forwarded policy granted accepted through =>
    obtain ⟨policyToo, grantedToo, policies⟩ := grants _ granted
    have ruled := same.ruling_eq alike ignored policies response
    have delivered : gate.delivery policy request response next =
        other.delivery policyToo again response next := by
      rw [delivery, delivery, ruled, ignored.next (same.seen_alike alike policy policyToo)]
    rw [intercept_forwarded granted accepted through,
      intercept_forwarded grantedToo (ruled ▸ accepted) (kind ▸ through)]
    simp only [Report.untagged, delivered, List.filterMap_append,
      same.untagged_handlingCalls alike policies, same.handlingEvents_eq alike ignored policies]
    rfl

end SameButTags

/-! ## Who is shown which attributes -/

theorem attributes_seen (gate : Gate) (policy : Policy) (request : Request) :
    (gate.seen policy request).attributes =
      if policy.tagRequests then (gate.services.tagger request (gate.kindOf request)).attributes
      else request.attributes := by
  unfold seen tagged
  split <;> rfl

/-- Under a policy in force a request ends with the attributes that stages and chain see. -/
theorem attributes_of_inForce (force : gate.InForce request policy) (response : Response)
    (next : Chain) :
    (gate.intercept request response next).attributes = (gate.seen policy request).attributes := by
  have granted := clearance_eq_granted_iff.mpr force
  cases verdict : (gate.ruling policy request response).refusal with
  | some refusal => rw [intercept_refused granted verdict]
  | none =>
    by_cases preflight : gate.kindOf request = .preflight
    · rw [intercept_answered granted verdict preflight]
    · rw [intercept_forwarded granted verdict preflight]

theorem attributes_of_no_policy (lacking : ¬∃ policy, gate.InForce request policy)
    (response : Response) (next : Chain) :
    (gate.intercept request response next).attributes = request.attributes := by
  cases settled : gate.clearance request with
  | rejected rejection => rw [intercept_rejected settled]
  | unavailable fault =>
    cases answer : gate.options.onPolicyFault with
    | silence => rw [intercept_dropped settled answer]
    | refuse status => rw [intercept_unavailable settled answer]
  | granted policy => exact absurd ⟨policy, clearance_eq_granted_iff.mp settled⟩ lacking

/-- A request keeps its attributes unless a policy is in force that wants tags. Then they are what
the tagger makes of them, told the kind of the request as it came. Stages and chain are shown the
attributes that are left at the end, however the request ends. Where neither of them reads tags,
nothing else goes by the attributes a request came with, by the tagger or by the wish for tags. -/
theorem tags_are_shown_and_steer_nothing (gate : Gate) (request : Request) (response : Response)
    (next : Chain) :
    let report := gate.intercept request response next
    ((¬∃ policy, gate.InForce request policy ∧ policy.tagRequests = true) →
      report.attributes = request.attributes) ∧
    (∀ policy, gate.InForce request policy → policy.tagRequests = true →
      report.attributes = (gate.services.tagger request (gate.kindOf request)).attributes) ∧
    (∀ handed ∈ report.stageCalls, handed.2.1 = report.attributes) ∧
    (∀ shown ∈ report.nextCalls, shown = report.attributes) ∧
    (∀ other again, gate.SameButTags other → request.SameButAttributes again →
      gate.services.stages.IgnoreTags next →
      report.SameButTags (other.intercept again response next)) := by
  dsimp only
  refine ⟨?_, ?_, ?_, ?_, ?_⟩
  · intro unwanted
    by_cases forced : ∃ policy, gate.InForce request policy
    · obtain ⟨policy, force⟩ := forced
      have plain : ¬policy.tagRequests = true := fun wanted => unwanted ⟨policy, force, wanted⟩
      rw [attributes_of_inForce force, attributes_seen, if_neg plain]
    · exact attributes_of_no_policy forced response next
  · intro policy force wanted
    rw [attributes_of_inForce force, attributes_seen, if_pos wanted]
  · by_cases forced : ∃ policy, gate.InForce request policy
    · obtain ⟨policy, force⟩ := forced
      rw [stageCalls_of_inForce force, attributes_of_inForce force]
      split <;> simp
    · simp [(uncalled_of_no_policy forced response next).2.1]
  · by_cases approval : ∃ policy, gate.Approved request response policy
    · obtain ⟨policy, approved⟩ := approval
      rw [nextCalls_of_approved approved, attributes_of_inForce approved.toInForce]
      simp
    · simp [(kept_of_not_approved approval next).1]
  · intro other again same alike ignored
    exact Report.sameButTags_of_untagged_eq (same.untagged_intercept alike ignored response)

/-- A gate that tags and one that would tag otherwise but does not want to report alike but for
tags, on requests that come with different attributes. -/
theorem tags_are_shown_and_steer_nothing_at_plainGate :
    let request : Request := { method := Method.get, origin := some "https://b.example" }
    let noted := request.setAttribute "x-marker" "other"
    let untagging : Gate := { plainGate with
      services := { plainGate.services with
        policies := fun _ => .ok {}
        tagger := Tagger.labelled "x-marker" } }
    let next := Chain.ofEdits [.write "served"] none
    (plainGate.intercept request ∅ next).attributes =
        (Tagger.standard request .actual).attributes ∧
      (plainGate.intercept request ∅ next).SameButTags (untagging.intercept noted ∅ next) := by
  intro request noted untagging next
  have same : plainGate.SameButTags untagging :=
    ⟨rfl, rfl, rfl, fun _ => rfl, Tagger.onlyTags_standard, Tagger.onlyTags_labelled _⟩
  have ignored : plainGate.services.stages.IgnoreTags next :=
    ⟨Stage.ignoresTags_ofEdits _ _, Stage.ignoresTags_ofEdits _ _, fun _ => rfl⟩
  obtain ⟨-, tagged, -, -, steered⟩ :=
    tags_are_shown_and_steer_nothing plainGate request ∅ next
  have kind : plainGate.kindOf request = .actual := by decide
  have told := tagged _ ⟨.inl rfl, rfl⟩ rfl
  rw [kind] at told
  exact ⟨told, steered untagging noted same rfl ignored⟩

end Gate
end OriginGate
