import Mathlib.Data.List.Nodup
import OriginGate.Proofs.Clearance

/-! The calls that one request takes. They come collaborator by collaborator, each collaborator is
asked once at most (the directory once for each of its two questions), and a call that fails is the
last one. The name of the tenant is the same in every call, and an empty name never occurs. -/
namespace OriginGate

/-- The kind told to the tagger, if the call is one of it. -/
def Call.tagger? : Call → Option Kind
  | tagger kind => some kind
  | _ => none

/-- The call of a stage with what it is handed. -/
def Call.ofStage (handed : Kind × Attributes × Policy) : Call :=
  .stage handed.1 handed.2.1 handed.2.2

/-- The kinds that the tagger was told, in order. -/
def Report.taggings (report : Report) : List Kind :=
  report.calls.filterMap Call.tagger?

/-- Calls sorted by collaborator: the directory, the policy store, the tagger, the stages and the
chain behind the gate. -/
structure Transcript where
  questions : List DirectoryCall := []
  lookups : List (Option String) := []
  taggings : List Kind := []
  stages : List (Kind × Attributes × Policy) := []
  deliveries : List Attributes := []

namespace Transcript

/-- The calls in the order of the collaborators. -/
def calls (transcript : Transcript) : List Call :=
  transcript.questions.map .directory ++ transcript.lookups.map .policy ++
    transcript.taggings.map .tagger ++ transcript.stages.map .ofStage ++
    transcript.deliveries.map .next

/-- No collaborator but the directory is called twice. -/
structure SingleShot (transcript : Transcript) : Prop where
  questions : transcript.questions.Nodup
  lookups : transcript.lookups.length ≤ 1
  taggings : transcript.taggings.length ≤ 1
  stages : transcript.stages.length ≤ 1
  deliveries : transcript.deliveries.length ≤ 1

private theorem nodup_of_length_le_one {α : Type} {items : List α} (few : items.length ≤ 1) :
    items.Nodup := by
  match items, few with
  | [], _ => exact List.nodup_nil
  | [item], _ => exact List.nodup_singleton item

/-- Calls of different collaborators differ, so that no call is made twice. -/
theorem SingleShot.nodup_calls {transcript : Transcript} (single : transcript.SingleShot) :
    transcript.calls.Nodup := by
  have questions : (transcript.questions.map Call.directory).Nodup :=
    single.questions.map fun _ _ same => Call.directory.inj same
  have lookups : (transcript.lookups.map Call.policy).Nodup :=
    nodup_of_length_le_one (by simpa using single.lookups)
  have taggings : (transcript.taggings.map Call.tagger).Nodup :=
    nodup_of_length_le_one (by simpa using single.taggings)
  have stages : (transcript.stages.map Call.ofStage).Nodup :=
    nodup_of_length_le_one (by simpa using single.stages)
  have deliveries : (transcript.deliveries.map Call.next).Nodup :=
    nodup_of_length_le_one (by simpa using single.deliveries)
  simp only [calls, List.append_assoc, List.nodup_append, questions, lookups, taggings, stages,
    deliveries, List.mem_append, List.mem_map, true_and]
  grind [Call.ofStage]

end Transcript

/-- The views of a report whose calls come in the order of a transcript are those of the
transcript. -/
theorem Report.views_of_transcript {report : Report} {transcript : Transcript}
    (shape : report.calls = transcript.calls) :
    report.directoryCalls = transcript.questions ∧ report.policyLookups = transcript.lookups ∧
      report.taggings = transcript.taggings ∧ report.stageCalls = transcript.stages ∧
      report.nextCalls = transcript.deliveries := by
  simp [directoryCalls, policyLookups, taggings, stageCalls, nextCalls, shape, Transcript.calls,
    List.filterMap_append, List.filterMap_map, Function.comp_def, Call.directory?, Call.policy?,
    Call.tagger?, Call.stage?, Call.next?, Call.ofStage]

/-! ## Calls that fail -/

/-- The directory answers a question, rather than failing at it. -/
def Directory.Answers (directory : Directory) : DirectoryCall → Prop
  | .tenantId domain => ∃ id, directory.tenantId domain = .ok id
  | .isActive id => ∃ active, directory.isActive id = .ok active

/-- A failure of the directory ends its questioning. -/
theorem Directory.answers_of_mem_dropLast {directory : Directory} {tenant : Option String}
    {call : DirectoryCall} (member : call ∈ (directory.questions tenant).dropLast) :
    directory.Answers call := by
  cases tenant with
  | none => simp [questions] at member
  | some domain =>
    cases number : directory.tenantId domain with
    | error fault => simp [questions, number, Except.toOption] at member
    | ok id =>
      have first : call = .tenantId domain := by
        simpa [questions, number, Except.toOption] using member
      subst first
      exact ⟨id, number⟩

/-- A tenant is served only if the directory answered every question about it. -/
theorem Directory.answers_of_serves {directory : Directory} {tenant : Option String}
    (served : directory.Serves tenant) (named : tenant ≠ some "") {call : DirectoryCall}
    (member : call ∈ directory.questions tenant) : directory.Answers call := by
  rcases served with rfl | rfl | ⟨domain, id, rfl, number, activity⟩
  · simp [questions] at member
  · exact absurd rfl named
  · simp only [questions, number, Except.toOption, Option.toList_some, List.map_cons, List.map_nil,
      List.mem_cons, List.not_mem_nil, or_false] at member
    rcases member with rfl | rfl
    · exact ⟨id, number⟩
    · exact ⟨true, activity⟩

theorem Directory.nodup_questions (directory : Directory) (tenant : Option String) :
    (directory.questions tenant).Nodup := by
  cases tenant with
  | none => simp [questions]
  | some domain =>
    cases number : directory.tenantId domain <;> simp [questions, number, Except.toOption]

private theorem mem_of_mem_dropLast_append {α : Type} {item : α} {front back : List α}
    (few : back.length ≤ 1) (member : item ∈ (front ++ back).dropLast) : item ∈ front := by
  match back, few with
  | [], _ => exact List.dropLast_subset front (by simpa using member)
  | [last], _ => simpa using member

namespace Gate
variable {gate : Gate} {request : Request} {response : Response} {next : Chain} {policy : Policy}

/-- A call that one request takes succeeds: the directory and the policy store give an answer, a
stage accepts the request, and the chain behind the gate has no failure of the transport. The
tagger cannot fail. -/
def Succeeds (gate : Gate) (request : Request) (response : Response) (next : Chain) : Call → Prop
  | .directory call => gate.services.directory.Answers call
  | .policy tenant => ∃ policy, gate.services.policies tenant = .ok policy
  | .tagger _ => True
  | .stage _ _ policy => (gate.ruling policy request response).refusal = none
  | .next _ => ∃ outcome, (gate.intercept request response next).result = .ok outcome

/-! ## The transcript of a request -/

/-- The calls that a request takes under a policy, the chain behind the gate apart. -/
def handling (gate : Gate) (policy : Policy) (request : Request) : Transcript where
  questions := gate.services.directory.questions request.servedTenant
  lookups := [request.servedTenant]
  taggings := if policy.tagRequests then [gate.kindOf request] else []
  stages :=
    if gate.kindOf request = .other then []
    else [(gate.kindOf request, (gate.seen policy request).attributes, policy)]

private theorem calls_handling (gate : Gate) (policy : Policy) (request : Request) :
    (gate.handling policy request).calls = gate.handlingCalls policy request := by
  have tagging : (gate.handling policy request).taggings.map Call.tagger =
      taggerCalls (gate.kindOf request) policy := by
    cases wanted : policy.tagRequests <;> simp [handling, taggerCalls, wanted]
  have stage : (gate.handling policy request).stages.map Call.ofStage =
      gate.stageCall policy request := by
    cases kind : gate.kindOf request <;> simp [handling, stageCall, kind, Call.ofStage]
  rw [Transcript.calls, tagging, stage]
  simp [handling, handlingCalls, lookupCalls]

theorem calls_of_not_served (unserved : ¬gate.services.directory.Serves request.tenant) :
    (gate.intercept request response next).calls =
      ({ questions := gate.services.directory.questions request.servedTenant } :
        Transcript).calls := by
  obtain ⟨rejection, rejected⟩ := rejected_iff_not_serves.mpr unserved
  rw [intercept_rejected rejected]
  simp [Transcript.calls]

theorem calls_of_no_policy (served : gate.services.directory.Serves request.tenant)
    (lacking : ¬∃ policy, gate.InForce request policy) :
    (gate.intercept request response next).calls =
      ({ questions := gate.services.directory.questions request.servedTenant
         lookups := [request.servedTenant] } : Transcript).calls := by
  have looked : gate.lookupCalls request =
      ({ questions := gate.services.directory.questions request.servedTenant
         lookups := [request.servedTenant] } : Transcript).calls := by
    simp [Transcript.calls, lookupCalls]
  cases settled : gate.clearance request with
  | rejected rejection => exact absurd served (rejected_iff_not_serves.mp ⟨rejection, settled⟩)
  | unavailable fault =>
    cases answer : gate.options.onPolicyFault with
    | silence => rw [intercept_dropped settled answer, looked]
    | refuse status => rw [intercept_unavailable settled answer, looked]
  | granted policy => exact absurd ⟨policy, clearance_eq_granted_iff.mp settled⟩ lacking

/-- Without a policy in force neither the tagger nor a stage nor the chain behind the gate is
called. -/
theorem uncalled_of_no_policy (lacking : ¬∃ policy, gate.InForce request policy)
    (response : Response) (next : Chain) :
    (gate.intercept request response next).taggings = [] ∧
      (gate.intercept request response next).stageCalls = [] ∧
      (gate.intercept request response next).nextCalls = [] := by
  by_cases served : gate.services.directory.Serves request.tenant
  · obtain ⟨-, -, rest⟩ := Report.views_of_transcript (calls_of_no_policy served lacking)
    exact rest
  · obtain ⟨-, -, rest⟩ := Report.views_of_transcript (calls_of_not_served served)
    exact rest

/-- Under a policy in force the chain behind the gate is called once or not at all, and only if
the ruling is in the request's favour. -/
theorem calls_of_inForce (force : gate.InForce request policy) (response : Response)
    (next : Chain) :
    ∃ deliveries, deliveries.length ≤ 1 ∧
      (deliveries ≠ [] → (gate.ruling policy request response).refusal = none) ∧
      (gate.intercept request response next).calls =
        ({ gate.handling policy request with deliveries } : Transcript).calls := by
  have granted := clearance_eq_granted_iff.mpr force
  have kept : ({ gate.handling policy request with deliveries := [] } : Transcript).calls =
      gate.handlingCalls policy request := calls_handling gate policy request
  cases verdict : (gate.ruling policy request response).refusal with
  | some refusal =>
    refine ⟨[], by simp, by simp, ?_⟩
    rw [intercept_refused granted verdict, kept]
  | none =>
    by_cases preflight : gate.kindOf request = .preflight
    · refine ⟨[], by simp, by simp, ?_⟩
      rw [intercept_answered granted verdict preflight, kept]
    · refine ⟨[(gate.seen policy request).attributes], by simp, fun _ => rfl, ?_⟩
      rw [intercept_forwarded granted verdict preflight, ← calls_handling]
      simp [Transcript.calls, handling]

/-- The stage for the kind of a request, if it has one, is handed the policy in force. -/
theorem stageCalls_of_inForce (force : gate.InForce request policy) (response : Response)
    (next : Chain) :
    (gate.intercept request response next).stageCalls =
      if gate.kindOf request = .other then []
      else [(gate.kindOf request, (gate.seen policy request).attributes, policy)] := by
  obtain ⟨deliveries, -, -, shape⟩ := calls_of_inForce force response next
  obtain ⟨-, -, -, stages, -⟩ := Report.views_of_transcript shape
  exact stages

private theorem singleShot_handling (gate : Gate) (policy : Policy) (request : Request)
    {deliveries : List Attributes} (few : deliveries.length ≤ 1) :
    ({ gate.handling policy request with deliveries } : Transcript).SingleShot where
  questions := gate.services.directory.nodup_questions request.servedTenant
  lookups := by simp [handling]
  taggings := by
    simp only [handling]
    split <;> simp
  stages := by
    simp only [handling]
    split <;> simp
  deliveries := few

/-- Every request has a transcript in which no collaborator but the directory occurs twice. -/
theorem exists_transcript (gate : Gate) (request : Request) (response : Response) (next : Chain) :
    ∃ transcript : Transcript, transcript.SingleShot ∧
      transcript.questions = gate.services.directory.questions request.servedTenant ∧
      (gate.intercept request response next).calls = transcript.calls := by
  have asked := gate.services.directory.nodup_questions request.servedTenant
  by_cases served : gate.services.directory.Serves request.tenant
  · by_cases forced : ∃ policy, gate.InForce request policy
    · obtain ⟨policy, force⟩ := forced
      obtain ⟨deliveries, few, -, shape⟩ := calls_of_inForce force response next
      exact ⟨_, singleShot_handling gate policy request few, rfl, shape⟩
    · exact ⟨_, ⟨asked, by simp, by simp, by simp, by simp⟩, rfl, calls_of_no_policy served forced⟩
  · exact ⟨_, ⟨asked, by simp, by simp, by simp, by simp⟩, rfl, calls_of_not_served served⟩

private theorem succeeds_before_stage (force : gate.InForce request policy) {call : Call}
    (member : call ∈ (gate.handling policy request).questions.map .directory ++
      (gate.handling policy request).lookups.map .policy ++
      (gate.handling policy request).taggings.map .tagger) :
    gate.Succeeds request response next call := by
  simp only [List.mem_append, List.mem_map] at member
  rcases member with (⟨question, asked, rfl⟩ | ⟨tenant, looked, rfl⟩) | ⟨kind, told, rfl⟩
  · exact Directory.answers_of_serves (Directory.serves_servedTenant.mpr force.served)
      request.servedTenant_ne_empty asked
  · have same : tenant = request.servedTenant := by simpa [handling] using looked
    exact ⟨policy, same ▸ force.found⟩
  · trivial

/-- A call with another call after it has succeeded. -/
theorem succeeds_of_mem_dropLast {call : Call}
    (member : call ∈ (gate.intercept request response next).calls.dropLast) :
    gate.Succeeds request response next call := by
  by_cases served : gate.services.directory.Serves request.tenant
  · by_cases forced : ∃ policy, gate.InForce request policy
    · obtain ⟨policy, force⟩ := forced
      obtain ⟨deliveries, few, accepted, shape⟩ :=
        calls_of_inForce force response next
      rw [shape, Transcript.calls] at member
      cases deliveries with
      | nil =>
        have few : ((gate.handling policy request).stages.map Call.ofStage).length ≤ 1 := by
          simpa using (singleShot_handling gate policy request few).stages
        simp only [List.map_nil, List.append_nil] at member
        exact succeeds_before_stage force (mem_of_mem_dropLast_append few member)
      | cons delivered rest =>
        have front := mem_of_mem_dropLast_append (by simpa using few) member
        rcases List.mem_append.mp front with earlier | stage
        · exact succeeds_before_stage force earlier
        · obtain ⟨handed, called, rfl⟩ := List.mem_map.mp stage
          have same : handed.2.2 = policy := by
            simp only [handling] at called
            split at called
            · simp at called
            · rw [List.mem_singleton.mp called]
          change (gate.ruling handed.2.2 request response).refusal = none
          rw [same]
          exact accepted (by simp)
    · rw [calls_of_no_policy served forced, Transcript.calls] at member
      simp only [List.map_nil, List.append_nil] at member
      have question := mem_of_mem_dropLast_append (by simp) member
      obtain ⟨call, asked, rfl⟩ := List.mem_map.mp question
      exact Directory.answers_of_serves (Directory.serves_servedTenant.mpr served)
        request.servedTenant_ne_empty asked
  · rw [calls_of_not_served served, Transcript.calls] at member
    simp only [List.map_nil, List.append_nil, ← List.map_dropLast] at member
    obtain ⟨call, asked, rfl⟩ := List.mem_map.mp member
    exact Directory.answers_of_mem_dropLast asked

end Gate

/-! ## The tenant as it was given -/

/-- Two requests that differ at most in the tenant as the host gave it. -/
def Request.SameButTenant (a b : Request) : Prop :=
  { a with tenant := none } = { b with tenant := none }

theorem Request.SameButTenant.attributes_eq {a b : Request} (same : a.SameButTenant b) :
    a.attributes = b.attributes := by
  have shared := congrArg Request.attributes same
  exact shared

theorem Request.SameButTenant.kindOf_eq {a b : Request} (same : a.SameButTenant b)
    (rule : KindRule) : rule.kindOf a = rule.kindOf b := by
  have shared := congrArg rule.kindOf same
  exact shared

namespace Gate
variable {gate : Gate} {request : Request} {response : Response} {next : Chain} {policy : Policy}

/-- Tagger, stages and chain go by other parts of a request than the tenant as it was given. -/
structure IgnoresTenant (gate : Gate) (next : Chain) : Prop where
  tagger : ∀ {a b : Request} (kind : Kind), a.SameButTenant b →
    (gate.services.tagger a kind).SameButTenant (gate.services.tagger b kind)
  actual : ∀ {a b : Request}, a.SameButTenant b →
    gate.services.stages.actual a = gate.services.stages.actual b
  preflight : ∀ {a b : Request}, a.SameButTenant b →
    gate.services.stages.preflight a = gate.services.stages.preflight b
  next : ∀ {a b : Request}, a.SameButTenant b → next a = next b

/-- Where nothing goes by the tenant as it was given, only the tenant served matters. -/
theorem intercept_of_sameButTenant (ignored : gate.IgnoresTenant next) {a b : Request}
    (same : a.SameButTenant b) (served : a.servedTenant = b.servedTenant) :
    gate.intercept a response next = gate.intercept b response next := by
  have kind : gate.kindOf a = gate.kindOf b := same.kindOf_eq gate.options.kindRule
  have seen : ∀ policy, (gate.seen policy a).SameButTenant (gate.seen policy b) := by
    intro policy
    unfold seen tagged
    split
    · rw [kind]
      exact ignored.tagger _ same
    · exact same
  have ruled : ∀ policy, gate.ruling policy a response = gate.ruling policy b response := by
    intro policy
    unfold ruling
    rw [kind, ignored.actual (seen policy), ignored.preflight (seen policy)]
  refine intercept_congr served same.attributes_eq rfl rfl rfl kind ?_ ruled ?_
  · exact fun policy => (seen policy).attributes_eq
  · intro policy
    rw [delivery, delivery, ruled, ignored.next (seen policy)]

private theorem standard_sameButTenant {a b : Request} (kind : Kind) (same : a.SameButTenant b) :
    (Tagger.standard a kind).SameButTenant (Tagger.standard b kind) := by
  have tags : tagsOf a kind = tagsOf b kind := by
    have shared := congrArg (fun request => tagsOf request kind) same
    exact shared
  have noted : a.attributes.insertAll (tagsOf a kind) = b.attributes.insertAll (tagsOf b kind) := by
    rw [same.attributes_eq, tags]
  have rest : { a with tenant := none, attributes := ∅ } =
      { b with tenant := none, attributes := ∅ } := by
    have shared := congrArg (fun request : Request => { request with attributes := ∅ }) same
    exact shared
  exact congrArg₂ (fun (request : Request) attributes => { request with attributes }) rest noted

/-- The standard tagger goes by nothing of the tenant, nor do stages and chains that make given
edits. -/
theorem ignoresTenant_of_edits (tagger : gate.services.tagger = Tagger.standard)
    (actual : ∃ edits refusal, gate.services.stages.actual = Stage.ofEdits edits refusal)
    (preflight : ∃ edits refusal, gate.services.stages.preflight = Stage.ofEdits edits refusal)
    (edits : List Edit) (failure : Option TransportError) :
    gate.IgnoresTenant (Chain.ofEdits edits failure) := by
  obtain ⟨negotiated, accepted, actual⟩ := actual
  obtain ⟨answered, allowed, preflight⟩ := preflight
  refine ⟨?_, ?_, ?_, fun _ => rfl⟩
  · intro a b kind same
    rw [tagger]
    exact standard_sameButTenant kind same
  · intro a b same
    rw [actual]
    rfl
  · intro a b same
    rw [preflight]
    rfl

/-- The calls of a request come in one order, each at most once and none after one that fails. The
directory is asked about the tenant served, if there is one, and the policy store for the same
tenant exactly if the directory lets it pass. The tagger is called exactly if a policy is in force
that wants tags, and the stage for the kind of the request, if it has one, is handed that policy.
An empty tenant's name is like none. -/
theorem calls_come_once_and_in_order (gate : Gate) (request : Request) (response : Response)
    (next : Chain) :
    let report := gate.intercept request response next
    let kind := gate.kindOf request
    (report.calls =
      report.directoryCalls.map .directory ++ report.policyLookups.map .policy ++
        report.taggings.map .tagger ++ report.stageCalls.map .ofStage ++
        report.nextCalls.map .next) ∧
    report.directoryCalls = gate.services.directory.questions request.servedTenant ∧
    (gate.services.directory.Serves request.tenant →
      report.policyLookups = [request.servedTenant]) ∧
    (¬gate.services.directory.Serves request.tenant → report.policyLookups = []) ∧
    (∀ policy, gate.InForce request policy →
      report.taggings = (if policy.tagRequests then [kind] else []) ∧
      report.stageCalls =
        if kind = .other then [] else [(kind, (gate.seen policy request).attributes, policy)]) ∧
    ((¬∃ policy, gate.InForce request policy) →
      report.taggings = [] ∧ report.stageCalls = [] ∧ report.nextCalls = []) ∧
    report.nextCalls.length ≤ 1 ∧
    report.calls.Nodup ∧
    (∀ call ∈ report.calls.dropLast, gate.Succeeds request response next call) ∧
    some "" ∉ report.policyLookups ∧
    (gate.IgnoresTenant next →
      gate.intercept { request with tenant := some "" } response next =
        gate.intercept { request with tenant := none } response next) := by
  dsimp only
  obtain ⟨transcript, single, asked, shape⟩ := exists_transcript gate request response next
  obtain ⟨questions, lookups, taggings, stages, deliveries⟩ := Report.views_of_transcript shape
  have looked : gate.services.directory.Serves request.tenant →
      (gate.intercept request response next).policyLookups = [request.servedTenant] := by
    intro served
    by_cases forced : ∃ policy, gate.InForce request policy
    · obtain ⟨policy, force⟩ := forced
      obtain ⟨deliveries, -, -, shape⟩ := calls_of_inForce force response next
      exact (Report.views_of_transcript shape).2.1
    · exact (Report.views_of_transcript (calls_of_no_policy served forced)).2.1
  have unlooked : ¬gate.services.directory.Serves request.tenant →
      (gate.intercept request response next).policyLookups = [] := fun unserved =>
    (Report.views_of_transcript (calls_of_not_served unserved)).2.1
  refine ⟨?_, questions.trans asked, looked, unlooked, ?_, ?_, ?_, ?_, ?_, ?_, ?_⟩
  · rw [questions, lookups, taggings, stages, deliveries, shape, Transcript.calls]
  · intro policy force
    obtain ⟨deliveries, -, -, shape⟩ := calls_of_inForce force response next
    obtain ⟨-, -, taggings, stages, -⟩ := Report.views_of_transcript shape
    exact ⟨taggings, stages⟩
  · exact fun lacking => uncalled_of_no_policy lacking response next
  · rw [deliveries]
    exact single.deliveries
  · rw [shape]
    exact single.nodup_calls
  · exact fun call member => succeeds_of_mem_dropLast member
  · intro empty
    by_cases served : gate.services.directory.Serves request.tenant
    · rw [looked served, List.mem_singleton] at empty
      exact request.servedTenant_ne_empty empty.symm
    · simp [unlooked served] at empty
  · intro ignored
    exact intercept_of_sameButTenant ignored rfl rfl

/-- A gate with a directory and a store that answer everyone, and otherwise as it comes. -/
def plainGate : Gate where
  options := {}
  services :=
    { directory := { tenantId := fun _ => .ok 7, isActive := fun _ => .ok true }
      policies := fun _ => .ok { tagRequests := true } }
  accepted := by decide

/-- Such a gate reports on a request with an empty tenant as on one without. -/
theorem empty_tenant_is_none_at_plainGate :
    plainGate.intercept { method := Method.get, tenant := some "" } ∅ (Chain.ofEdits [] none) =
      plainGate.intercept { method := Method.get } ∅ (Chain.ofEdits [] none) := by
  have ignored : plainGate.IgnoresTenant (Chain.ofEdits [] none) :=
    ignoresTenant_of_edits rfl ⟨[], none, rfl⟩ ⟨[], none, rfl⟩ [] none
  obtain ⟨-, -, -, -, -, -, -, -, -, -, alike⟩ :=
    calls_come_once_and_in_order plainGate { method := Method.get } ∅ (Chain.ofEdits [] none)
  exact alike ignored

end Gate
end OriginGate
