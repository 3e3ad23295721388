import Mathlib.Data.List.Forall2
import OriginGate.Gate.Session
import OriginGate.Proofs.CallOrder

/-! What went wrong inside is not told outside. A failing policy store and a failing directory leave
words in the log, and a directory's words also decide whether its tenant counts as unknown. Nothing
else of a report goes by them, in one request or in a whole run. -/
namespace OriginGate

/-- The class of a rejection and its domain are all there is to it. -/
theorem TenantRejection.eq_of_status_eq {a b : TenantRejection} (domain : a.domain = b.domain)
    (status : a.status = b.status) : a = b := by
  cases a with
  | inactive asked =>
    cases b with
    | inactive askedToo => exact congrArg inactive domain
    | lookupFailed askedToo => cases status
  | lookupFailed asked =>
    cases b with
    | inactive askedToo => cases status
    | lookupFailed askedToo => exact congrArg lookupFailed domain

/-! ## Reports that cannot be told apart -/

/-- A report without what was logged. -/
def Report.unlogged (report : Report) : Report :=
  { report with events := [] }

/-- Two reports are alike outside if the client and every collaborator but the directory find no
difference. -/
structure Report.AlikeOutside (a b : Report) : Prop where
  result : a.result = b.result
  response : a.response = b.response
  attributes : a.attributes = b.attributes
  policyLookups : a.policyLookups = b.policyLookups
  taggings : a.taggings = b.taggings
  stageCalls : a.stageCalls = b.stageCalls
  nextCalls : a.nextCalls = b.nextCalls

/-- Reports that differ at most in the questions put to the directory, which come first, and in what
was logged. -/
structure Report.SameBeyond (a b : Report) (asked askedToo : List DirectoryCall) : Prop where
  result : a.result = b.result
  response : a.response = b.response
  attributes : a.attributes = b.attributes
  calls : ∃ rest, a.calls = asked.map .directory ++ rest ∧ b.calls = askedToo.map .directory ++ rest

namespace Report.SameBeyond
variable {a b : Report} {asked askedToo : List DirectoryCall}

theorem alikeOutside (same : a.SameBeyond b asked askedToo) : a.AlikeOutside b := by
  obtain ⟨rest, calls, callsToo⟩ := same.calls
  refine ⟨same.result, same.response, same.attributes, ?_, ?_, ?_, ?_⟩
  · simp [policyLookups, calls, callsToo, Function.comp_def, Call.policy?]
  · simp [taggings, calls, callsToo, Function.comp_def, Call.tagger?]
  · simp [stageCalls, calls, callsToo, Function.comp_def, Call.stage?]
  · simp [nextCalls, calls, callsToo, Function.comp_def, Call.next?]

theorem unlogged_eq (same : a.SameBeyond b asked asked) : a.unlogged = b.unlogged := by
  obtain ⟨rest, calls, callsToo⟩ := same.calls
  simp only [unlogged, same.result, same.response, same.attributes, calls, callsToo]

end Report.SameBeyond

/-- What of a clearance gets outside: the rejection of a tenant, or the policy, if there is one. -/
def Clearance.told : Clearance → Except TenantRejection (Option Policy)
  | rejected rejection => .error rejection
  | unavailable _ => .ok none
  | granted policy => .ok (some policy)

section Told
variable {clearance : Clearance}

theorem Clearance.told_eq_error_iff {rejection : TenantRejection} :
    clearance.told = .error rejection ↔ clearance = .rejected rejection := by
  cases clearance <;> simp [told]

theorem Clearance.told_eq_none_iff :
    clearance.told = .ok none ↔ ∃ fault, clearance = .unavailable fault := by
  cases clearance <;> simp [told]

theorem Clearance.told_eq_some_iff {policy : Policy} :
    clearance.told = .ok (some policy) ↔ clearance = .granted policy := by
  cases clearance <;> simp [told]

end Told

namespace Gate

theorem told_clearance (gate : Gate) (request : Request) :
    (gate.clearance request).told =
      (gate.services.directory.check request.servedTenant).verdict.map fun _ =>
        (gate.services.policies request.servedTenant).toOption := by
  unfold clearance
  cases (gate.services.directory.check request.servedTenant).verdict with
  | error rejection => rfl
  | ok => cases gate.services.policies request.servedTenant <;> rfl

/-- The gate with another directory and another policy store behind it. -/
def backedBy (gate : Gate) (directory : Directory)
    (policies : Option String → Except PolicyFault Policy) : Gate :=
  { gate with services := { gate.services with directory, policies } }

private theorem handlingCalls_eq (gate : Gate) (policy : Policy) (request : Request) :
    gate.handlingCalls policy request =
      (gate.services.directory.questions request.servedTenant).map .directory ++
        (.policy request.servedTenant ::
          (taggerCalls (gate.kindOf request) policy ++ gate.stageCall policy request)) := by
  simp [handlingCalls, lookupCalls]

/-- Of the directory only the verdict on the tenant counts, and of a failing policy store nothing
but that it fails. -/
theorem sameBeyond_backedBy (gate : Gate) (request : Request) (response : Response) (next : Chain)
    {directory other : Directory}
    {policies others : Option String → Except PolicyFault Policy}
    (verdict : (directory.check request.servedTenant).verdict =
      (other.check request.servedTenant).verdict)
    (found : (policies request.servedTenant).toOption = (others request.servedTenant).toOption) :
    ((gate.backedBy directory policies).intercept request response next).SameBeyond
      ((gate.backedBy other others).intercept request response next)
      (directory.questions request.servedTenant) (other.questions request.servedTenant) := by
  have told : ((gate.backedBy other others).clearance request).told =
      ((gate.backedBy directory policies).clearance request).told := by
    simp only [told_clearance, backedBy, verdict, found]
  -- Both gates take the same way, since all else that they go by belongs to one gate.
  cases (gate.backedBy directory policies).way request response with
  | rejected rejection rejected =>
    rw [rejected] at told
    have again := Clearance.told_eq_error_iff.mp told
    rw [intercept_rejected rejected, intercept_rejected again]
    exact ⟨rfl, rfl, rfl, [], (List.append_nil _).symm, (List.append_nil _).symm⟩
  | dropped fault unavailable silent =>
    rw [unavailable] at told
    obtain ⟨faultToo, again⟩ := Clearance.told_eq_none_iff.mp told
    rw [intercept_dropped unavailable silent, intercept_dropped again silent]
    exact ⟨rfl, rfl, rfl, _, rfl, rfl⟩
  | unavailable fault status unavailable answer =>
    rw [unavailable] at told
    obtain ⟨faultToo, again⟩ := Clearance.told_eq_none_iff.mp told
    rw [intercept_unavailable unavailable answer, intercept_unavailable again answer]
    exact ⟨rfl, rfl, rfl, _, rfl, rfl⟩
  | refused policy refusal granted refused =>
    rw [granted] at told
    have again := Clearance.told_eq_some_iff.mp told
    rw [intercept_refused granted refused, intercept_refused again refused]
    exact ⟨rfl, rfl, rfl, _, handlingCalls_eq .., handlingCalls_eq ..⟩
  | answered policy granted accepted preflight =>
    rw [granted] at told
    have again := Clearance.told_eq_some_iff.mp told
    rw [intercept_answered granted accepted preflight, intercept_answered again accepted preflight]
    exact ⟨rfl, rfl, rfl, _, handlingCalls_eq .., handlingCalls_eq ..⟩
  | forwarded policy granted accepted through =>
    rw [granted] at told
    have again := Clearance.told_eq_some_iff.mp told
    rw [intercept_forwarded granted accepted through, intercept_forwarded again accepted through]
    refine ⟨rfl, rfl, rfl,
      .policy request.servedTenant :: (taggerCalls (gate.kindOf request) policy ++
        gate.stageCall policy request ++ [.next (gate.seen policy request).attributes]), ?_, ?_⟩
    · simp only [handlingCalls_eq, List.append_assoc, List.cons_append]
      rfl
    · simp only [handlingCalls_eq, List.append_assoc, List.cons_append]
      rfl

/-! ## Runs -/

namespace Session

/-- Two states that differ at most in why the policy store is down and in what the directory answers
to questions, as long as it comes to the same verdicts. -/
structure State.AlikeOutside (state other : State) : Prop where
  options : state.options = other.options
  store : state.store = other.store
  tagger : state.tagger = other.tagger
  stages : state.stages = other.stages
  remains : state.remains = other.remains
  outage : state.outage.isSome = other.outage.isSome
  verdict : ∀ tenant, (state.directory.check tenant).verdict = (other.directory.check tenant).verdict

/-- Two steps that differ at most in the same. -/
inductive Action.AlikeOutside : Action → Action → Prop where
  | same (action : Action) : AlikeOutside action action
  | directories {directory other : Directory}
      (verdict : ∀ tenant, (directory.check tenant).verdict = (other.check tenant).verdict) :
      AlikeOutside (.replaceDirectory directory) (.replaceDirectory other)
  | outages (cause causeToo : String) :
      AlikeOutside (.setOutage (some cause)) (.setOutage (some causeToo))

/-- Two answers that cannot be told apart outside. -/
inductive Answer.AlikeOutside : Answer → Answer → Prop where
  | reported {a b : Report} (alike : a.AlikeOutside b) : AlikeOutside (.reported a) (.reported b)
  | same (answer : Answer) : AlikeOutside answer answer

namespace State.AlikeOutside
variable {state other : State}

theorem toOption_lookupPolicy (alike : state.AlikeOutside other) (tenant : Option String) :
    (state.lookupPolicy tenant).toOption = (other.lookupPolicy tenant).toOption := by
  have outage := alike.outage
  unfold lookupPolicy
  rw [alike.store]
  cases one : state.outage <;> cases two : other.outage <;> simp_all [Except.toOption]

theorem gate_eq (alike : state.AlikeOutside other) :
    other.gate = state.gate.backedBy other.directory other.lookupPolicy := by
  simp only [State.gate, Gate.backedBy, alike.options, alike.tagger, alike.stages]

theorem visit_alike (alike : state.AlikeOutside other) (visit : Visit) :
    (state.visit visit).AlikeOutside (other.visit visit) := by
  have request : state.requestOf visit = other.requestOf visit := by
    simp only [State.requestOf, alike.remains]
  have response : state.responseOf visit = other.responseOf visit := by
    simp only [State.responseOf, alike.remains]
  rw [State.visit, State.visit, request, response, alike.gate_eq]
  exact (sameBeyond_backedBy state.gate _ _ visit.next (alike.verdict _)
    (alike.toOption_lookupPolicy _)).alikeOutside

theorem step_alike (alike : state.AlikeOutside other) {action again : Action}
    (same : action.AlikeOutside again) :
    (step state action).1.AlikeOutside (step other again).1 ∧
      (step state action).2.AlikeOutside (step other again).2 := by
  cases same with
  | directories verdict => exact ⟨.same .done, { alike with verdict }⟩
  | outages cause causeToo => exact ⟨.same .done, { alike with outage := rfl }⟩
  | same action =>
    cases action with
    | intercept visit =>
      have reports := alike.visit_alike visit
      have remains : ({ response := (state.visit visit).response
                        attributes := (state.visit visit).attributes } : Remains) =
          { response := (other.visit visit).response
            attributes := (other.visit visit).attributes } := by
        rw [reports.response, reports.attributes]
      exact ⟨.reported reports, { alike with remains }⟩
    | insertPolicy tenant policy =>
      have inserted : state.store.tryInsert tenant policy = other.store.tryInsert tenant policy := by
        rw [alike.store]
      simp only [step, inserted]
      exact ⟨.same _, { alike with store := rfl }⟩
    | replaceDirectory directory => exact ⟨.same .done, { alike with verdict := fun _ => rfl }⟩
    | setOutage outage => exact ⟨.same .done, { alike with outage := rfl }⟩
    | replaceStages stages => exact ⟨.same .done, { alike with stages := rfl }⟩
    | readOptions =>
      simp only [step, alike.options]
      exact ⟨.same _, alike⟩

theorem run_alike (alike : state.AlikeOutside other) {actions again : List Action}
    (same : List.Forall₂ Action.AlikeOutside actions again) :
    List.Forall₂ Answer.AlikeOutside (run state actions) (run other again) := by
  induction same generalizing state other with
  | nil => exact .nil
  | cons first rest ih =>
    obtain ⟨answers, states⟩ := alike.step_alike first
    exact .cons answers (ih states)

end State.AlikeOutside
end Session

/-- What the policy store and the directory say when they fail stays inside. The policy store's
words reach nothing but the log. Two directories that reject a tenant in the same class are alike
outside, whatever the words and whichever question failed: a tenant that is switched off, one that
the user store fails on and one that is called unknown are all the same, and so are any two of the
other failures. In a whole run, too, all of this may be exchanged without any difference outside. -/
theorem failures_inside_are_not_told (gate : Gate) (request : Request) (response : Response)
    (next : Chain) :
    (∀ directory policies others fault faultToo,
      policies request.servedTenant = .error fault →
      others request.servedTenant = .error faultToo →
      ((gate.backedBy directory policies).intercept request response next).unlogged =
        ((gate.backedBy directory others).intercept request response next).unlogged) ∧
    (∀ directory other policies rejection rejectionToo,
      (directory.check request.servedTenant).verdict = .error rejection →
      (other.check request.servedTenant).verdict = .error rejectionToo →
      rejection.status = rejectionToo.status →
      ((gate.backedBy directory policies).intercept request response next).AlikeOutside
        ((gate.backedBy other policies).intercept request response next)) ∧
    (∀ directory other policies domain, request.tenant = some domain → domain ≠ "" →
      directory.Lacks domain → other.Lacks domain →
      ((gate.backedBy directory policies).intercept request response next).AlikeOutside
        ((gate.backedBy other policies).intercept request response next)) ∧
    (∀ directory other policies domain fault faultToo, request.tenant = some domain → domain ≠ "" →
      directory.FailsAt domain fault → ¬fault.MeansUnknown →
      other.FailsAt domain faultToo → ¬faultToo.MeansUnknown →
      ((gate.backedBy directory policies).intercept request response next).AlikeOutside
        ((gate.backedBy other policies).intercept request response next)) ∧
    (∀ (state other : Session.State) actions again, state.AlikeOutside other →
      List.Forall₂ Session.Action.AlikeOutside actions again →
      List.Forall₂ Session.Answer.AlikeOutside (Session.run state actions)
        (Session.run other again)) := by
  have alike : ∀ directory other policies,
      (directory.check request.servedTenant).verdict =
        (other.check request.servedTenant).verdict →
      ((gate.backedBy directory policies).intercept request response next).AlikeOutside
        ((gate.backedBy other policies).intercept request response next) := by
    intro directory other policies verdict
    exact (gate.sameBeyond_backedBy request response next verdict rfl).alikeOutside
  refine ⟨?_, ?_, ?_, ?_, ?_⟩
  · intro directory policies others fault faultToo failed failedToo
    refine (gate.sameBeyond_backedBy request response next rfl ?_).unlogged_eq
    rw [failed, failedToo]
    rfl
  · intro directory other policies rejection rejectionToo rejected rejectedToo status
    have domain := (Directory.domain_of_verdict rejected).symm.trans
      (Directory.domain_of_verdict rejectedToo)
    have same := TenantRejection.eq_of_status_eq (Option.some.inj domain) status
    exact alike directory other policies (by rw [rejected, rejectedToo, same])
  · intro directory other policies domain tenant named lacks lacksToo
    have served := Request.servedTenant_eq_some_iff.mpr ⟨tenant, named⟩
    refine alike directory other policies ?_
    rw [served, Directory.verdict_of_lacks named lacks, Directory.verdict_of_lacks named lacksToo]
  · intro directory other policies domain fault faultToo tenant named failed known failedToo knownToo
    have served := Request.servedTenant_eq_some_iff.mpr ⟨tenant, named⟩
    refine alike directory other policies ?_
    rw [served, Directory.verdict_of_failsAt named failed,
      Directory.verdict_of_failsAt named failedToo,
      DirectoryFault.rejection_of_not_meansUnknown known,
      DirectoryFault.rejection_of_not_meansUnknown knownToo]
  · intro state other actions again states same
    exact states.run_alike same

/-- A domain on no list and one whose tenant the user store fails on are alike outside, and so are
two outages of the policy store. -/
theorem failures_inside_are_not_told_at_plainGate :
    let request : Request := { method := Method.get, tenant := some "a.example" }
    let next := Chain.ofEdits [] none
    let failing : Registration :=
      { domain := "a.example", id := .ok 7, active := .error (.userStore "realm not loaded") }
    ((plainGate.backedBy (.ofRegistrations []) plainGate.services.policies).intercept request ∅
        next).AlikeOutside
      ((plainGate.backedBy (.ofRegistrations [failing]) plainGate.services.policies).intercept
        request ∅ next) ∧
    ((plainGate.backedBy plainGate.services.directory fun _ => .error { cause := "" }).intercept
        request ∅ next).unlogged =
      ((plainGate.backedBy plainGate.services.directory
        fun _ => .error { cause := "timeout" }).intercept request ∅ next).unlogged := by
  intro request next failing
  have lacks : (Directory.ofRegistrations []).Lacks "a.example" :=
    Directory.lacks_of_unregistered (by simp)
  have fails : (Directory.ofRegistrations [failing]).FailsAt "a.example"
      (.userStore "realm not loaded") := .activity rfl rfl
  obtain ⟨outages, -, lacking, -, -⟩ := failures_inside_are_not_told plainGate request ∅ next
  exact ⟨lacking _ _ _ "a.example" rfl (by decide) lacks (.unknown fails trivial),
    outages _ _ _ _ _ rfl rfl⟩

end Gate
end OriginGate
