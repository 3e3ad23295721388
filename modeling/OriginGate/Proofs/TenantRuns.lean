import OriginGate.Proofs.EditRuns
import OriginGate.Proofs.Runs
import OriginGate.Proofs.TenantVerdicts
import OriginGate.Tenant.Session

/-! Runs of tenant checks. A verdict goes by the domain asked for and by the directory in force, which
is the one put in place last. A check writes nothing, so that what a run leaves in the response is
what its edits wrote, and the rejections of the tenants that it screened. -/
namespace OriginGate.Tenant.Session

theorem run_eq_answers (state : State) (actions : List Action) :
    run state actions = Run.answers step state actions :=
  Run.eq_answers (fun _ => rfl) (fun _ _ _ => rfl) state actions

/-- The answer that a run gives to a step between other steps. -/
def answerAt (state : State) (before : List Action) (action : Action) (rest : List Action) :
    Option Answer :=
  (run state (before ++ action :: rest))[before.length]?

theorem answerAt_eq (state : State) (before rest : List Action) (action : Action) :
    answerAt state before action rest = some (step (Run.after step state before) action).1 := by
  rw [answerAt, run_eq_answers]
  exact Run.answers_at state before rest action

/-! ## What a run goes on with -/

/-- The directory that a step puts in place, if it puts one. -/
def Action.directory? : Action → Option Directory
  | .replaceDirectory directory => some directory
  | _ => none

/-- The directory in force after a list of steps: the one put in place last. -/
def inForceAfter (directory : Directory) (actions : List Action) : Directory :=
  (actions.filterMap Action.directory?).getLast?.getD directory

/-- What a step writes into the response: an edit writes itself, a screening the rejection that comes
of it, if one does, and a check nothing. -/
def Action.edits (directory : Directory) : Action → List Edit
  | .edit change => [change]
  | .screen tenant =>
    match (directory.check tenant).verdict with
    | .ok () => []
    | .error rejection => [.rejectTenant rejection]
  | .check _ | .replaceDirectory _ => []

/-- What a list of steps writes into the response, in order, each step under the directory then in
force. -/
def editsOf (directory : Directory) : List Action → List Edit
  | [] => []
  | action :: later =>
    action.edits directory ++ editsOf (action.directory?.getD directory) later

theorem directory_step (state : State) (action : Action) :
    (step state action).2.directory = action.directory?.getD state.directory := by
  cases action <;> rfl

theorem response_step (state : State) (action : Action) :
    (step state action).2.response = state.response.applyAll (action.edits state.directory) := by
  cases action with
  | screen tenant =>
    simp only [step, Check.screen, Action.edits]
    cases (state.directory.check tenant).verdict <;> rfl
  | _ => rfl

theorem directory_after (state : State) (actions : List Action) :
    (Run.after step state actions).directory = inForceAfter state.directory actions := by
  induction actions generalizing state with
  | nil => rfl
  | cons action later ih =>
    rw [Run.after, List.foldl_cons, ← Run.after, ih, directory_step, inForceAfter, inForceAfter,
      Run.getLast?_filterMap_cons, Option.getD_or]

theorem response_after (state : State) (actions : List Action) :
    (Run.after step state actions).response =
      state.response.applyAll (editsOf state.directory actions) := by
  induction actions generalizing state with
  | nil => rfl
  | cons action later ih =>
    rw [Run.after, List.foldl_cons, ← Run.after, ih, response_step, directory_step, editsOf,
      Response.applyAll_append]

/-! ## Checks in a run -/

/-- A check is answered with the verdict of the directory in force and with the response as it was. -/
theorem answerAt_check (state : State) (before rest : List Action) (tenant : Option String) :
    answerAt state before (.check tenant) rest =
      some
        { finding := .checked ((inForceAfter state.directory before).check tenant).verdict
          response := state.response.applyAll (editsOf state.directory before)
          calls := ((inForceAfter state.directory before).check tenant).calls
          events := ((inForceAfter state.directory before).check tenant).events } := by
  rw [answerAt_eq, step, directory_after, response_after]

/-- A screening is answered with the same verdict, and with the response as the verdict has it. -/
theorem answerAt_screen (state : State) (before rest : List Action) (tenant : Option String) :
    answerAt state before (.screen tenant) rest =
      some
        { finding := .screened ((inForceAfter state.directory before).check tenant).verdict
          response := ((inForceAfter state.directory before).check tenant).screen
            (state.response.applyAll (editsOf state.directory before))
          calls := ((inForceAfter state.directory before).check tenant).calls
          events := ((inForceAfter state.directory before).check tenant).events } := by
  rw [answerAt_eq, step, directory_after, response_after]

theorem screen_of_ok {check : Check} (passed : check.verdict = .ok ()) (response : Response) :
    check.screen response = response := by
  rw [Check.screen, passed]

theorem screen_of_error {check : Check} {rejection : TenantRejection}
    (rejected : check.verdict = .error rejection) (response : Response) :
    check.screen response = response.rejectTenant rejection := by
  rw [Check.screen, rejected]

/-- A check passes if no domain is asked for, or an empty one, or one with a number whose tenant is
active. A failing question decides the verdict by its failure and is the last one put, a tenant that
is switched off is inactive, and a rejection names the domain asked for. In a run the verdict is
that of the directory in force, whatever was written into the response. A check leaves the response
as it was, so that it may be taken out of the run; a screening that passes does so too, and one that
does not writes the rejection of its verdict. -/
theorem verdicts_go_by_directory_in_force :
    (∀ (directory : Directory) (tenant : Option String),
      let check := directory.check tenant
      (check.verdict = .ok () ↔ tenant = none ∨ tenant = some "" ∨
        ∃ domain id, tenant = some domain ∧ directory.tenantId domain = .ok id ∧
          directory.isActive id = .ok true) ∧
      (∀ rejection, check.verdict = .error rejection → tenant = some rejection.domain) ∧
      (tenant = none ∨ tenant = some "" → check.calls = []) ∧
      ∀ domain, tenant = some domain → domain ≠ "" →
        (∀ fault, directory.tenantId domain = .error fault →
          check.verdict = .error (fault.rejection domain) ∧ check.calls = [.tenantId domain]) ∧
        ∀ id, directory.tenantId domain = .ok id →
          check.calls = [.tenantId domain, .isActive id] ∧
          (∀ fault, directory.isActive id = .error fault →
            check.verdict = .error (fault.rejection domain)) ∧
          (directory.isActive id = .ok false → check.verdict = .error (.inactive domain))) ∧
    ∀ (state : State) (before rest : List Action) (tenant : Option String),
      let check := (inForceAfter state.directory before).check tenant
      let left := state.response.applyAll (editsOf state.directory before)
      (∃ answer, answerAt state before (.check tenant) rest = some answer ∧
        answer.finding = .checked check.verdict ∧ answer.calls = check.calls ∧
        answer.response = left) ∧
      (∃ answer, answerAt state before (.screen tenant) rest = some answer ∧
        answer.finding = .screened check.verdict ∧ answer.calls = check.calls ∧
        (check.verdict = .ok () → answer.response = left) ∧
        ∀ rejection, check.verdict = .error rejection →
          answer.response = left.rejectTenant rejection) ∧
      (run state (before ++ .check tenant :: rest)).eraseIdx before.length =
        run state (before ++ rest) := by
  constructor
  · intro directory tenant
    dsimp only
    refine ⟨Directory.check_verdict_eq_ok_iff, fun rejection => Directory.domain_of_verdict, ?_, ?_⟩
    · rintro (rfl | rfl) <;> rfl
    · rintro domain rfl named
      constructor
      · intro fault failed
        exact ⟨Directory.verdict_of_failsAt named (.number failed),
          Directory.calls_of_unnumbered named failed⟩
      · intro id found
        refine ⟨Directory.calls_of_numbered named found, ?_, ?_⟩
        · exact fun fault failed => Directory.verdict_of_failsAt named (.activity found failed)
        · exact fun inactive => Directory.verdict_of_lacks named (.disabled found inactive)
  · intro state before rest tenant
    dsimp only
    refine ⟨⟨_, answerAt_check state before rest tenant, rfl, rfl, rfl⟩,
      ⟨_, answerAt_screen state before rest tenant, rfl, rfl, fun passed => screen_of_ok passed _,
        fun rejection rejected => screen_of_error rejected _⟩, ?_⟩
    rw [run_eq_answers, run_eq_answers]
    exact Run.answers_eraseIdx rfl rest

/-- A directory that knows one tenant. -/
def oneKnown : Directory where
  tenantId := fun domain => if domain = "a.example" then .ok 7 else .error (.runtime "no such realm")
  isActive := fun id => .ok (id = 7)

/-- A directory that fails at every question. -/
def noneKnown : Directory where
  tenantId := fun _ => .error (.userStore "realm not loaded")
  isActive := fun _ => .error (.userStore "realm not loaded")

/-- A tenant that was rejected passes once a directory that knows it is put in place, and the response
keeps the rejection. -/
theorem verdicts_go_by_directory_in_force_once_replaced :
    let state : State := { directory := noneKnown }
    let before : List Action := [.screen (some "a.example"), .replaceDirectory oneKnown]
    (noneKnown.check (some "a.example")).verdict = .error (.inactive "a.example") ∧
    ∃ answer, answerAt state before (.screen (some "a.example")) [] = some answer ∧
      answer.finding = .screened (.ok ()) ∧
      answer.response = (∅ : Response).rejectTenant (.inactive "a.example") := by
  intro state before
  obtain ⟨checks, runs⟩ := verdicts_go_by_directory_in_force
  obtain ⟨-, -, -, failing⟩ := checks noneKnown (some "a.example")
  obtain ⟨-, ⟨answer, answered, finding, -, left, -⟩, -⟩ := runs state before [] (some "a.example")
  have passed : (oneKnown.check (some "a.example")).verdict = .ok () :=
    (checks oneKnown (some "a.example")).1.mpr (.inr (.inr ⟨"a.example", 7, rfl, rfl, rfl⟩))
  have rejected := ((failing "a.example" rfl (by decide)).1 _ rfl).1
  exact ⟨rejected, answer, answered, finding.trans (congrArg Finding.screened passed), left passed⟩

end OriginGate.Tenant.Session
