import OriginGate.Proofs.PolicyIsolation

/-! Visits leave no trace in a run but what the latest one leaves for the next. Without its visits a
run comes to the same state, what was left apart, so that no other step is answered differently for
the visits before it, and a visit that takes nothing over is answered as if it were the first. -/
namespace OriginGate.Gate.Session
variable {state other : State}

/-! ## Runs without visits -/

/-- A step takes a request through the gate. -/
def Action.isVisit : Action → Bool
  | .intercept _ => true
  | _ => false

/-- The steps of a run that are no visits, in order. Two runs agree in these if one comes from the
other by taking visits out, by repeating them or by exchanging them. -/
def withoutVisits (actions : List Action) : List Action :=
  actions.filter fun action => !action.isVisit

/-- A state but for what the latest request left. -/
def State.cleared (state : State) : State :=
  { state with remains := {} }

theorem State.cleared_step_visit (state : State) (visit : Visit) :
    (step state (.intercept visit)).2.cleared = state.cleared :=
  rfl

/-- A step that is no visit goes by nothing that a request left. -/
theorem State.step_cleared {action : Action} (setting : action.isVisit = false) (state : State) :
    step state.cleared action = ((step state action).1, (step state action).2.cleared) := by
  cases action with
  | intercept visit => cases setting
  | _ => rfl

theorem State.cleared_after (state : State) (actions : List Action) :
    (state.after actions).cleared = state.cleared.after (withoutVisits actions) := by
  induction actions generalizing state with
  | nil => rfl
  | cons action actions ih =>
    rw [State.after_cons, ih]
    cases visits : action.isVisit with
    | true =>
      have dropped : withoutVisits (action :: actions) = withoutVisits actions := by
        simp [withoutVisits, visits]
      -- Of the state after a visit only what it left is another, and that is cleared.
      cases action with
      | intercept visit => rw [dropped, cleared_step_visit]
      | _ => cases visits
    | false =>
      have kept : withoutVisits (action :: actions) = action :: withoutVisits actions := by
        simp [withoutVisits, visits]
      rw [kept, State.after_cons, step_cleared visits]

theorem withoutVisits_idem (actions : List Action) :
    withoutVisits (withoutVisits actions) = withoutVisits actions := by
  simp [withoutVisits]

/-- Runs that agree in all steps but visits come to the same state, what was left apart. -/
theorem State.cleared_after_eq {before again : List Action} (state : State)
    (same : withoutVisits before = withoutVisits again) :
    (state.after before).cleared = (state.after again).cleared := by
  rw [cleared_after, cleared_after, same]

/-! ## What a visit leaves -/

/-- What a request leaves for the next. -/
def Remains.ofReport (report : Report) : Remains :=
  { response := report.response, attributes := report.attributes }

/-- The report in an answer, if it is the answer to a visit. -/
def Answer.report? : Answer → Option Report
  | .reported report => some report
  | _ => none

/-- What the last visit of a run left, told from the answers. Without a visit it is what was there
before. -/
def leftBy (state : State) (actions : List Action) : Remains :=
  ((run state actions).filterMap Answer.report?).getLast?.elim state.remains Remains.ofReport

theorem leftBy_cons (state : State) (action : Action) (actions : List Action) :
    leftBy state (action :: actions) = leftBy (step state action).2 actions := by
  rw [leftBy, run, Run.getLast?_filterMap_cons, leftBy]
  cases ((run (step state action).2 actions).filterMap Answer.report?).getLast? with
  | some report => rfl
  | none => cases action <;> rfl

/-- A run carries on what its last visit left. -/
theorem State.remains_after (state : State) (actions : List Action) :
    (state.after actions).remains = leftBy state actions := by
  induction actions generalizing state with
  | nil => rfl
  | cons action actions ih => rw [State.after_cons, ih, leftBy_cons]

/-- As far as a visit goes on with what was left, the same was left. -/
structure Visit.GoesOnAlike (visit : Visit) (left leftToo : Remains) : Prop where
  response : visit.keepResponse = true → left.response = leftToo.response
  attributes : visit.keepAttributes = true → left.attributes = leftToo.attributes

theorem Visit.IsFresh.goesOnAlike {visit : Visit} (fresh : visit.IsFresh)
    (left leftToo : Remains) : visit.GoesOnAlike left leftToo where
  response kept := absurd (fresh.1.symm.trans kept) nofun
  attributes kept := absurd (fresh.2.symm.trans kept) nofun

/-- States that differ in nothing but what was left report on a visit alike if it goes on alike. -/
theorem State.visit_eq_of_cleared {visit : Visit} (same : state.cleared = other.cleared)
    (alike : visit.GoesOnAlike state.remains other.remains) :
    state.visit visit = other.visit visit := by
  have shared := congrArg State.gate same
  have gates : state.gate = other.gate := shared
  have requests : state.requestOf visit = other.requestOf visit := by
    unfold requestOf
    split
    · rename_i kept
      rw [alike.attributes kept]
    · rfl
  have responses : state.responseOf visit = other.responseOf visit := by
    unfold responseOf
    split
    · rename_i kept
      rw [alike.response kept]
    · rfl
  rw [State.visit, State.visit, gates, requests, responses]

/-! ## Options -/

/-- No step changes the options of the gate. -/
theorem State.options_after (state : State) (actions : List Action) :
    (state.after actions).options = state.options := by
  induction actions generalizing state with
  | nil => rfl
  | cons action actions ih =>
    rw [State.after_cons, ih]
    cases action <;> rfl

theorem State.options_of_start {setup : Setup} (started : start setup = .ok state) :
    state.options = setup.options := by
  obtain ⟨-, -, accepted, rfl⟩ := start_eq_ok_iff.mp started
  exact State.options_after _ _

/-- Every step of a run is answered, and visits leave no trace in the answers. A step that is no
visit has the same answer whichever visits came before it, and how often, and in which order; a
visit that takes nothing over has the answer that it would have after the other steps alone. What a
visit that goes on has to do with earlier visits is what the last of them left: where that is the
same, as far as it goes on with it, the answer is the same. The options are those that the run
started with, for the gate and for whoever asks. -/
theorem visits_leave_no_trace (state : State) :
    (∀ before action rest, ∃ answer, answerAt state before action rest = some answer) ∧
    (∀ before again action rest later, action.isVisit = false →
      withoutVisits before = withoutVisits again →
      answerAt state before action rest = answerAt state again action later) ∧
    (∀ before visit rest, visit.IsFresh →
      answerAt state before (.intercept visit) rest =
        answerAt state (withoutVisits before) (.intercept visit) []) ∧
    (∀ before again visit rest later, withoutVisits before = withoutVisits again →
      visit.GoesOnAlike (leftBy state before) (leftBy state again) →
      answerAt state before (.intercept visit) rest =
        answerAt state again (.intercept visit) later) ∧
    (∀ setup, start setup = .ok state → ∀ before rest,
      (state.after before).gate.options = setup.options ∧
        answerAt state before .readOptions rest = some (.options setup.options)) := by
  have visits : ∀ before again visit rest later, withoutVisits before = withoutVisits again →
      visit.GoesOnAlike (leftBy state before) (leftBy state again) →
      answerAt state before (.intercept visit) rest =
        answerAt state again (.intercept visit) later := by
    intro before again visit rest later same alike
    rw [← State.remains_after, ← State.remains_after] at alike
    have reports := State.visit_eq_of_cleared (state.cleared_after_eq same) alike
    rw [answerAt_eq, answerAt_eq, step, step, reports]
  refine ⟨?_, ?_, ?_, visits, ?_⟩
  · exact fun before action rest => ⟨_, answerAt_eq state before rest action⟩
  · intro before again action rest later setting same
    have answers := congrArg (fun state => (step state action).1) (state.cleared_after_eq same)
    simp only [State.step_cleared setting] at answers
    rw [answerAt_eq, answerAt_eq, answers]
  · intro before visit rest fresh
    exact visits before _ visit rest [] (withoutVisits_idem before).symm (fresh.goesOnAlike _ _)
  · intro setup started before rest
    have options := (state.options_after before).trans (State.options_of_start started)
    rw [answerAt_eq, step, options]
    exact ⟨options, rfl⟩

/-- Whether visits came before or not, an insertion is answered alike, a visit that takes nothing
over is too, and one that goes on with everything goes on with the visit right before it. -/
theorem visits_leave_no_trace_for_oneTenant :
    ∃ state, start oneTenant = .ok state ∧
      answerAt state [.intercept (visitOf "b")] (.insertPolicy "b" { maxAge := -2 }) [] =
        answerAt state [] (.insertPolicy "b" { maxAge := -2 }) [] ∧
      answerAt state [.intercept (visitOf "b"), .insertPolicy "b" {}] (.intercept (visitOf "b")) [] =
        answerAt state [.insertPolicy "b" {}] (.intercept (visitOf "b")) [] ∧
      answerAt state [.intercept (visitOf "a"), .intercept (visitOf "b")]
          (.intercept { visitOf "b" with keepResponse := true, keepAttributes := true }) [] =
        answerAt state [.intercept (visitOf "b")]
          (.intercept { visitOf "b" with keepResponse := true, keepAttributes := true }) [] ∧
      answerAt state [.intercept (visitOf "b")] .readOptions [] = some (.options {}) := by
  have started : start oneTenant = .ok _ :=
    start_eq_ok_iff.mpr ⟨by decide, by decide, rfl, rfl⟩
  obtain ⟨-, settings, fresh, reusing, options⟩ := visits_leave_no_trace _
  refine ⟨_, started, settings _ _ _ _ _ rfl rfl, fresh _ _ _ ⟨rfl, rfl⟩,
    reusing _ _ _ _ _ rfl ⟨fun _ => rfl, fun _ => rfl⟩, (options oneTenant started _ _).2⟩

end OriginGate.Gate.Session
