/-! Runs of a machine that answers each of its steps and goes on with what the step left. The answer
to a step goes by what the steps before it left, so it is the same whatever comes after. -/
namespace OriginGate.Run
variable {σ α β : Type} {step : σ → α → β × σ}

/-- The answers of a run, one for each step. -/
def answers (step : σ → α → β × σ) (state : σ) : List α → List β
  | [] => []
  | action :: actions => (step state action).1 :: answers step (step state action).2 actions

/-- A function that answers a run step by step gives the answers of the run. -/
theorem eq_answers {run : σ → List α → List β} (nil : ∀ state, run state [] = [])
    (cons : ∀ state action actions,
      run state (action :: actions) = (step state action).1 :: run (step state action).2 actions)
    (state : σ) (actions : List α) : run state actions = answers step state actions := by
  induction actions generalizing state with
  | nil => exact nil state
  | cons action actions ih => rw [cons, ih, answers]

/-- What a machine goes on with after a list of steps. -/
def after (step : σ → α → β × σ) (state : σ) (actions : List α) : σ :=
  actions.foldl (fun state action => (step state action).2) state

theorem answers_append (state : σ) (first second : List α) :
    answers step state (first ++ second) =
      answers step state first ++ answers step (after step state first) second := by
  induction first generalizing state with
  | nil => rfl
  | cons action first ih => exact congrArg ((step state action).1 :: ·) (ih _)

theorem length_answers (state : σ) (actions : List α) :
    (answers step state actions).length = actions.length := by
  induction actions generalizing state with
  | nil => rfl
  | cons action actions ih => exact congrArg (· + 1) (ih _)

/-- A step is answered from what the steps before it left. -/
theorem answers_at (state : σ) (before rest : List α) (action : α) :
    (answers step state (before ++ action :: rest))[before.length]? =
      some (step (after step state before) action).1 := by
  have reached : (answers step state before).length = before.length := length_answers state before
  rw [answers_append, List.getElem?_append_right (Nat.le_of_eq reached), reached, Nat.sub_self]
  rfl

/-- A step that leaves everything as it was may be taken out of a run, and but for its own answer the
run is answered as before. -/
theorem answers_eraseIdx {state : σ} {before : List α} {action : α}
    (idle : (step (after step state before) action).2 = after step state before) (rest : List α) :
    (answers step state (before ++ action :: rest)).eraseIdx before.length =
      answers step state (before ++ rest) := by
  have reached : (answers step state before).length = before.length := length_answers state before
  rw [answers_append, List.eraseIdx_append_of_length_le (Nat.le_of_eq reached), reached,
    Nat.sub_self, answers, List.eraseIdx_cons_zero, idle, ← answers_append]

/-- What the last of a list has set, if any of them has set something: the last of those behind the
first, else the first. -/
theorem getLast?_filterMap_cons {γ : Type} (set? : α → Option γ) (first : α) (later : List α) :
    ((first :: later).filterMap set?).getLast? = (later.filterMap set?).getLast?.or (set? first) := by
  rw [List.getLast?_filterMap, List.getLast?_filterMap, List.reverse_cons, List.findSome?_append,
    List.findSome?_singleton]

end OriginGate.Run
