import OriginGate.Gate.Session
import OriginGate.Proofs.Runs
import OriginGate.Table.Lemmas

/-! Runs of a gate, taken apart. A run answers each of its steps from the state that the steps
before it left, so the answer of a step is the same whatever comes after it. A run starts exactly
if every policy and the options are valid, and then from what its setup says. -/
namespace OriginGate

/-- A list of insertions goes in as a whole exactly if each of its policies is valid. -/
theorem PolicyStore.insertAll_eq_ok_iff {store changed : PolicyStore}
    {items : List (String × Policy)} :
    store.insertAll items = .ok changed ↔
      (∀ item ∈ items, item.2.Valid) ∧
        changed = { store with own := store.own.insertAll items } := by
  induction items generalizing store with
  | nil => simp [insertAll, eq_comm]
  | cons item items ih =>
    obtain ⟨tenant, policy⟩ := item
    rw [insertAll]
    cases inserted : store.insert tenant policy with
    | ok next =>
      obtain ⟨valid, rfl⟩ := insert_eq_ok_iff.mp inserted
      simp [ih, valid]
    | error fault =>
      have refused : ¬policy.Valid := by
        intro valid
        rw [insert_eq_ok_iff.mpr ⟨valid, rfl⟩] at inserted
        cases inserted
      simp [refused]

/-- Only a valid policy changes what is found, and only for the tenant it was given to. -/
theorem PolicyStore.lookup_tryInsert (store : PolicyStore) (tenant : String) (policy : Policy)
    (probe : Option String) :
    (store.tryInsert tenant policy).1.lookup probe =
      if policy.Valid ∧ probe = some tenant then policy else store.lookup probe := by
  by_cases valid : policy.Valid
  · rw [tryInsert_of_valid store tenant valid]
    cases probe with
    | none => simp [lookup]
    | some name =>
      by_cases same : name = tenant <;> simp [lookup, Table.get?_insert, valid, same]
  · simp [tryInsert_of_not_valid store tenant valid, valid]

namespace Gate.Session

/-- What a run carries on after a list of steps. -/
def State.after (state : State) (actions : List Action) : State :=
  actions.foldl (fun state action => (step state action).2) state

@[simp] theorem State.after_cons (state : State) (action : Action) (actions : List Action) :
    state.after (action :: actions) = (step state action).2.after actions := rfl

theorem State.after_append (state : State) (first second : List Action) :
    state.after (first ++ second) = (state.after first).after second :=
  List.foldl_append

theorem run_eq_answers (state : State) (actions : List Action) :
    run state actions = Run.answers step state actions :=
  Run.eq_answers (fun _ => rfl) (fun _ _ _ => rfl) state actions

/-! ## Answers one by one -/

/-- The answer that a run gives to a step between other steps. -/
def answerAt (state : State) (before : List Action) (action : Action) (rest : List Action) :
    Option Answer :=
  (run state (before ++ action :: rest))[before.length]?

/-- A step is answered from the state that the steps before it left. -/
theorem answerAt_eq (state : State) (before rest : List Action) (action : Action) :
    answerAt state before action rest = some (step (state.after before) action).1 := by
  rw [answerAt, run_eq_answers]
  exact Run.answers_at state before rest action

/-- The answer that a run gives to a visit between other steps. -/
def answerTo (state : State) (before : List Action) (visit : Visit) (rest : List Action) :
    Option Answer :=
  (run state (before ++ .intercept visit :: rest))[before.length]?

/-- The answer to a visit is the report of the gate as the steps before the visit left it. -/
theorem answerTo_eq (state : State) (before rest : List Action) (visit : Visit) :
    answerTo state before visit rest = some (.reported ((state.after before).visit visit)) :=
  answerAt_eq state before rest (.intercept visit)

theorem State.servedTenant_requestOf (state : State) (visit : Visit) :
    (state.requestOf visit).servedTenant = visit.request.servedTenant := by
  unfold State.requestOf
  split <;> rfl

section Selected
variable (select : Visit → Prop) [DecidablePred select]

/-- The answer of a step, if it is a visit of those selected. -/
def selected : Action × Answer → Option Answer
  | (.intercept visit, answer) => if select visit then some answer else none
  | _ => none

/-- The answers that a run gives to the visits selected, in order. -/
def answersTo (state : State) (actions : List Action) : List Answer :=
  (actions.zip (run state actions)).filterMap (selected select)

theorem answersTo_cons (state : State) (action : Action) (actions : List Action) :
    answersTo select state (action :: actions) =
      (selected select (action, (step state action).1)).toList ++
        answersTo select (step state action).2 actions := by
  rw [answersTo, run, List.zip_cons_cons, List.filterMap_cons, answersTo]
  cases selected select (action, (step state action).1) <;> rfl

end Selected

/-! ## The start of a run -/

/-- Insertions of policies as steps of a run. -/
def insertions (items : List (String × Policy)) : List Action :=
  items.map fun item => .insertPolicy item.1 item.2

/-- Valid policies go in one step each as they go in all at once. -/
theorem State.after_insertions (state : State) {items : List (String × Policy)}
    (valid : ∀ item ∈ items, item.2.Valid) :
    state.after (insertions items) =
      { state with store := { state.store with own := state.store.own.insertAll items } } := by
  induction items generalizing state with
  | nil => rfl
  | cons item items ih =>
    obtain ⟨first, others⟩ := List.forall_mem_cons.mp valid
    have entered : (step state (.insertPolicy item.1 item.2)).2 =
        { state with
          store := { state.store with own := state.store.own.insert item.1 item.2 } } := by
      simp [step, PolicyStore.tryInsert_of_valid _ _ first]
    rw [insertions, List.map_cons, State.after_cons, entered]
    exact ih _ others

/-- Insertions are no visits, so that they have no part in the answers to visits. -/
theorem answersTo_insertions_append (select : Visit → Prop) [DecidablePred select] (state : State)
    (items : List (String × Policy)) (actions : List Action) :
    answersTo select state (insertions items ++ actions) =
      answersTo select (state.after (insertions items)) actions := by
  induction items generalizing state with
  | nil => rfl
  | cons item items ih =>
    rw [insertions, List.map_cons, List.cons_append, answersTo_cons, State.after_cons]
    exact ih _

/-- What a run carries while no tenant has a policy of its own. -/
def Setup.opened (setup : Setup) (accepted : setup.options.fault? = none) : State where
  options := setup.options
  accepted
  store := { fallback := setup.fallback }
  directory := setup.directory
  outage := setup.outage
  tagger := setup.tagger
  stages := setup.stages

private theorem store_eq_ok_iff {setup : Setup} {store : PolicyStore} :
    (PolicyStore.ofFallback setup.fallback).bind (·.insertAll setup.policies) = .ok store ↔
      setup.fallback.Valid ∧ (∀ item ∈ setup.policies, item.2.Valid) ∧
        store = { fallback := setup.fallback, own := .ofList setup.policies } := by
  cases opened : PolicyStore.ofFallback setup.fallback with
  | error fault =>
    have refused : ¬setup.fallback.Valid := by
      intro valid
      rw [PolicyStore.ofFallback_eq_ok_iff.mpr ⟨valid, rfl⟩] at opened
      cases opened
    simp [Except.bind, refused]
  | ok fresh =>
    obtain ⟨valid, rfl⟩ := PolicyStore.ofFallback_eq_ok_iff.mp opened
    simp [Except.bind, PolicyStore.insertAll_eq_ok_iff, valid, Table.ofList]

/-- A run starts exactly from a valid fallback, valid policies and valid options, and the policies
of tenants are as if inserted by its first steps. -/
theorem start_eq_ok_iff {setup : Setup} {state : State} :
    start setup = .ok state ↔
      setup.fallback.Valid ∧ (∀ item ∈ setup.policies, item.2.Valid) ∧
        ∃ accepted, state = (setup.opened accepted).after (insertions setup.policies) := by
  constructor
  · intro started
    unfold start at started
    split at started
    · cases started
    · rename_i store filled
      obtain ⟨fallback, policies, rfl⟩ := store_eq_ok_iff.mp filled
      split at started
      · cases started
      · rename_i accepted
        refine ⟨fallback, policies, accepted, ?_⟩
        rw [State.after_insertions _ policies]
        exact (Except.ok.inj started).symm
  · rintro ⟨fallback, policies, accepted, rfl⟩
    have filled := store_eq_ok_iff.mpr ⟨fallback, policies, rfl⟩
    rw [State.after_insertions _ policies]
    unfold start
    rw [filled]
    dsimp only
    split
    · rename_i fault refused
      rw [accepted] at refused
      cases refused
    · rfl

end Gate.Session
end OriginGate
