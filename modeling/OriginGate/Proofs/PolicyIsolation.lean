import Mathlib.Data.List.Forall2
import OriginGate.Proofs.Clearance
import OriginGate.Proofs.SessionRuns

/-! One tenant's policies are no concern of another's. Two runs that differ in the policies given to
one tenant have their states drift apart, yet the states stay alike in what the other tenants are
told, and a report depends on nothing else. -/
namespace OriginGate

/-- Two directories agree on a domain if they have the same number for it and the same to say of the
tenant with this number. -/
structure Directory.AgreesOn (domain : String) (directory other : Directory) : Prop where
  tenantId : directory.tenantId domain = other.tenantId domain
  isActive : ∀ id, directory.tenantId domain = .ok id → directory.isActive id = other.isActive id

theorem Directory.AgreesOn.standing_eq {domain : String} {directory other : Directory}
    (agree : directory.AgreesOn domain other) :
    directory.standing domain = other.standing domain := by
  cases number : directory.tenantId domain with
  | error fault =>
    have same := agree.tenantId.symm.trans number
    simp only [standing, number, same]
  | ok id =>
    have same := agree.tenantId.symm.trans number
    have activity := agree.isActive id number
    simp only [standing, number, same, activity]

theorem Directory.AgreesOn.check_eq {domain : String} {directory other : Directory}
    (agree : directory.AgreesOn domain other) (tenant : Option String)
    (asked : tenant = none ∨ tenant = some domain) :
    directory.check tenant = other.check tenant := by
  rcases asked with rfl | rfl
  · rfl
  · by_cases named : domain = ""
    · simp [named]
    · rw [check_some directory named, check_some other named, agree.standing_eq]

namespace Gate.Session
variable {state other : State} {checked found : Option String → Prop}

/-! ## States that are alike for some tenants -/

/-- Two states are alike if their directories say the same of the tenants in `checked` and their
policy stores hold the same for those in `found`. What the latest request left is not compared. -/
structure AlikeFor (checked found : Option String → Prop) (state other : State) : Prop where
  options : state.options = other.options
  outage : state.outage = other.outage
  tagger : state.tagger = other.tagger
  stages : state.stages = other.stages
  check : ∀ tenant, checked tenant → state.directory.check tenant = other.directory.check tenant
  lookup : ∀ tenant, found tenant → state.store.lookup tenant = other.store.lookup tenant

theorem AlikeFor.refl (checked found : Option String → Prop) (state : State) :
    AlikeFor checked found state state :=
  ⟨rfl, rfl, rfl, rfl, fun _ _ => rfl, fun _ _ => rfl⟩

theorem AlikeFor.mono {fewer : Option String → Prop} (alike : AlikeFor checked found state other)
    (within : ∀ tenant, fewer tenant → found tenant) : AlikeFor checked fewer state other :=
  { alike with lookup := fun tenant view => alike.lookup tenant (within tenant view) }

/-- The same step keeps states alike. -/
theorem AlikeFor.step (alike : AlikeFor checked found state other) (action : Action) :
    AlikeFor checked found (Session.step state action).2 (Session.step other action).2 := by
  cases action with
  | intercept visit =>
    exact ⟨alike.options, alike.outage, alike.tagger, alike.stages, alike.check, alike.lookup⟩
  | insertPolicy tenant policy =>
    refine ⟨alike.options, alike.outage, alike.tagger, alike.stages, alike.check, ?_⟩
    intro probe view
    have told := alike.lookup probe view
    simp only [Session.step, PolicyStore.lookup_tryInsert, told]
  | replaceDirectory directory =>
    exact ⟨alike.options, alike.outage, alike.tagger, alike.stages, fun _ _ => rfl, alike.lookup⟩
  | setOutage outage =>
    exact ⟨alike.options, rfl, alike.tagger, alike.stages, alike.check, alike.lookup⟩
  | replaceStages stages =>
    exact ⟨alike.options, alike.outage, alike.tagger, rfl, alike.check, alike.lookup⟩
  | readOptions => exact alike

/-- A visit takes nothing over from the one before it. -/
def Visit.IsFresh (visit : Visit) : Prop :=
  visit.keepResponse = false ∧ visit.keepAttributes = false

instance : DecidablePred Visit.IsFresh := fun visit =>
  inferInstanceAs (Decidable (visit.keepResponse = false ∧ visit.keepAttributes = false))

/-- A visit takes the same over in two states. -/
def Visit.TakesSame (visit : Visit) (state other : State) : Prop :=
  visit.IsFresh ∨ state.remains = other.remains

theorem Visit.TakesSame.requestOf_eq {visit : Visit} (same : visit.TakesSame state other) :
    state.requestOf visit = other.requestOf visit := by
  rcases same with ⟨-, own⟩ | remains
  · simp [State.requestOf, own]
  · simp only [State.requestOf, remains]

theorem Visit.TakesSame.responseOf_eq {visit : Visit} (same : visit.TakesSame state other) :
    state.responseOf visit = other.responseOf visit := by
  rcases same with ⟨own, -⟩ | remains
  · simp [State.responseOf, own]
  · simp only [State.responseOf, remains]

/-- Alike states give a visit for a tenant in view the same report. -/
theorem AlikeFor.visit_eq (alike : AlikeFor checked found state other) {visit : Visit}
    (asked : checked visit.request.servedTenant) (looked : found visit.request.servedTenant)
    (same : visit.TakesSame state other) : state.visit visit = other.visit visit := by
  rw [State.visit, State.visit, same.requestOf_eq, same.responseOf_eq]
  have tenant := other.servedTenant_requestOf visit
  have kind : state.gate.kindOf (other.requestOf visit) =
      other.gate.kindOf (other.requestOf visit) :=
    congrArg (fun options => options.kindRule.kindOf (other.requestOf visit)) alike.options
  have seen : ∀ policy, state.gate.seen policy (other.requestOf visit) =
      other.gate.seen policy (other.requestOf visit) := by
    intro policy
    rw [seen, seen, kind]
    simp only [tagged, State.gate, alike.tagger]
  have ruled : ∀ policy, state.gate.ruling policy (other.requestOf visit) (other.responseOf visit) =
      other.gate.ruling policy (other.requestOf visit) (other.responseOf visit) := by
    intro policy
    rw [ruling, ruling, kind, seen]
    simp only [State.gate, alike.stages]
  refine intercept_congr rfl rfl ?_ ?_ ?_ kind ?_ ruled ?_
  · rw [tenant]
    exact alike.check _ asked
  · rw [tenant]
    simp only [State.gate, State.lookupPolicy, alike.outage, alike.lookup _ looked]
  · exact congrArg Options.onPolicyFault alike.options
  · intro policy
    rw [seen]
  · intro policy
    rw [delivery, delivery, seen, ruled]

/-! ## Insertions for one tenant -/

/-- A step gives a tenant a policy, accepted or not. -/
def Action.insertsFor (owner : String) : Action → Bool
  | .insertPolicy tenant _ => tenant = owner
  | _ => false

/-- The steps of a run that are no insertions for a tenant. -/
def withoutInsertions (owner : String) (actions : List Action) : List Action :=
  actions.filter fun action => !action.insertsFor owner

/-- A relation between states keeps the visits selected from insertions for a tenant: the same step
preserves it, such an insertion may be made on one side alone, and the reports are the same. -/
structure Unwinding (owner : String) (select : Visit → Prop) (alike : State → State → Prop) :
    Prop where
  step : ∀ {state other : State} (action : Action), alike state other →
    alike (Session.step state action).2 (Session.step other action).2
  insert_left : ∀ {state other : State} (policy : Policy), alike state other →
    alike (Session.step state (.insertPolicy owner policy)).2 other
  visit_eq : ∀ {state other : State} {visit : Visit}, alike state other → select visit →
    state.visit visit = other.visit visit

/-- Without the insertions for the tenant a run gives the visits selected the same answers. -/
theorem Unwinding.answersTo_withoutInsertions {owner : String} {select : Visit → Prop}
    [DecidablePred select] {alike : State → State → Prop} (unwinding : Unwinding owner select alike)
    (actions : List Action) (related : alike state other) :
    answersTo select state actions =
      answersTo select other (withoutInsertions owner actions) := by
  induction actions generalizing state other with
  | nil => rfl
  | cons action actions ih =>
    by_cases hidden : action.insertsFor owner = true
    · have dropped : withoutInsertions owner (action :: actions) =
          withoutInsertions owner actions := by
        simp [withoutInsertions, hidden]
      cases action with
      | insertPolicy tenant policy =>
        obtain rfl : tenant = owner := by simpa [Action.insertsFor] using hidden
        rw [dropped, answersTo_cons, ← ih (unwinding.insert_left policy related)]
        rfl
      | _ => simp [Action.insertsFor] at hidden
    · have kept : withoutInsertions owner (action :: actions) =
          action :: withoutInsertions owner actions := by
        simp [withoutInsertions, hidden]
      rw [kept, answersTo_cons, answersTo_cons, ih (unwinding.step action related)]
      congr 2
      cases action with
      | intercept visit =>
        by_cases chosen : select visit
        · have same := unwinding.visit_eq related chosen
          simp only [selected, chosen, Session.step, same]
        · simp only [selected, chosen, if_false]
      | _ => rfl

/-- Runs that differ only in insertions for the tenant give the visits selected the same answers. -/
theorem Unwinding.answersTo_eq {owner : String} {select : Visit → Prop} [DecidablePred select]
    {alike : State → State → Prop} (unwinding : Unwinding owner select alike)
    {actions others : List Action} (related : ∀ state, alike state state) (state : State)
    (same : withoutInsertions owner actions = withoutInsertions owner others) :
    answersTo select state actions = answersTo select state others := by
  rw [unwinding.answersTo_withoutInsertions actions (related state), same,
    ← unwinding.answersTo_withoutInsertions others (related state)]

theorem AlikeFor.insert_left {owner : String} (alike : AlikeFor checked found state other)
    (hidden : ¬found (some owner)) (policy : Policy) :
    AlikeFor checked found (Session.step state (.insertPolicy owner policy)).2 other := by
  refine ⟨alike.options, alike.outage, alike.tagger, alike.stages, alike.check, ?_⟩
  intro probe view
  have elsewhere : probe ≠ some owner := by
    rintro rfl
    exact hidden view
  simp only [Session.step, PolicyStore.lookup_tryInsert, elsewhere, and_false, if_false]
  exact alike.lookup probe view

/-- Visits of other tenants that take nothing over are kept from the insertions. -/
theorem unwinding_of_fresh (owner : String) :
    Unwinding owner (fun visit => visit.IsFresh ∧ visit.request.servedTenant ≠ some owner)
      (AlikeFor (fun _ => True) (· ≠ some owner)) where
  step action alike := alike.step action
  insert_left policy alike := alike.insert_left (fun seen => seen rfl) policy
  visit_eq alike chosen := alike.visit_eq trivial chosen.2 (.inl chosen.1)

/-- No visit is for the tenant without a name, so that its policy reaches none, and what visits
leave stays the same too. -/
theorem unwinding_of_empty :
    Unwinding "" (fun _ => True) fun state other =>
      AlikeFor (fun _ => True) (· ≠ some "") state other ∧ state.remains = other.remains where
  step {state other} action := by
    rintro ⟨alike, remains⟩
    refine ⟨alike.step action, ?_⟩
    cases action with
    | intercept visit =>
      have same : state.visit visit = other.visit visit :=
        alike.visit_eq trivial visit.request.servedTenant_ne_empty (.inr remains)
      simp only [Session.step, same]
    | _ => exact remains
  insert_left policy related :=
    ⟨related.1.insert_left (fun seen => seen rfl) policy, related.2⟩
  visit_eq {state other visit} related _ :=
    related.1.visit_eq trivial visit.request.servedTenant_ne_empty (.inr related.2)

/-! ## Another fallback -/

/-- A step gives a tenant a policy that is accepted. -/
def Action.Gives (owner : String) : Action → Prop
  | .insertPolicy tenant policy => tenant = owner ∧ policy.Valid
  | _ => False

/-- Where both sides give a tenant the same policy, they hold the same for it from then on. -/
theorem AlikeFor.step_gives (alike : AlikeFor checked found state other) (action : Action) :
    AlikeFor checked
      (fun tenant => found tenant ∨ ∃ owner, tenant = some owner ∧ action.Gives owner)
      (Session.step state action).2 (Session.step other action).2 := by
  refine { alike.step action with lookup := ?_ }
  rintro probe (view | ⟨owner, rfl, gives⟩)
  · exact (alike.step action).lookup probe view
  · cases action with
    | insertPolicy tenant policy =>
      obtain ⟨rfl, valid⟩ := gives
      simp [Session.step, PolicyStore.lookup_tryInsert, valid]
    | _ => exact gives.elim

theorem AlikeFor.after_gives (alike : AlikeFor checked found state other) (actions : List Action) :
    AlikeFor checked
      (fun tenant => found tenant ∨
        ∃ owner, tenant = some owner ∧ ∃ action ∈ actions, action.Gives owner)
      (state.after actions) (other.after actions) := by
  induction actions generalizing state other found with
  | nil =>
    refine alike.mono ?_
    rintro tenant (view | ⟨owner, -, action, member, -⟩)
    · exact view
    · cases member
  | cons action actions ih =>
    refine (ih (alike.step_gives action)).mono ?_
    rintro tenant (view | ⟨owner, named, given, member, gives⟩)
    · exact .inl (.inl view)
    · rcases List.mem_cons.mp member with rfl | member
      · exact .inl (.inr ⟨owner, named, gives⟩)
      · exact .inr ⟨owner, named, given, member, gives⟩

/-! ## Another directory -/

/-- Two steps agree on a domain if they are the same, or replace the directory by two that do. -/
inductive Action.AgreesOn (domain : String) : Action → Action → Prop where
  | same (action : Action) : AgreesOn domain action action
  | directories {directory other : Directory} (agree : directory.AgreesOn domain other) :
      AgreesOn domain (.replaceDirectory directory) (.replaceDirectory other)

theorem AlikeFor.after_agrees {domain : String} {before again : List Action}
    (alike : AlikeFor (fun tenant => tenant = none ∨ tenant = some domain) found state other)
    (agree : List.Forall₂ (Action.AgreesOn domain) before again) :
    AlikeFor (fun tenant => tenant = none ∨ tenant = some domain) found
      (state.after before) (other.after again) := by
  induction agree generalizing state other with
  | nil => exact alike
  | cons first rest ih =>
    apply ih
    cases first with
    | same => exact alike.step _
    | directories agree =>
      exact ⟨alike.options, alike.outage, alike.tagger, alike.stages, agree.check_eq, alike.lookup⟩

/-! ## Isolation -/

/-- What a tenant is told does not depend on the policies of others. Insertions for one tenant,
whether among the policies at the start or at any step of a run, change no answer to a visit of
another tenant that takes nothing over from earlier visits, and those for the tenant without a name
change no answer to any visit. Another valid fallback changes no answer to a visit whose tenant was
given a policy before, and directories that agree on a domain change no answer to a visit of this
domain, provided that the visit takes the same over from the one before it. -/
theorem answers_are_isolated {setup : Setup} {state : State} (started : start setup = .ok state) :
    (∀ owner items other actions others,
      start { setup with policies := items } = .ok other →
      withoutInsertions owner (insertions setup.policies ++ actions) =
        withoutInsertions owner (insertions items ++ others) →
      answersTo (fun visit => visit.IsFresh ∧ visit.request.servedTenant ≠ some owner)
          state actions =
        answersTo (fun visit => visit.IsFresh ∧ visit.request.servedTenant ≠ some owner)
          other others) ∧
    (∀ items other actions others,
      start { setup with policies := items } = .ok other →
      withoutInsertions "" (insertions setup.policies ++ actions) =
        withoutInsertions "" (insertions items ++ others) →
      answersTo (fun _ => True) state actions = answersTo (fun _ => True) other others) ∧
    (∀ fallback : Policy, fallback.Valid → ∃ other, start { setup with fallback } = .ok other ∧
      ∀ owner before visit rest, visit.request.servedTenant = some owner →
        (∃ action ∈ insertions setup.policies ++ before, action.Gives owner) →
        visit.TakesSame (state.after before) (other.after before) →
        answerTo state before visit rest = answerTo other before visit rest) ∧
    (∀ domain directory, setup.directory.AgreesOn domain directory →
      ∃ other, start { setup with directory } = .ok other ∧
      ∀ before again visit rest later, List.Forall₂ (Action.AgreesOn domain) before again →
        visit.request.tenant = some domain →
        visit.TakesSame (state.after before) (other.after again) →
        answerTo state before visit rest = answerTo other again visit later) := by
  obtain ⟨fallback, policies, accepted, rfl⟩ := start_eq_ok_iff.mp started
  refine ⟨?_, ?_, ?_, ?_⟩
  · intro owner items other actions others restarted same
    obtain ⟨-, -, -, rfl⟩ := start_eq_ok_iff.mp restarted
    have answers := (unwinding_of_fresh owner).answersTo_eq (AlikeFor.refl _ _)
      (setup.opened accepted) same
    rw [answersTo_insertions_append, answersTo_insertions_append] at answers
    exact answers
  · intro items other actions others restarted same
    obtain ⟨-, -, -, rfl⟩ := start_eq_ok_iff.mp restarted
    have answers := unwinding_of_empty.answersTo_eq (fun state => ⟨AlikeFor.refl _ _ state, rfl⟩)
      (setup.opened accepted) same
    rw [answersTo_insertions_append, answersTo_insertions_append] at answers
    exact answers
  · intro fallback valid
    refine ⟨_, start_eq_ok_iff.mpr ⟨valid, policies, accepted, rfl⟩, ?_⟩
    intro owner before visit rest tenant given same
    have start : AlikeFor (fun _ => True) (fun _ => False) (setup.opened accepted)
        (({ setup with fallback } : Setup).opened accepted) :=
      ⟨rfl, rfl, rfl, rfl, fun _ _ => rfl, fun _ => False.elim⟩
    have alike := start.after_gives (insertions setup.policies ++ before)
    rw [State.after_append, State.after_append] at alike
    have reports := alike.visit_eq trivial (.inr ⟨owner, tenant, given⟩) same
    rw [answerTo_eq, answerTo_eq, reports]
  · intro domain directory agree
    refine ⟨_, start_eq_ok_iff.mpr ⟨fallback, policies, accepted, rfl⟩, ?_⟩
    intro before again visit rest later steps tenant same
    have start : AlikeFor (fun tenant => tenant = none ∨ tenant = some domain) (fun _ => True)
        (setup.opened accepted) (({ setup with directory } : Setup).opened accepted) :=
      ⟨rfl, rfl, rfl, rfl, agree.check_eq, fun _ _ => rfl⟩
    have inserted : List.Forall₂ (Action.AgreesOn domain) (insertions setup.policies)
        (insertions setup.policies) := List.forall₂_same.mpr fun action _ => .same action
    have alike := (start.after_agrees inserted).after_agrees steps
    have asked : visit.request.servedTenant = none ∨ visit.request.servedTenant = some domain := by
      by_cases named : domain = ""
      · exact .inl (by simp [Request.servedTenant, tenant, named])
      · exact .inr (Request.servedTenant_eq_some_iff.mpr ⟨tenant, named⟩)
    have reports := alike.visit_eq asked trivial same
    rw [answerTo_eq, answerTo_eq, reports]

/-- A run whose tenant `b` has a policy of its own. -/
def oneTenant : Setup where
  policies := [("b", { allowGeneric := false })]
  directory := { tenantId := fun _ => .ok 7, isActive := fun _ => .ok true }

/-- A visit of a tenant that takes nothing over. -/
def visitOf (tenant : String) : Visit where
  request := { method := Method.get, tenant := some tenant }
  next := Chain.ofEdits [] none

/-- A tenant's visit is answered alike whether or not another tenant is given policies, valid and
invalid ones, and under another fallback or a directory that tells it the same. -/
theorem answers_are_isolated_for_oneTenant :
    ∃ state other, start oneTenant = .ok state ∧
      start { oneTenant with policies := [("a", {}), ("b", { allowGeneric := false })] } =
        .ok other ∧
      answersTo (fun visit => visit.IsFresh ∧ visit.request.servedTenant ≠ some "a") state
          [.insertPolicy "a" { maxAge := -2 }, .intercept (visitOf "b")] =
        answersTo (fun visit => visit.IsFresh ∧ visit.request.servedTenant ≠ some "a") other
          [.intercept (visitOf "b"), .insertPolicy "a" { credentials := true }] ∧
      answersTo (fun _ => True) state [.insertPolicy "" {}, .intercept (visitOf "b")] =
        answersTo (fun _ => True) state [.intercept (visitOf "b")] ∧
      (∃ third, start { oneTenant with fallback := { credentials := true } } = .ok third ∧
        answerTo state [] (visitOf "b") [] = answerTo third [] (visitOf "b") []) ∧
      (∃ fourth, start { oneTenant with directory := { oneTenant.directory with
          isActive := fun id => .ok (decide (id = 7)) } } = .ok fourth ∧
        answerTo state [] (visitOf "b") [] = answerTo fourth [] (visitOf "b") []) := by
  have started : start oneTenant = .ok _ :=
    start_eq_ok_iff.mpr ⟨by decide, by decide, rfl, rfl⟩
  have again : start { oneTenant with policies := [("a", {}), ("b", { allowGeneric := false })] } =
      .ok _ := start_eq_ok_iff.mpr ⟨by decide, by decide, rfl, rfl⟩
  obtain ⟨fresh, unnamed, fallback, directory⟩ := answers_are_isolated started
  obtain ⟨third, opened, lookups⟩ := fallback { credentials := true } (by decide)
  obtain ⟨fourth, entered, checks⟩ := directory "b" { oneTenant.directory with
    isActive := fun id => .ok (decide (id = 7)) } ⟨rfl, by rintro id ⟨⟩; rfl⟩
  refine ⟨_, _, started, again, fresh _ _ _ _ _ again ?_, unnamed _ _ _ _ started ?_,
    ⟨third, opened, ?_⟩, ⟨fourth, entered, ?_⟩⟩
  · simp [withoutInsertions, insertions, oneTenant, Action.insertsFor]
  · simp [withoutInsertions, insertions, oneTenant, Action.insertsFor]
  · exact lookups "b" [] (visitOf "b") [] rfl ⟨_, .head _, rfl, by decide⟩ (.inl ⟨rfl, rfl⟩)
  · exact checks [] [] (visitOf "b") [] [] .nil rfl (.inl ⟨rfl, rfl⟩)

end Gate.Session
end OriginGate
