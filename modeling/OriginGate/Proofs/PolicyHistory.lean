import Mathlib.Data.List.Induction
import OriginGate.Proofs.CallOrder
import OriginGate.Proofs.SessionRuns

/-! What a policy store holds after any list of insertions, accepted and refused ones in any order.
`Prevails` says from the list alone which policy that is, and a gate over the store hands its stages
this policy and no other. -/
namespace OriginGate

/-- None of a list of insertions gives a tenant a valid policy. -/
def GivesNone (items : List (String × Policy)) (tenant : Option String) : Prop :=
  ∀ item ∈ items, tenant = some item.1 → ¬item.2.Valid

instance (items : List (String × Policy)) (tenant : Option String) :
    Decidable (GivesNone items tenant) :=
  inferInstanceAs (Decidable (∀ item ∈ items, tenant = some item.1 → ¬item.2.Valid))

/-- The policy that a list of insertions leaves for a tenant: the last valid one given to it, or the
fallback if it was given none. -/
inductive Prevails (fallback : Policy) (history : List (String × Policy)) :
    Option String → Policy → Prop where
  | own {tenant : String} {policy : Policy} {before later : List (String × Policy)}
      (given : history = before ++ (tenant, policy) :: later) (valid : policy.Valid)
      (last : GivesNone later (some tenant)) : Prevails fallback history (some tenant) policy
  | fallback {tenant : Option String} (lacking : GivesNone history tenant) :
      Prevails fallback history tenant fallback

theorem Prevails.valid {fallback policy : Policy} {history : List (String × Policy)}
    {tenant : Option String} (prevails : Prevails fallback history tenant policy)
    (accepted : fallback.Valid) : policy.Valid := by
  cases prevails with
  | own given valid last => exact valid
  | fallback lacking => exact accepted

theorem GivesNone.append_singleton {items : List (String × Policy)} {item : String × Policy}
    {tenant : Option String} (none : GivesNone items tenant)
    (passed : ¬(tenant = some item.1 ∧ item.2.Valid)) : GivesNone (items ++ [item]) tenant := by
  intro given member same valid
  rcases List.mem_append.mp member with earlier | last
  · exact none given earlier same valid
  · rw [List.mem_singleton.mp last] at same valid
    exact passed ⟨same, valid⟩

/-- Some policy prevails for every tenant. The induction goes from the end of the list, where the
insertion that settles the matter is found first. -/
theorem exists_prevails (fallback : Policy) (history : List (String × Policy))
    (tenant : Option String) : ∃ policy, Prevails fallback history tenant policy := by
  induction history using List.reverseRecOn with
  | nil => exact ⟨fallback, .fallback fun _ => nofun⟩
  | append_singleton history item ih =>
    by_cases settles : tenant = some item.1 ∧ item.2.Valid
    · obtain ⟨rfl, valid⟩ := settles
      exact ⟨item.2, .own rfl valid fun _ => nofun⟩
    · obtain ⟨policy, prevails⟩ := ih
      cases prevails with
      | own given valid last =>
        have split := congrArg (· ++ [item]) given
        rw [List.append_assoc, List.cons_append] at split
        exact ⟨policy, .own split valid (last.append_singleton settles)⟩
      | fallback lacking => exact ⟨_, .fallback (lacking.append_singleton settles)⟩

/-- The tenants that a list of insertions gives a valid policy, in order and as often as it does. -/
def tenantsGiven (history : List (String × Policy)) : List String :=
  (history.filter fun item => item.2.Valid).map Prod.fst

theorem tenantsGiven_append (first second : List (String × Policy)) :
    tenantsGiven (first ++ second) = tenantsGiven first ++ tenantsGiven second := by
  simp [tenantsGiven]

namespace PolicyStore
variable {store : PolicyStore} {tenant : String} {policy : Policy}

/-- A store before any insertion: the one of default policies, or one of an accepted fallback. -/
inductive IsFresh : PolicyStore → Prop where
  | default : IsFresh {}
  | ofFallback {fallback : Policy} {store : PolicyStore}
      (accepted : PolicyStore.ofFallback fallback = .ok store) : IsFresh store

theorem IsFresh.own_eq (fresh : store.IsFresh) : store.own = ∅ := by
  cases fresh with
  | default => rfl
  | ofFallback accepted =>
    obtain ⟨-, rfl⟩ := ofFallback_eq_ok_iff.mp accepted
    rfl

theorem IsFresh.fallback_valid (fresh : store.IsFresh) : store.fallback.Valid := by
  cases fresh with
  | default => decide
  | ofFallback accepted =>
    obtain ⟨valid, rfl⟩ := ofFallback_eq_ok_iff.mp accepted
    exact valid

/-! ## Insertions one after another -/

/-- The store after a list of insertions, each of which is made or refused. -/
def after (store : PolicyStore) (history : List (String × Policy)) : PolicyStore :=
  history.foldl (fun store item => (store.tryInsert item.1 item.2).1) store

theorem after_cons (store : PolicyStore) (item : String × Policy)
    (history : List (String × Policy)) :
    store.after (item :: history) = (store.tryInsert item.1 item.2).1.after history :=
  rfl

theorem after_append (store : PolicyStore) (first second : List (String × Policy)) :
    store.after (first ++ second) = (store.after first).after second :=
  List.foldl_append

/-- An insertion answers with what is wrong with the policy, if anything is. -/
theorem result_tryInsert (store : PolicyStore) (tenant : String) (policy : Policy) :
    (store.tryInsert tenant policy).2 = policy.validate := by
  unfold tryInsert insert Policy.validate
  cases policy.fault? <;> rfl

theorem after_refused (store : PolicyStore) (history later : List (String × Policy))
    (tenant : String) (refused : ¬policy.Valid) :
    store.after (history ++ (tenant, policy) :: later) = store.after (history ++ later) := by
  rw [after_append, after_cons, tryInsert_of_not_valid _ tenant refused, ← after_append]

theorem lookup_after_of_lacking {history : List (String × Policy)} {tenant : Option String}
    (store : PolicyStore) (lacking : GivesNone history tenant) :
    (store.after history).lookup tenant = store.lookup tenant := by
  induction history generalizing store with
  | nil => rfl
  | cons item history ih =>
    obtain ⟨first, others⟩ := List.forall_mem_cons.mp lacking
    rw [after_cons, ih _ others, lookup_tryInsert, if_neg fun both => first both.2 both.1]

theorem lookup_after_of_prevails {history : List (String × Policy)} {tenant : Option String}
    (fresh : store.own = ∅) (prevails : Prevails store.fallback history tenant policy) :
    (store.after history).lookup tenant = policy := by
  cases prevails with
  | own given valid last =>
    rw [given, after_append, after_cons, lookup_after_of_lacking _ last, lookup_tryInsert,
      if_pos ⟨valid, rfl⟩]
  | fallback lacking =>
    rw [lookup_after_of_lacking _ lacking, lookup, fresh]
    cases tenant <;> rfl

/-- What is found for a tenant is the policy that prevails for it. -/
theorem lookup_after_iff {history : List (String × Policy)} {tenant : Option String}
    (fresh : store.own = ∅) :
    (store.after history).lookup tenant = policy ↔
      Prevails store.fallback history tenant policy := by
  constructor
  · rintro rfl
    obtain ⟨found, prevails⟩ := exists_prevails store.fallback history tenant
    rwa [lookup_after_of_prevails fresh prevails]
  · exact lookup_after_of_prevails fresh

/-! ## The tenants listed -/

theorem tenants_tryInsert (store : PolicyStore) (tenant : String) (policy : Policy) :
    (store.tryInsert tenant policy).1.tenants =
      if policy.Valid ∧ tenant ∉ store.tenants then store.tenants ++ [tenant]
      else store.tenants := by
  by_cases valid : policy.Valid
  · have listed : store.own.contains tenant = true ↔ tenant ∈ store.own.names := by
      rw [Table.contains_iff_mem]
      rfl
    rw [tryInsert_of_valid store tenant valid]
    simp only [tenants, Table.names_insert, listed, valid, true_and, ite_not]
  · simp [tryInsert_of_not_valid store tenant valid, valid]

private theorem eraseDups_append_singleton (names : List String) (name : String) :
    (names ++ [name]).eraseDups =
      if name ∈ names then names.eraseDups else names.eraseDups ++ [name] := by
  rw [List.eraseDups_append]
  split
  · simp [List.removeAll, *]
  · simp [List.removeAll, List.eraseDups_cons, *]

theorem tenants_after (store : PolicyStore) (fresh : store.own = ∅)
    (history : List (String × Policy)) :
    (store.after history).tenants = (tenantsGiven history).eraseDups := by
  induction history using List.reverseRecOn with
  | nil =>
    rw [after, List.foldl_nil, tenants, fresh]
    rfl
  | append_singleton history item ih =>
    rw [after_append, after_cons, after, List.foldl_nil, tenants_tryInsert, ih, tenantsGiven_append]
    by_cases valid : item.2.Valid
    · have given : tenantsGiven [item] = [item.1] := by simp [tenantsGiven, valid]
      simp only [given, eraseDups_append_singleton, List.mem_eraseDups, valid, true_and, ite_not]
    · have given : tenantsGiven [item] = [] := by simp [tenantsGiven, valid]
      rw [if_neg fun accepted => valid accepted.1, given, List.append_nil]

theorem nodup_tenants (store : PolicyStore) : store.tenants.Nodup :=
  store.own.distinct

theorem tenants_prefix_after (store : PolicyStore) (history : List (String × Policy)) :
    store.tenants <+: (store.after history).tenants := by
  induction history generalizing store with
  | nil => exact List.prefix_refl _
  | cons item history ih =>
    refine List.IsPrefix.trans ?_ (ih _)
    rw [tenants_tryInsert]
    split
    · exact List.prefix_append _ _
    · exact List.prefix_refl _

end PolicyStore

/-! ## The policies handed to stages -/

namespace Gate

/-- A stage is handed the policy in force. -/
theorem inForce_of_mem_stageCalls {gate : Gate} {request : Request} {response : Response}
    {next : Chain} {handed : Kind × Attributes × Policy}
    (member : handed ∈ (gate.intercept request response next).stageCalls) :
    gate.InForce request handed.2.2 := by
  by_cases forced : ∃ policy, gate.InForce request policy
  · obtain ⟨policy, force⟩ := forced
    rw [stageCalls_of_inForce force] at member
    split at member
    · cases member
    · rw [List.mem_singleton.mp member]
      exact force
  · obtain ⟨-, uncalled, -⟩ := uncalled_of_no_policy forced response next
    rw [uncalled] at member
    cases member

namespace Session

/-- The insertions among the steps of a run. -/
def given (actions : List Action) : List (String × Policy) :=
  actions.filterMap fun
    | .insertPolicy tenant policy => some (tenant, policy)
    | _ => none

/-- Nothing but insertions changes the policies of a run. -/
theorem State.store_after (state : State) (actions : List Action) :
    (state.after actions).store = state.store.after (given actions) := by
  induction actions generalizing state with
  | nil => rfl
  | cons action actions ih =>
    rw [State.after_cons, ih]
    cases action with
    | insertPolicy tenant policy => rfl
    | _ => rfl

/-- A run starts with the policies of its setup inserted into the fresh store of its fallback. -/
theorem State.store_of_start {setup : Setup} {state : State} (started : start setup = .ok state)
    {store : PolicyStore} (fresh : store.IsFresh) (fallback : store.fallback = setup.fallback) :
    state.store = store.after setup.policies := by
  obtain ⟨-, -, accepted, rfl⟩ := start_eq_ok_iff.mp started
  have inserted : given (insertions setup.policies) = setup.policies := by
    simp [given, insertions, List.filterMap_map]
  have opened : (setup.opened accepted).store = store := by
    rw [Setup.opened, ← fallback, ← fresh.own_eq]
  rw [State.store_after, inserted, opened]

/-- While the policy store is up, a visit is handled under what the store holds. -/
theorem State.lookup_of_lookupPolicy {state : State} {tenant : Option String} {policy : Policy}
    (found : state.lookupPolicy tenant = .ok policy) : state.store.lookup tenant = policy := by
  unfold State.lookupPolicy at found
  split at found
  · cases found
  · exact Except.ok.inj found

theorem State.lookup_of_mem_stageCalls {state : State} {visit : Visit}
    {handed : Kind × Attributes × Policy} (member : handed ∈ (state.visit visit).stageCalls) :
    state.store.lookup visit.request.servedTenant = handed.2.2 := by
  have found := (inForce_of_mem_stageCalls member).found
  rw [state.servedTenant_requestOf] at found
  exact State.lookup_of_lookupPolicy found

end Session
end Gate

/-- A policy store is a map in which the last accepted insertion wins. An insertion answers with
what is wrong with its policy and, if anything is, leaves no trace. A tenant finds the last valid
policy given to it and otherwise the fallback, which is also what is found without a tenant. Tenants
are listed once each, in the order in which they first got a valid policy, and keep their places.
Whatever is found is valid, and in a run over the store a stage is handed nothing else: the policy
that prevails for the tenant of its request after all insertions so far. -/
theorem PolicyStore.last_accepted_prevails {store : PolicyStore} (fresh : store.IsFresh)
    (history : List (String × Policy)) :
    let now := store.after history
    (∀ tenant policy, (now.tryInsert tenant policy).2 = policy.validate ∧
      ((now.tryInsert tenant policy).2 = .ok () ↔ policy.Valid)) ∧
    (∀ tenant policy later, policy.validate ≠ .ok () →
      store.after (history ++ (tenant, policy) :: later) = store.after (history ++ later)) ∧
    (∀ tenant policy, now.lookup tenant = policy ↔
      Prevails store.fallback history tenant policy) ∧
    now.lookup none = store.fallback ∧
    now.tenants = (tenantsGiven history).eraseDups ∧ now.tenants.Nodup ∧
    (∀ later, now.tenants <+: (store.after (history ++ later)).tenants) ∧
    (∀ tenant, (now.lookup tenant).validate = .ok ()) ∧
    (∀ setup state, Gate.Session.start setup = .ok state → store.fallback = setup.fallback →
      state.store = store.after setup.policies) ∧
    (∀ (state : Gate.Session.State) before visit rest report, state.store = now →
      Gate.Session.answerTo state before visit rest = some (.reported report) →
      ∀ handed ∈ report.stageCalls, handed.2.2.validate = .ok () ∧
        Prevails store.fallback (history ++ Gate.Session.given before)
          visit.request.servedTenant handed.2.2) := by
  have found : ∀ {history tenant policy}, (store.after history).lookup tenant = policy ↔
      Prevails store.fallback history tenant policy := lookup_after_iff fresh.own_eq
  dsimp only
  refine ⟨?_, ?_, fun tenant policy => found, ?_, tenants_after store fresh.own_eq history,
    nodup_tenants _, ?_, ?_, ?_, ?_⟩
  · intro tenant policy
    rw [result_tryInsert, Policy.validate_eq_ok_iff]
    exact ⟨rfl, Iff.rfl⟩
  · intro tenant policy later refused
    exact after_refused store history later tenant fun valid =>
      refused (Policy.validate_eq_ok_iff.mpr valid)
  · exact found.mpr (.fallback fun _ _ => nofun)
  · intro later
    rw [after_append]
    exact tenants_prefix_after _ later
  · intro tenant
    exact Policy.validate_eq_ok_iff.mpr ((found.mp rfl).valid fresh.fallback_valid)
  · exact fun setup state started => Gate.Session.State.store_of_start started fresh
  · intro state before visit rest report held answered handed member
    rw [Gate.Session.answerTo_eq] at answered
    cases answered
    have looked := Gate.Session.State.lookup_of_mem_stageCalls member
    rw [Gate.Session.State.store_after, held, ← after_append] at looked
    have prevails := found.mp looked
    exact ⟨Policy.validate_eq_ok_iff.mpr (prevails.valid fresh.fallback_valid), prevails⟩

/-- A store whose fallback serves the protocol alone. -/
def strictStore : PolicyStore where
  fallback := { allowGeneric := false }

/-- A tenant keeps its policy when an invalid one is refused, and its stage is handed this policy. -/
theorem last_accepted_prevails_in_strictStore :
    let own : Policy := { credentials := true }
    let now := strictStore.after [("a", own), ("", {}), ("a", { maxAge := -2 })]
    let state : Gate.Session.State :=
      { options := {}, accepted := rfl, store := now
        directory := { tenantId := fun _ => .ok 7, isActive := fun _ => .ok true }
        outage := none, tagger := Tagger.standard, stages := {} }
    let visit : Gate.Session.Visit :=
      { request := { method := Method.get, origin := some "https://b.example", tenant := some "a" }
        next := Chain.ofEdits [] none }
    strictStore.IsFresh ∧ now.lookup (some "a") = own ∧ now.lookup none = strictStore.fallback ∧
      now.tenants = ["a", ""] ∧
      (.actual, ∅, own) ∈ (state.visit visit).stageCalls ∧ own.validate = .ok () := by
  intro own now state visit
  have fresh : strictStore.IsFresh :=
    .ofFallback (PolicyStore.ofFallback_eq_ok_iff.mpr ⟨by decide, rfl⟩)
  obtain ⟨-, -, lookup, none, tenants, -, -, -, -, handed⟩ :=
    PolicyStore.last_accepted_prevails fresh [("a", own), ("", {}), ("a", { maxAge := -2 })]
  have called : (state.visit visit).stageCalls = [(.actual, ∅, own)] := by decide +kernel
  have split : [("a", own), ("", {}), ("a", { maxAge := -2 })] =
      [] ++ ("a", own) :: [("", {}), ("a", { maxAge := -2 })] := rfl
  have member : (.actual, ∅, own) ∈ (state.visit visit).stageCalls := called ▸ .head _
  exact ⟨fresh, (lookup _ _).mpr (.own split (by decide) (by decide)), none, tenants, member,
    (handed state [] visit [] _ rfl (Gate.Session.answerTo_eq ..) _ member).1⟩

end OriginGate
