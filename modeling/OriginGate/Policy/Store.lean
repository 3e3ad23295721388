import OriginGate.Policy.Basic
import OriginGate.Table.Basic

/-!
Policies by tenant, with a fallback for tenants that have none of their own. Only valid policies
get in, and a policy that is refused changes nothing.
-/

namespace OriginGate

/-- A fallback and the policies of tenants, in the order in which tenants first got one. -/
structure PolicyStore where
  /-- What holds without a tenant, and for tenants without a policy of their own. -/
  fallback : Policy := {}
  /-- The tenants' own policies. A tenant's name is compared exactly and may be empty. -/
  own : ExactTable Policy := ∅
  deriving DecidableEq

namespace PolicyStore

/-- The store without policies of tenants, if the fallback is valid. -/
def ofFallback (fallback : Policy) : Except SettingError PolicyStore :=
  match fallback.fault? with
  | some fault => .error fault
  | none => .ok { fallback }

/-- Gives a tenant a policy, in place of the one it has, if the policy is valid. -/
def insert (store : PolicyStore) (tenant : String) (policy : Policy) :
    Except SettingError PolicyStore :=
  match policy.fault? with
  | some fault => .error fault
  | none => .ok { store with own := store.own.insert tenant policy }

/-- Inserts a policy if it is valid and leaves the store alone if not; the fault is reported. -/
def tryInsert (store : PolicyStore) (tenant : String) (policy : Policy) :
    PolicyStore × Except SettingError Unit :=
  match store.insert tenant policy with
  | .ok changed => (changed, .ok ())
  | .error fault => (store, .error fault)

/-- Inserts policies one after another, up to the first that is refused. -/
def insertAll (store : PolicyStore) : List (String × Policy) → Except SettingError PolicyStore
  | [] => .ok store
  | (tenant, policy) :: rest =>
    match store.insert tenant policy with
    | .ok changed => changed.insertAll rest
    | .error fault => .error fault

/-- The policy that holds for a tenant: its own if it has one, and the fallback otherwise. -/
def lookup (store : PolicyStore) (tenant : Option String) : Policy :=
  (tenant.bind store.own.get?).getD store.fallback

/-- The tenants with a policy of their own, in the order in which they first got one. -/
def tenants (store : PolicyStore) : List String :=
  store.own.names

/-! ## What an insertion changes -/

/-- An insertion succeeds exactly for valid policies, and then stores the policy under the
tenant. -/
theorem insert_eq_ok_iff {store changed : PolicyStore} {tenant : String} {policy : Policy} :
    store.insert tenant policy = .ok changed ↔
      policy.Valid ∧ changed = { store with own := store.own.insert tenant policy } := by
  rw [← Policy.fault?_eq_none_iff, insert]
  cases policy.fault? <;> simp [eq_comm]

/-- A store starts from a fallback exactly if that is valid. -/
theorem ofFallback_eq_ok_iff {fallback : Policy} {store : PolicyStore} :
    ofFallback fallback = .ok store ↔ fallback.Valid ∧ store = { fallback } := by
  rw [← Policy.fault?_eq_none_iff, ofFallback]
  cases fallback.fault? <;> simp [eq_comm]

/-- A policy that is refused leaves the store as it was. -/
theorem tryInsert_of_not_valid {policy : Policy} (store : PolicyStore) (tenant : String)
    (refused : ¬policy.Valid) : (store.tryInsert tenant policy).1 = store := by
  unfold tryInsert
  split
  · rename_i changed accepted
    exact absurd (insert_eq_ok_iff.mp accepted).1 refused
  · rfl

/-- A policy that is accepted is stored. -/
theorem tryInsert_of_valid {policy : Policy} (store : PolicyStore) (tenant : String)
    (valid : policy.Valid) :
    store.tryInsert tenant policy =
      ({ store with own := store.own.insert tenant policy }, .ok ()) := by
  rw [tryInsert, insert_eq_ok_iff.mpr ⟨valid, rfl⟩]

end PolicyStore

end OriginGate
