import Mathlib

/-! FRAME storage items as finite association lists. A key that was never written reads
`none`; `set k none` removes the key, as in FRAME. Only the operations the pallet calls
are modelled: `get`, `set`, and sums over the stored entries. -/
namespace ProportionalAsset

/-- A `StorageMap`: finitely many keys hold a value. Keys are unique by construction. -/
abbrev StorageMap (K V : Type) := AList (fun _ : K => V)

/-- A `StorageDoubleMap`, stored as one map keyed by the pair of keys. -/
abbrev StorageDoubleMap (K₁ K₂ V : Type) := StorageMap (K₁ × K₂) V

namespace StorageMap

variable {K V : Type} [DecidableEq K]

def get (m : StorageMap K V) (k : K) : Option V := m.lookup k

def set (m : StorageMap K V) (k : K) : Option V → StorageMap K V
  | some v => m.insert k v
  | none => m.erase k

/-- The sum of `weight` over every stored entry. -/
def total (m : StorageMap K V) (weight : K → V → Nat) : Nat :=
  (m.entries.map fun e => weight e.1 e.2).sum

@[simp] theorem get_empty (k : K) : (∅ : StorageMap K V).get k = none := rfl

@[simp] theorem get_set_self (m : StorageMap K V) (k : K) (v : Option V) :
    (m.set k v).get k = v := by
  cases v <;> simp [get, set]

@[simp] theorem get_set_ne (m : StorageMap K V) {k k' : K} (v : Option V) (h : k' ≠ k) :
    (m.set k v).get k' = m.get k' := by
  cases v <;> simp [get, set, h]

theorem get_set (m : StorageMap K V) (k k' : K) (v : Option V) :
    (m.set k v).get k' = if k' = k then v else m.get k' := by
  split
  · subst_vars; exact get_set_self m _ v
  · exact get_set_ne m v ‹_›

private theorem sum_kerase (weight : K → V → Nat) (k : K) (l : List (Sigma fun _ : K => V)) :
    ((l.kerase k).map fun e => weight e.1 e.2).sum + ((l.dlookup k).map (weight k)).getD 0 =
      (l.map fun e => weight e.1 e.2).sum := by
  induction l with
  | nil => simp
  | cons e l ih =>
      obtain ⟨k', v'⟩ := e
      by_cases h : k' = k
      · subst h
        simp [List.kerase_cons_eq, List.dlookup_cons_eq, Nat.add_comm]
      · have hne : k ≠ k' := Ne.symm h
        simp [List.kerase_cons_ne, List.dlookup_cons_ne, hne, ← ih]
        omega

/-- Removing a key takes exactly its own weight out of the total. -/
theorem total_set_none (m : StorageMap K V) (weight : K → V → Nat) (k : K) :
    (m.set k none).total weight + ((m.get k).map (weight k)).getD 0 = m.total weight :=
  sum_kerase weight k m.entries

/-- Writing a value puts its weight in place of the key's old one, if any. -/
theorem total_set_some (m : StorageMap K V) (weight : K → V → Nat) (k : K) (v : V) :
    (m.set k (some v)).total weight = (m.set k none).total weight + weight k v := by
  simp only [set, total, AList.insert_entries, AList.erase, List.map_cons, List.sum_cons]
  omega

/-- A write swaps the key's old weight, if any, for the new one. -/
theorem total_set_some_add (m : StorageMap K V) (weight : K → V → Nat) (k : K) (v : V) :
    (m.set k (some v)).total weight + ((m.get k).map (weight k)).getD 0 =
      m.total weight + weight k v := by
  have := total_set_none m weight k
  rw [total_set_some]
  omega

theorem le_total_of_get {m : StorageMap K V} (weight : K → V → Nat) {k : K} {v : V}
    (h : m.get k = some v) : weight k v ≤ m.total weight := by
  have := total_set_none m weight k
  simp only [h, Option.map_some', Option.getD_some] at this
  omega

/-- Two distinct stored keys together weigh no more than the whole map. -/
theorem add_le_total_of_get {m : StorageMap K V} (weight : K → V → Nat) {k₁ k₂ : K} {v₁ v₂ : V}
    (hne : k₁ ≠ k₂) (h₁ : m.get k₁ = some v₁) (h₂ : m.get k₂ = some v₂) :
    weight k₁ v₁ + weight k₂ v₂ ≤ m.total weight := by
  have hErase := total_set_none m weight k₁
  have h₂' : (m.set k₁ none).get k₂ = some v₂ := by rwa [get_set_ne _ _ hne.symm]
  have hLe := le_total_of_get weight h₂'
  simp only [h₁, Option.map_some', Option.getD_some] at hErase
  omega

/-- With no key satisfying `p`, a weight supported on `p` totals zero. -/
theorem total_eq_zero {m : StorageMap K V} (weight : K → V → Nat) (p : K → Prop)
    (hSupp : ∀ k v, ¬ p k → weight k v = 0) (hNone : ∀ k, p k → m.get k = none) :
    m.total weight = 0 := by
  refine List.sum_eq_zero fun n hn => ?_
  obtain ⟨⟨k, v⟩, hMem, rfl⟩ := List.mem_map.mp hn
  refine hSupp k v fun hk => ?_
  have : m.get k = some v := AList.mem_lookup_iff.mpr hMem
  simp [hNone k hk] at this

end StorageMap

namespace StorageDoubleMap

variable {K₁ K₂ V : Type} [DecidableEq K₁] [DecidableEq K₂]

def get (m : StorageDoubleMap K₁ K₂ V) (k₁ : K₁) (k₂ : K₂) : Option V :=
  StorageMap.get m (k₁, k₂)

def set (m : StorageDoubleMap K₁ K₂ V) (k₁ : K₁) (k₂ : K₂) (v : Option V) :
    StorageDoubleMap K₁ K₂ V :=
  StorageMap.set m (k₁, k₂) v

theorem get_set (m : StorageDoubleMap K₁ K₂ V) (k₁ k₁' : K₁) (k₂ k₂' : K₂) (v : Option V) :
    (m.set k₁ k₂ v).get k₁' k₂' = if k₁' = k₁ ∧ k₂' = k₂ then v else m.get k₁' k₂' := by
  simp only [get, set, StorageMap.get_set, Prod.mk.injEq]

end StorageDoubleMap

end ProportionalAsset
