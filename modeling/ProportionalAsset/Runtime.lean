import Mathlib

/-! The parts of Rust and FRAME the pallet is written against: saturating `u64` arithmetic,
signed origins, dispatch errors, and the `Currency` collaborator. A call is a state function
that returns its result with the state it leaves; storage is not rolled back on an error,
so every write made before an error stays. -/

namespace UInt64

theorem le_iff_toNat_le {a b : UInt64} : a ≤ b ↔ a.toNat ≤ b.toNat := Iff.rfl

theorem lt_iff_toNat_lt {a b : UInt64} : a < b ↔ a.toNat < b.toNat := Iff.rfl

/-- Rust's `u64::saturating_add`. -/
def saturatingAdd (a b : UInt64) : UInt64 :=
  UInt64.ofNatCore (min (a.toNat + b.toNat) (UInt64.size - 1))
    (Nat.lt_of_le_of_lt (Nat.min_le_right _ _) (by decide))

/-- Rust's `u64::saturating_sub`. -/
def saturatingSub (a b : UInt64) : UInt64 :=
  UInt64.ofNatCore (a.toNat - b.toNat) (by have := a.toNat_lt_size; omega)

/-- Rust's `u64::saturating_mul`. -/
def saturatingMul (a b : UInt64) : UInt64 :=
  UInt64.ofNatCore (min (a.toNat * b.toNat) (UInt64.size - 1))
    (Nat.lt_of_le_of_lt (Nat.min_le_right _ _) (by decide))

@[simp] theorem toNat_saturatingAdd (a b : UInt64) :
    (a.saturatingAdd b).toNat = min (a.toNat + b.toNat) (UInt64.size - 1) := rfl

@[simp] theorem toNat_saturatingSub (a b : UInt64) :
    (a.saturatingSub b).toNat = a.toNat - b.toNat := rfl

@[simp] theorem toNat_saturatingMul (a b : UInt64) :
    (a.saturatingMul b).toNat = min (a.toNat * b.toNat) (UInt64.size - 1) := rfl

/-! Below the bound, two saturating steps make one step by the wrapping sum. -/

theorem saturatingAdd_eq_add {a b : UInt64} (h : a.toNat + b.toNat < UInt64.size) :
    a.saturatingAdd b = a + b :=
  UInt64.toNat.inj (by simp only [toNat_saturatingAdd, UInt64.toNat_add, Nat.mod_eq_of_lt h]; omega)

theorem saturatingAdd_saturatingAdd (a : UInt64) {b c : UInt64}
    (h : b.toNat + c.toNat < UInt64.size) :
    (a.saturatingAdd b).saturatingAdd c = a.saturatingAdd (b + c) :=
  UInt64.toNat.inj (by simp only [toNat_saturatingAdd, UInt64.toNat_add, Nat.mod_eq_of_lt h]; omega)

theorem saturatingSub_saturatingSub (a : UInt64) {b c : UInt64}
    (h : b.toNat + c.toNat < UInt64.size) :
    (a.saturatingSub b).saturatingSub c = a.saturatingSub (b + c) :=
  UInt64.toNat.inj (by simp only [toNat_saturatingSub, UInt64.toNat_add, Nat.mod_eq_of_lt h]; omega)

end UInt64

namespace ProportionalAsset

/-- `frame_system::RawOrigin`. -/
inductive RawOrigin (AccountId : Type) where
  | root
  | signed (who : AccountId)
  | none
  deriving DecidableEq, Repr

/-- `sp_runtime::DispatchError`, with the calling pallet's own errors under `module`. -/
inductive DispatchError (E : Type) where
  | badOrigin
  | module (error : E)
  | other (message : String)
  deriving DecidableEq, Repr

/-- A dispatchable call's effect on the runtime state `σ`. -/
def DispatchM (E σ α : Type) := σ → Except (DispatchError E) α × σ

namespace DispatchM

variable {E σ α β : Type}

def run (m : DispatchM E σ α) (s : σ) : Except (DispatchError E) α × σ := m s

instance : Monad (DispatchM E σ) where
  pure a := fun s => (.ok a, s)
  bind m g := fun s => match m s with
    | (.ok a, s') => g a s'
    | (.error e, s') => (.error e, s')

instance : MonadExceptOf (DispatchError E) (DispatchM E σ) where
  throw e := fun s => (.error e, s)
  tryCatch m h := fun s => match m s with
    | (.error e, s') => h e s'
    | r => r

/-- A storage read. -/
def read (f : σ → α) : DispatchM E σ α := fun s => (.ok (f s), s)

/-- A storage write. -/
def write (f : σ → σ) : DispatchM E σ Unit := fun s => (.ok (), f s)

@[simp] theorem run_pure (a : α) (s : σ) : (pure a : DispatchM E σ α).run s = (.ok a, s) := rfl

@[simp] theorem run_throw (e : DispatchError E) (s : σ) :
    (throw e : DispatchM E σ α).run s = (.error e, s) := rfl

@[simp] theorem run_read (f : σ → α) (s : σ) : (read f : DispatchM E σ α).run s = (.ok (f s), s) :=
  rfl

@[simp] theorem run_write (f : σ → σ) (s : σ) :
    (write f : DispatchM E σ Unit).run s = (.ok (), f s) := rfl

theorem run_bind (m : DispatchM E σ α) (g : α → DispatchM E σ β) (s : σ) :
    (m >>= g).run s = match m.run s with
      | (.ok a, s') => (g a).run s'
      | (.error e, s') => (.error e, s') := rfl

/-! A call is run by symbolic execution: each lemma below runs one primitive and passes
its result to the rest of the `do` block, so no `match` on a result pair is left behind. -/

@[simp] theorem run_pure_bind (a : α) (g : α → DispatchM E σ β) (s : σ) :
    (pure a >>= g).run s = (g a).run s := rfl

@[simp] theorem run_throw_bind (e : DispatchError E) (g : α → DispatchM E σ β) (s : σ) :
    (throw e >>= g).run s = (.error e, s) := rfl

@[simp] theorem run_read_bind (f : σ → α) (g : α → DispatchM E σ β) (s : σ) :
    (read f >>= g).run s = (g (f s)).run s := rfl

@[simp] theorem run_write_bind (f : σ → σ) (g : Unit → DispatchM E σ β) (s : σ) :
    (write f >>= g).run s = (g ()).run (f s) := rfl

/-! ### Checks before writes

A call is `Atomic` when an error leaves the state as the call found it. It is built from
steps that only read before the last step that can fail, and steps that cannot fail after
it; the rules below compose these facts along a `do` block. -/

/-- `m` leaves the state as it found it, whatever it returns. -/
def ReadOnly (m : DispatchM E σ α) : Prop := ∀ s, (m.run s).2 = s

/-- `m` never returns an error. -/
def Infallible (m : DispatchM E σ α) : Prop := ∀ s e t, m.run s ≠ (.error e, t)

/-- An error from `m` leaves the state as `m` found it. -/
def Atomic (m : DispatchM E σ α) : Prop := ∀ s e t, m.run s = (.error e, t) → t = s

variable {m : DispatchM E σ α} {g : α → DispatchM E σ β}

theorem ReadOnly.atomic (h : ReadOnly m) : Atomic m := fun s _ _ hm => by
  simpa [hm] using h s

theorem Infallible.atomic (h : Infallible m) : Atomic m := fun s e t hm => absurd hm (h s e t)

/-- Reading first, then running an atomic rest, is atomic. -/
theorem Atomic.readOnly_bind (hm : ReadOnly m) (hg : ∀ a, Atomic (g a)) : Atomic (m >>= g) := by
  intro s e t h
  have hs := hm s
  rw [run_bind] at h
  rcases hr : m.run s with ⟨_ | a, u⟩ <;> simp only [hr] at hs h <;> subst hs
  · exact (Prod.mk.inj h).2.symm
  · exact hg a _ e t h

/-- An atomic step followed only by steps that cannot fail is atomic. -/
theorem Atomic.bind_infallible (hm : Atomic m) (hg : ∀ a, Infallible (g a)) :
    Atomic (m >>= g) := by
  intro s e t h
  rw [run_bind] at h
  rcases hr : m.run s with ⟨_ | a, u⟩ <;> simp only [hr] at h
  · exact hm s _ _ (hr.trans (by rw [(Prod.mk.inj h).2]))
  · exact absurd h (hg a u e t)

theorem Infallible.bind (hm : Infallible m) (hg : ∀ a, Infallible (g a)) :
    Infallible (m >>= g) := by
  intro s e t h
  rw [run_bind] at h
  rcases hr : m.run s with ⟨_ | a, u⟩ <;> simp only [hr] at h
  · exact hm s _ u hr
  · exact hg a u e t h

theorem readOnly_pure (a : α) : ReadOnly (pure a : DispatchM E σ α) := fun _ => rfl

theorem readOnly_throw (e : DispatchError E) : ReadOnly (throw e : DispatchM E σ α) := fun _ => rfl

theorem readOnly_read (f : σ → α) : ReadOnly (read f : DispatchM E σ α) := fun _ => rfl

theorem infallible_write (f : σ → σ) : Infallible (write f : DispatchM E σ Unit) :=
  fun _ _ _ h => by cases h

/-! ### Related states

`Respects R m`: run from two states related by `R`, `m` returns the same result and leaves
related states. Like atomicity it is built along a `do` block: a read must not tell related
states apart, and a write must keep them related. -/

/-- Related states give `m` the same result and stay related. -/
def Respects (R : σ → σ → Prop) (m : DispatchM E σ α) : Prop :=
  ∀ s t, R s t → (m.run s).1 = (m.run t).1 ∧ R (m.run s).2 (m.run t).2

variable {R : σ → σ → Prop}

theorem Respects.bind (hm : Respects R m) (hg : ∀ a, Respects R (g a)) : Respects R (m >>= g) := by
  intro s t hR
  obtain ⟨hEq, hR'⟩ := hm s t hR
  rw [run_bind, run_bind]
  rcases hs : m.run s with ⟨_ | a, s'⟩ <;> rcases ht : m.run t with ⟨_ | b, t'⟩ <;>
    simp only [hs, ht, Except.error.injEq, Except.ok.injEq, reduceCtorEq] at hEq hR' ⊢
  · exact ⟨hEq, hR'⟩
  · subst hEq
    exact hg a s' t' hR'

theorem respects_pure (a : α) : Respects R (pure a : DispatchM E σ α) := fun _ _ h => ⟨rfl, h⟩

theorem respects_throw (e : DispatchError E) : Respects R (throw e : DispatchM E σ α) :=
  fun _ _ h => ⟨rfl, h⟩

theorem respects_read {f : σ → α} (hf : ∀ s t, R s t → f s = f t) :
    Respects R (read f : DispatchM E σ α) := fun s t h => ⟨by rw [run_read, run_read, hf s t h], h⟩

theorem respects_write {f : σ → σ} (hf : ∀ s t, R s t → R (f s) (f t)) :
    Respects R (write f : DispatchM E σ Unit) := fun s t h => ⟨rfl, hf s t h⟩

end DispatchM

/-- `ensure!(condition, error)`. -/
def ensure {E σ : Type} (condition : Prop) [Decidable condition] (error : E) : DispatchM E σ Unit :=
  if condition then pure () else throw (.module error)

/-- `ensure_signed(origin)?`. -/
def ensureSigned {E σ AccountId : Type} : RawOrigin AccountId → DispatchM E σ AccountId
  | .signed who => pure who
  | _ => throw .badOrigin

/-- `option.ok_or(error)?`. -/
def okOr {E σ α : Type} (value : Option α) (error : DispatchError E) : DispatchM E σ α :=
  match value with
  | some a => pure a
  | none => throw error

@[simp] theorem run_ensure {E σ : Type} (c : Prop) [Decidable c] (e : E) (s : σ) :
    (ensure c e : DispatchM E σ Unit).run s = if c then (.ok (), s) else (.error (.module e), s) := by
  unfold ensure; split <;> rfl

@[simp] theorem run_ensureSigned {E σ AccountId : Type} (origin : RawOrigin AccountId) (s : σ) :
    (ensureSigned origin : DispatchM E σ AccountId).run s =
      match origin with
      | .signed who => (.ok who, s)
      | _ => (.error .badOrigin, s) := by
  cases origin <;> rfl

@[simp] theorem run_ensure_bind {E σ β : Type} (c : Prop) [Decidable c] (e : E)
    (g : Unit → DispatchM E σ β) (s : σ) :
    (ensure c e >>= g).run s = if c then (g ()).run s else (.error (.module e), s) := by
  unfold ensure; split <;> rfl

@[simp] theorem run_ensureSigned_bind {E σ β AccountId : Type} (origin : RawOrigin AccountId)
    (g : AccountId → DispatchM E σ β) (s : σ) :
    (ensureSigned origin >>= g).run s =
      match origin with
      | .signed who => (g who).run s
      | _ => (.error .badOrigin, s) := by
  cases origin <;> rfl

@[simp] theorem run_okOr_bind {E σ α β : Type} (value : Option α) (e : DispatchError E)
    (g : α → DispatchM E σ β) (s : σ) :
    (okOr value e >>= g).run s =
      match value with
      | some a => (g a).run s
      | none => (.error e, s) := by
  cases value <;> rfl

@[simp] theorem run_okOr {E σ α : Type} (value : Option α) (e : DispatchError E) (s : σ) :
    (okOr value e : DispatchM E σ α).run s =
      match value with
      | some a => (.ok a, s)
      | none => (.error e, s) := by
  cases value <;> rfl

theorem readOnly_ensure {E σ : Type} (c : Prop) [Decidable c] (e : E) :
    DispatchM.ReadOnly (ensure c e : DispatchM E σ Unit) := by
  intro s; unfold ensure; split <;> rfl

theorem readOnly_ensureSigned {E σ AccountId : Type} (origin : RawOrigin AccountId) :
    DispatchM.ReadOnly (ensureSigned origin : DispatchM E σ AccountId) := by
  intro s; cases origin <;> rfl

theorem readOnly_okOr {E σ α : Type} (value : Option α) (e : DispatchError E) :
    DispatchM.ReadOnly (okOr value e : DispatchM E σ α) := by
  intro s; cases value <;> rfl

section Respects

variable {E σ : Type} {R : σ → σ → Prop}

theorem respects_ensure (c : Prop) [Decidable c] (e : E) :
    DispatchM.Respects R (ensure c e : DispatchM E σ Unit) := by
  unfold ensure; split
  · exact DispatchM.respects_pure _
  · exact DispatchM.respects_throw _

theorem respects_ensureSigned {AccountId : Type} (origin : RawOrigin AccountId) :
    DispatchM.Respects R (ensureSigned origin : DispatchM E σ AccountId) := by
  cases origin
  · exact DispatchM.respects_throw _
  · exact DispatchM.respects_pure _
  · exact DispatchM.respects_throw _

theorem respects_okOr {α : Type} (value : Option α) (e : DispatchError E) :
    DispatchM.Respects R (okOr value e : DispatchM E σ α) := by
  cases value
  · exact DispatchM.respects_throw _
  · exact DispatchM.respects_pure _

end Respects

/-- `frame_support::traits::ExistenceRequirement`. -/
inductive ExistenceRequirement where
  | keepAlive
  | allowDeath
  deriving DecidableEq, Repr

/-- The `Currency` trait, over the balances state `β` of the runtime's currency pallet.
`transfer` returns the new balances, or `none` when it refuses: a refused transfer has no
effect, as `Currency::transfer` of `frame_support` returns an error without changing any
balance. Balances are unbounded naturals standing for the runtime's unsigned `Balance` type. -/
structure Currency (AccountId β : Type) where
  freeBalance : β → AccountId → Nat
  transfer : AccountId → AccountId → Nat → ExistenceRequirement → β → Option β

end ProportionalAsset
