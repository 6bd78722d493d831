import ProportionalAsset.Supply
import ProportionalAsset.Records

/-! The ownership ledger the pallet is for, and that the pallet keeps it. The ledger forgets
offers, prices, balances and events: it records how many shares of each asset each account
holds, and each asset's main owner. Five steps change it: nothing; issuing the 100 shares of
a new asset to its creator; the caller giving some of its own shares to another account; the
caller buying shares of the asset's main owner; and a caller holding more than 50 shares
taking over the main ownership of an existing asset. On runs without the two defective calls
(creating an asset that exists, transferring to oneself), every call of the pallet is one of
these steps by its own origin; no saturation happens, since an asset's shares sum to 100.
From any state, with no run assumed: an account's shares leave it only by its own transfer,
or by a purchase from it as main owner of no more than it offered. -/

namespace ProportionalAsset

variable {Identifier AccountId β : Type} [DecidableEq Identifier] [DecidableEq AccountId]

/-- Who holds how many shares of each asset, and each asset's main owner. -/
structure Ledger (Identifier AccountId : Type) where
  holding : Identifier → AccountId → Nat
  mainOwner : Identifier → Option AccountId

namespace Ledger

/-- No asset exists. -/
def empty : Ledger Identifier AccountId := ⟨fun _ _ => 0, fun _ => none⟩

/-- The 100 shares of the new asset `id` go to `who`, who becomes its main owner. -/
def issue (l : Ledger Identifier AccountId) (id : Identifier) (who : AccountId) :
    Ledger Identifier AccountId :=
  { holding := fun id' w => if id' = id ∧ w = who then 100 else l.holding id' w,
    mainOwner := fun id' => if id' = id then some who else l.mainOwner id' }

/-- `k` shares of `id` go from `a` to `b`. -/
def move (l : Ledger Identifier AccountId) (id : Identifier) (a b : AccountId) (k : Nat) :
    Ledger Identifier AccountId :=
  { l with
    holding := fun id' w =>
      if id' = id ∧ w = a then l.holding id a - k
      else if id' = id ∧ w = b then l.holding id b + k
      else l.holding id' w }

/-- `who` becomes the main owner of `id`. -/
def setMainOwner (l : Ledger Identifier AccountId) (id : Identifier) (who : AccountId) :
    Ledger Identifier AccountId :=
  { l with mainOwner := fun id' => if id' = id then some who else l.mainOwner id' }

/-- What one call by `origin` may do to the ledger. -/
inductive Step (l : Ledger Identifier AccountId) :
    RawOrigin AccountId → Ledger Identifier AccountId → Prop
  | stay (origin : RawOrigin AccountId) : Step l origin l
  | issue {who : AccountId} (id : Identifier) (hFresh : l.mainOwner id = none) :
      Step l (.signed who) (l.issue id who)
  | give {who : AccountId} (id : Identifier) (recipient : AccountId) (k : Nat)
      (hne : recipient ≠ who) (hk : k ≤ l.holding id who) :
      Step l (.signed who) (l.move id who recipient k)
  | sell {who : AccountId} (id : Identifier) (seller : AccountId) (k : Nat)
      (hOwner : l.mainOwner id = some seller) (hne : seller ≠ who) (hk : k ≤ l.holding id seller) :
      Step l (.signed who) (l.move id seller who k)
  | claim {who : AccountId} (id : Identifier) (hOwner : (l.mainOwner id).isSome)
      (hMajority : 50 < l.holding id who) :
      Step l (.signed who) (l.setMainOwner id who)

/-- The ledgers that steps reach from the empty one. -/
inductive Reachable : Ledger Identifier AccountId → Prop
  | empty : Reachable empty
  | step {l l' : Ledger Identifier AccountId} (origin : RawOrigin AccountId) :
      Reachable l → Step l origin l' → Reachable l'

end Ledger

/-- The ledger a state stores: every account's shares of every asset, and the main owners. -/
def State.ledger (s : State Identifier AccountId β) : Ledger Identifier AccountId :=
  ⟨s.sharesOf, s.mainOwner⟩

theorem State.sharesOf_setMetadata (s : State Identifier AccountId β) (id id' : Identifier)
    (who who' : AccountId) (m : MetaData) :
    (s.setMetadata id who (some m)).sharesOf id' who' =
      if id' = id ∧ who' = who then m.shares.toNat else s.sharesOf id' who' := by
  simp only [State.sharesOf, State.metadata_setMetadata]
  split <;> rfl

@[simp] theorem State.sharesOf_setMainOwner (s : State Identifier AccountId β) (id : Identifier)
    (owner : Option AccountId) : (s.setMainOwner id owner).sharesOf = s.sharesOf := rfl

theorem State.sharesOf_lt_size (s : State Identifier AccountId β) (id : Identifier)
    (who : AccountId) : s.sharesOf id who < UInt64.size := by
  rcases h : s.metadata id who with _ | m
  · simp [State.sharesOf, h]
  · simpa [State.sharesOf, h] using m.shares.toNat_lt_size

variable {cfg : Config Identifier AccountId β} {s s' : State Identifier AccountId β}

/-- An offer rewrites the caller's record with the shares it held. -/
theorem offerShares_sharesOf {origin : RawOrigin AccountId} {id : Identifier}
    {sharesToOffer sharePrice : UInt64} {r : Unit}
    (h : (offerShares origin id sharesToOffer sharePrice).run s = (.ok r, s')) :
    s'.sharesOf = s.sharesOf := by
  obtain ⟨who, m, -, -, hm, -, rfl⟩ := offerShares_ok origin h
  funext id' w
  simp only [State.sharesOf_depositEvent, State.sharesOf_setMetadata]
  split
  · obtain ⟨rfl, rfl⟩ := ‹_ ∧ _›
    exact (State.sharesOf_of_metadata s hm).symm
  · rfl

theorem TouchesOnly.sharesOf_eq {id id' : Identifier} {a b w : AccountId}
    (hTouch : TouchesOnly s s' id a b) (hA : ¬(id' = id ∧ w = a)) (hB : ¬(id' = id ∧ w = b)) :
    s'.sharesOf id' w = s.sharesOf id' w := by
  simp only [State.sharesOf,
    hTouch.2 id' w fun h => h.2.elim (fun hw => hA ⟨h.1, hw⟩) fun hw => hB ⟨h.1, hw⟩]

/-- A state that differs from `s` only in the records of `id` held by `a` and `b`, where `a`
has `k` shares fewer and `b` has `k` more, stores the ledger of `s` with `k` shares moved. -/
theorem ledger_eq_move {id : Identifier} {a b : AccountId} {k : Nat}
    (hTouch : TouchesOnly s s' id a b) (hne : b ≠ a) (ha : s'.sharesOf id a + k = s.sharesOf id a)
    (hb : s'.sharesOf id b = s.sharesOf id b + k) : s'.ledger = s.ledger.move id a b k := by
  simp only [State.ledger, Ledger.move, Ledger.mk.injEq]
  refine ⟨funext fun id' => funext fun w => ?_, funext hTouch.1⟩
  by_cases hA : id' = id ∧ w = a
  · obtain ⟨rfl, rfl⟩ := hA
    simp only [and_self, if_true]
    omega
  by_cases hB : id' = id ∧ w = b
  · obtain ⟨rfl, rfl⟩ := hB
    simp only [hb, hne, true_and, if_false, if_true]
  · simp only [hA, hB, if_false]
    exact hTouch.sharesOf_eq hA hB

/-- One call from a state of a run without the defective calls, itself not one of them, is one
ledger step by its origin. -/
theorem ledgerStep_dispatch (h : ReachableAvoiding cfg (BreaksSupply cfg) s)
    {origin : RawOrigin AccountId} {call : Call Identifier AccountId}
    {r : Except (DispatchError Error) Unit} (hClean : ¬ BreaksSupply cfg s origin call)
    (hStep : (dispatch cfg origin call).run s = (r, s')) :
    Ledger.Step s.ledger origin s'.ledger := by
  rcases r with e | ⟨⟩
  · rw [dispatch_atomic cfg origin call s e s' hStep]
    exact .stay origin
  have hSupply := supplyConserved_of_avoiding h
  cases call with
  | createProportionalAsset data sharePrice =>
      obtain ⟨who, rfl, -, hs'⟩ := createProportionalAsset_ok cfg _ hStep
      have hFresh : s.mainOwner (cfg.hashing data) = none := by simpa [BreaksSupply] using hClean
      have hLedger : s'.ledger = s.ledger.issue (cfg.hashing data) who := by
        subst hs'
        simp only [State.ledger, Ledger.issue, Ledger.mk.injEq]
        exact ⟨funext fun _ => funext fun _ => by simp [State.sharesOf_setMetadata], funext fun _ => by simp⟩
      exact hLedger ▸ .issue _ hFresh
  | offerShares id sharesToOffer sharePrice =>
      obtain ⟨_, _, -, -, -, -, hs'⟩ := offerShares_ok origin hStep
      have hLedger : s'.ledger = s.ledger := by
        rw [State.ledger, offerShares_sharesOf hStep, hs']
        rfl
      exact hLedger ▸ .stay _
  | transferSharesToAccount id amount recipient =>
      obtain ⟨who, m, rfl, hm, hle, hs'⟩ := transferSharesToAccount_ok _ hStep
      have hne : recipient ≠ who := fun hEq => hClean (by simp [BreaksSupply, hEq])
      have hOwner := recordsHaveOwner_of_reachable h.reachable id who (by simp [hm])
      have hBound : totalShares s id ≤ UInt64.size - 1 := by simp [hSupply id hOwner]
      obtain ⟨-, hSender, hRecipient⟩ := transferSharesToAccount_conserves hBound hne hStep
      rw [ledger_eq_move (hs' ▸ touchesOnly_setMetadata_setMetadata ..) hne hSender hRecipient]
      exact .give id recipient _ hne (by dsimp only [State.ledger]; omega)
  | buyShares id sharesToBuy amount seller =>
      obtain ⟨who, m, b, rfl, hne, hOwner, hm, -, -, -, -, -, hs'⟩ := buyShares_ok cfg _ hStep
      have hBound : totalShares s id ≤ UInt64.size - 1 := by simp [hSupply id (by simp [hOwner])]
      obtain ⟨-, hSeller, hBuyer⟩ := buyShares_conserves cfg hBound hStep
      have hTouch : TouchesOnly s s' id seller who :=
        hs' ▸ touchesOnly_setMetadata_setMetadata (s := { s with balances := b }) ..
      rw [ledger_eq_move hTouch hne hSeller hBuyer]
      exact .sell id seller _ hOwner (Ne.symm hne) (by dsimp only [State.ledger]; omega)
  | claimOnwership id =>
      obtain ⟨who, owner, m, rfl, hOwner, -, hm, hgt, hs'⟩ := claimOnwership_ok origin hStep
      have hMajority : 50 < s.sharesOf id who := by
        rw [State.sharesOf_of_metadata s hm]
        exact UInt64.lt_iff_toNat_lt.mp hgt
      have hLedger : s'.ledger = s.ledger.setMainOwner id who := by
        subst hs'
        simp only [State.ledger, Ledger.setMainOwner, Ledger.mk.injEq]
        exact ⟨rfl, funext fun _ => by simp⟩
      exact hLedger ▸ .claim id (by simp [State.ledger, hOwner]) hMajority

/-- On runs without the two defective calls the pallet keeps the ownership ledger: the ledger of
every state of such a run is reached from the empty ledger by ledger steps, and each further
call that avoids them, by any origin and failed or not, does to the holdings and main owners
what one ledger step by that origin does. -/
theorem ledger_refinement (h : ReachableAvoiding cfg (BreaksSupply cfg) s) :
    Ledger.Reachable s.ledger ∧
    ∀ (origin : RawOrigin AccountId) (call : Call Identifier AccountId) r s',
      ¬ BreaksSupply cfg s origin call → (dispatch cfg origin call).run s = (r, s') →
        Ledger.Step s.ledger origin s'.ledger := by
  refine ⟨?_, fun _ _ _ _ hClean hStep => ledgerStep_dispatch h hClean hStep⟩
  induction h with
  | genesis balances => exact .empty
  | dispatch origin call hPrev hClean ih =>
      exact .step origin ih (ledgerStep_dispatch hPrev hClean Prod.mk.eta.symm)

/-- Account 1 creates the mock asset and gives 40 shares to account 2. -/
theorem ledger_refinement_of_transfer :
    (let s := ((dispatch Mock.config (.signed 1)
      (.transferSharesToAccount (Mock.hashing Mock.testData) 40 2)).run
      ((dispatch Mock.config (.signed 1) (.createProportionalAsset Mock.testData 10)).run
        (genesis Mock.initialBalances)).2).2
    ReachableAvoiding Mock.config (BreaksSupply Mock.config) s ∧ Ledger.Reachable s.ledger) :=
  have h : ReachableAvoiding Mock.config (BreaksSupply Mock.config) _ :=
    .dispatch _ _ (.dispatch _ _ (.genesis _) (by decide)) (by decide)
  ⟨h, (ledger_refinement h).1⟩

/-! ### Shares leave an account only with its consent -/

/-- In any state, a call after which `a` holds fewer shares of `id` than before is a transfer
of `id` signed by `a`, or a purchase of `id` from `a` as its main owner, which takes no more
than `a` offered. Every other record a call writes holds at least the shares it held. -/
theorem shares_leave_only_with_consent {origin : RawOrigin AccountId}
    {call : Call Identifier AccountId} {r : Except (DispatchError Error) Unit}
    (hStep : (dispatch cfg origin call).run s = (r, s')) {id : Identifier} {a : AccountId}
    (hlt : s'.sharesOf id a < s.sharesOf id a) :
    (origin = .signed a ∧ ∃ amount recipient, call = .transferSharesToAccount id amount recipient) ∨
    ∃ buyer sharesToBuy amount m, origin = .signed buyer ∧
      call = .buyShares id sharesToBuy amount a ∧ s.mainOwner id = some a ∧
      s.metadata id a = some m ∧ s.sharesOf id a - s'.sharesOf id a ≤ m.offers.toNat := by
  rcases r with e | ⟨⟩
  · rw [dispatch_atomic cfg origin call s e s' hStep] at hlt
    exact absurd hlt (lt_irrefl _)
  cases call with
  | createProportionalAsset data sharePrice =>
      obtain ⟨who, rfl, hm, rfl⟩ := createProportionalAsset_ok cfg _ hStep
      simp only [State.sharesOf_depositEvent, State.sharesOf_setMainOwner,
        State.sharesOf_setMetadata] at hlt
      split at hlt
      · obtain ⟨rfl, rfl⟩ := ‹_ ∧ _›
        simp [State.sharesOf, hm] at hlt
      · exact absurd hlt (lt_irrefl _)
  | offerShares id' sharesToOffer sharePrice =>
      rw [offerShares_sharesOf hStep] at hlt
      exact absurd hlt (lt_irrefl _)
  | transferSharesToAccount id' amount recipient =>
      obtain ⟨who, m, rfl, -, -, hs'⟩ := transferSharesToAccount_ok _ hStep
      by_cases hSender : id = id' ∧ a = who
      · obtain ⟨rfl, rfl⟩ := hSender
        exact .inl ⟨rfl, amount, recipient, rfl⟩
      by_cases hRecipient : id = id' ∧ a = recipient
      · obtain ⟨rfl, rfl⟩ := hRecipient
        have hGain := (transferSharesToAccount_accounting hStep fun h => hSender ⟨rfl, h⟩).2.1
        have := State.sharesOf_lt_size s id a
        omega
      · have hTouch : TouchesOnly s s' id' who recipient :=
          hs' ▸ touchesOnly_setMetadata_setMetadata ..
        rw [hTouch.sharesOf_eq hSender hRecipient] at hlt
        exact absurd hlt (lt_irrefl _)
  | buyShares id' sharesToBuy amount seller =>
      obtain ⟨who, m, b, rfl, -, hOwner, hm, -, hOffers, -, -, -, hs'⟩ := buyShares_ok cfg _ hStep
      by_cases hSeller : id = id' ∧ a = seller
      · obtain ⟨rfl, rfl⟩ := hSeller
        have hLoss := (buyShares_accounting cfg hStep).1
        rw [UInt64.le_iff_toNat_le] at hOffers
        exact .inr ⟨who, sharesToBuy, amount, m, rfl, rfl, hOwner, hm, by omega⟩
      by_cases hBuyer : id = id' ∧ a = who
      · obtain ⟨rfl, rfl⟩ := hBuyer
        have hGain := (buyShares_accounting cfg hStep).2.1
        have := State.sharesOf_lt_size s id a
        omega
      · have hTouch : TouchesOnly s s' id' seller who :=
          hs' ▸ touchesOnly_setMetadata_setMetadata (s := { s with balances := b }) ..
        rw [hTouch.sharesOf_eq hSeller hBuyer] at hlt
        exact absurd hlt (lt_irrefl _)
  | claimOnwership id' =>
      obtain ⟨who, owner, m, rfl, -, -, -, -, rfl⟩ := claimOnwership_ok _ hStep
      exact absurd hlt (lt_irrefl _)

/-- Account 1 creates the mock asset at price 2 and offers 5 shares; account 2 buys 2 of them
for 4. -/
theorem shares_leave_only_with_consent_of_purchase :
    (let s := execute Mock.config [(.signed 1, .createProportionalAsset Mock.testData 2),
      (.signed 1, .offerShares (Mock.hashing Mock.testData) 5 2)] (genesis Mock.initialBalances)
    let call : Call Mock.Hash Mock.AccountId := .buyShares (Mock.hashing Mock.testData) 2 4 1
    let r := (dispatch Mock.config (.signed 2) call).run s
    r = (r.1, r.2) ∧
      r.2.sharesOf (Mock.hashing Mock.testData) 1 < s.sharesOf (Mock.hashing Mock.testData) 1 ∧
      ((RawOrigin.signed 2 = .signed 1 ∧
        ∃ amount recipient, call = .transferSharesToAccount (Mock.hashing Mock.testData) amount recipient) ∨
      ∃ buyer sharesToBuy amount m, RawOrigin.signed 2 = .signed buyer ∧
        call = .buyShares (Mock.hashing Mock.testData) sharesToBuy amount 1 ∧
        s.mainOwner (Mock.hashing Mock.testData) = some 1 ∧
        s.metadata (Mock.hashing Mock.testData) 1 = some m ∧
        s.sharesOf (Mock.hashing Mock.testData) 1 - r.2.sharesOf (Mock.hashing Mock.testData) 1 ≤
          m.offers.toNat)) := by
  intro s call r
  have h : r = (r.1, r.2) := rfl
  have hlt : r.2.sharesOf (Mock.hashing Mock.testData) 1 < s.sharesOf (Mock.hashing Mock.testData) 1 := by
    decide
  exact ⟨h, hlt, shares_leave_only_with_consent h hlt⟩

end ProportionalAsset
