import ProportionalAsset.Machine

/-! Shares of an asset summed over all its records. Every call but two keeps the sum: a
creation by an account with no record of an existing asset adds a second `TOTAL_SUPPLY`,
and a transfer to the sender itself loses the amount, since the sender's write overwrites
the recipient's. Runs without these two calls conserve `TOTAL_SUPPLY`. -/

namespace ProportionalAsset

variable {Identifier AccountId β : Type} [DecidableEq Identifier] [DecidableEq AccountId]

/-- The shares of asset `id`, summed over every account's record. -/
def totalShares (s : State Identifier AccountId β) (id : Identifier) : Nat :=
  s.proportionalAssetToOwnerToMetadata.total fun key m => if key.1 = id then m.shares.toNat else 0

/-- The shares `who` holds of `id`; zero without a record. -/
def State.sharesOf (s : State Identifier AccountId β) (id : Identifier) (who : AccountId) : Nat :=
  ((s.metadata id who).map (·.shares.toNat)).getD 0

namespace State

variable (s : State Identifier AccountId β)

/-- Writing a record of `id` replaces its old shares by the new ones in the total. -/
theorem totalShares_setMetadata_add (id : Identifier) (who : AccountId) (m : MetaData) :
    totalShares (s.setMetadata id who (some m)) id + s.sharesOf id who =
      totalShares s id + m.shares.toNat := by
  simpa [totalShares, sharesOf, setMetadata, metadata, StorageDoubleMap.set,
    StorageDoubleMap.get] using
    StorageMap.total_set_some_add s.proportionalAssetToOwnerToMetadata
      (fun key m => if key.1 = id then m.shares.toNat else 0) (id, who) m

/-- A record of another asset leaves the total of `id` alone. -/
theorem totalShares_setMetadata_ne {id id' : Identifier} (h : id ≠ id') (who : AccountId)
    (m : MetaData) : totalShares (s.setMetadata id who (some m)) id' = totalShares s id' := by
  have := StorageMap.total_set_some_add s.proportionalAssetToOwnerToMetadata
    (fun key m => if key.1 = id' then m.shares.toNat else 0) (id, who) m
  rcases hg : StorageMap.get s.proportionalAssetToOwnerToMetadata (id, who) <;>
    simpa [totalShares, setMetadata, StorageDoubleMap.set, h, hg] using this

omit [DecidableEq AccountId] in
@[simp] theorem totalShares_setMainOwner (id : Identifier) (owner : Option AccountId)
    (id' : Identifier) : totalShares (s.setMainOwner id owner) id' = totalShares s id' := rfl

omit [DecidableEq AccountId] in
@[simp] theorem totalShares_depositEvent (e : Event Identifier AccountId) (id : Identifier) :
    totalShares (s.depositEvent e) id = totalShares s id := rfl

omit [DecidableEq AccountId] in
@[simp] theorem totalShares_balances (balances : β) (id : Identifier) :
    totalShares { s with balances } id = totalShares s id := rfl

@[simp] theorem sharesOf_setMetadata_self (id : Identifier) (who : AccountId) (m : MetaData) :
    (s.setMetadata id who (some m)).sharesOf id who = m.shares.toNat := by
  simp [sharesOf]

theorem sharesOf_setMetadata_ne {id id' : Identifier} {who who' : AccountId}
    (h : ¬(id' = id ∧ who' = who)) (m : Option MetaData) :
    (s.setMetadata id who m).sharesOf id' who' = s.sharesOf id' who' := by
  simp [sharesOf, metadata_setMetadata, h]

@[simp] theorem sharesOf_depositEvent (e : Event Identifier AccountId) :
    (s.depositEvent e).sharesOf = s.sharesOf := rfl

@[simp] theorem sharesOf_balances (balances : β) :
    ({ s with balances } : State Identifier AccountId β).sharesOf = s.sharesOf := rfl

theorem sharesOf_of_metadata {id : Identifier} {who : AccountId} {m : MetaData}
    (h : s.metadata id who = some m) : s.sharesOf id who = m.shares.toNat := by
  simp [sharesOf, h]

end State

variable {s s' : State Identifier AccountId β}

theorem sharesOf_le_totalShares (id : Identifier) (who : AccountId) :
    s.sharesOf id who ≤ totalShares s id := by
  rcases h : s.metadata id who with _ | m
  · simp [State.sharesOf, h]
  · simpa [State.sharesOf, h] using StorageMap.le_total_of_get
      (fun key m => if key.1 = id then m.shares.toNat else 0) h

/-- The total after a write: the old shares out, the new ones in. -/
@[simp] theorem totalShares_setMetadata (id id' : Identifier) (who : AccountId) (m : MetaData) :
    totalShares (s.setMetadata id who (some m)) id' =
      if id = id' then totalShares s id' - s.sharesOf id who + m.shares.toNat
      else totalShares s id' := by
  by_cases hid : id = id'
  · subst hid
    have := s.totalShares_setMetadata_add id who m
    have := sharesOf_le_totalShares (s := s) id who
    simp only [if_true]
    omega
  · simp only [hid, if_false]
    exact s.totalShares_setMetadata_ne hid who m

/-- Two accounts' shares of one asset together are at most its total. -/
theorem sharesOf_add_le_totalShares (id : Identifier) {a b : AccountId} (hne : a ≠ b) :
    s.sharesOf id a + s.sharesOf id b ≤ totalShares s id := by
  rcases ha : s.metadata id a with _ | ma
  · simpa [State.sharesOf, ha] using sharesOf_le_totalShares id b
  rcases hb : s.metadata id b with _ | mb
  · simpa [State.sharesOf, hb] using sharesOf_le_totalShares id a
  have hKey : ((id, a) : Identifier × AccountId) ≠ (id, b) := by simpa using hne
  simpa [State.sharesOf, ha, hb] using StorageMap.add_le_total_of_get
    (fun key m => if key.1 = id then m.shares.toNat else 0) hKey ha hb

theorem totalShares_eq_zero {id : Identifier} (h : ∀ who, s.metadata id who = none) :
    totalShares s id = 0 :=
  StorageMap.total_eq_zero _ (fun key => key.1 = id) (fun _ _ hk => if_neg hk)
    fun key hk => by obtain ⟨id', who⟩ := key; subst hk; exact h who

/-- Moving `k` shares of `id` from `giver` to another account `taker`: the taker's record is
written first with `received` shares, then the giver's with `k` fewer. The giver loses
exactly `k`; the taker gains `k` up to `u64` saturation, and the total changes only by what
saturation cuts off. -/
theorem sharesOf_move {giver taker : AccountId} {id : Identifier} {k : UInt64} {g : MetaData}
    (hne : taker ≠ giver) (hg : s.metadata id giver = some g) (hk : k ≤ g.shares)
    (t g' : MetaData)
    (ht : t.shares = match s.metadata id taker with
      | none => k
      | some n => n.shares.saturatingAdd k)
    (hg' : g'.shares = g.shares.saturatingSub k) :
    ((s.setMetadata id taker (some t)).setMetadata id giver (some g')).sharesOf id giver + k.toNat =
      s.sharesOf id giver ∧
    ((s.setMetadata id taker (some t)).setMetadata id giver (some g')).sharesOf id taker =
      min (s.sharesOf id taker + k.toNat) (UInt64.size - 1) ∧
    totalShares ((s.setMetadata id taker (some t)).setMetadata id giver (some g')) id +
      s.sharesOf id taker + k.toNat =
      totalShares s id + ((s.setMetadata id taker (some t)).setMetadata id giver (some g')).sharesOf id taker := by
  rw [UInt64.le_iff_toNat_le] at hk
  have hTaker : t.shares.toNat = min (s.sharesOf id taker + k.toNat) (UInt64.size - 1) := by
    have := k.toNat_lt_size
    rcases hr : s.metadata id taker with _ | n
    · simp only [ht, hr, State.sharesOf, Option.map_none', Option.getD_none]
      omega
    · simp [ht, hr, State.sharesOf]
  have hBound := sharesOf_add_le_totalShares (s := s) id hne
  have hGiver := State.sharesOf_of_metadata s hg
  have hSkip : (s.setMetadata id taker (some t)).sharesOf id giver = s.sharesOf id giver :=
    State.sharesOf_setMetadata_ne s (fun h => hne h.2.symm) _
  simp only [State.sharesOf_setMetadata_self, State.sharesOf_setMetadata_ne _
    (fun h : id = id ∧ taker = giver => hne h.2), totalShares_setMetadata, ↓reduceIte, hSkip, hg',
    UInt64.toNat_saturatingSub, hTaker]
  exact ⟨by omega, trivial, by omega⟩

/-! ### Accounting, call by call -/

section Accounting

variable (cfg : Config Identifier AccountId β) {origin : RawOrigin AccountId}

theorem totalShares_createProportionalAsset {data : List UInt8} {sharePrice : UInt64}
    (h : (createProportionalAsset cfg origin data sharePrice).run s = (.ok (), s'))
    (id : Identifier) :
    totalShares s' id = totalShares s id + if cfg.hashing data = id then 100 else 0 := by
  obtain ⟨who, -, hNone, rfl⟩ := createProportionalAsset_ok cfg origin h
  have : s.sharesOf (cfg.hashing data) who = 0 := by simp [State.sharesOf, hNone]
  split <;> simp_all

theorem totalShares_offerShares {id : Identifier} {sharesToOffer sharePrice : UInt64}
    (h : (offerShares origin id sharesToOffer sharePrice).run s = (.ok (), s'))
    (id' : Identifier) : totalShares s' id' = totalShares s id' := by
  obtain ⟨who, m, -, -, hm, -, rfl⟩ := offerShares_ok origin h
  have := sharesOf_le_totalShares (s := s) id who
  rw [State.sharesOf_of_metadata s hm] at this
  simp only [State.totalShares_depositEvent, totalShares_setMetadata, State.sharesOf_of_metadata s hm]
  by_cases hid : id = id'
  · subst hid; simp only [if_true]; omega
  · simp [hid]

theorem totalShares_claimOnwership {id : Identifier}
    (h : (claimOnwership origin id).run s = (.ok (), s')) (id' : Identifier) :
    totalShares s' id' = totalShares s id' := by
  obtain ⟨_, _, _, -, -, -, -, -, rfl⟩ := claimOnwership_ok origin h
  simp

/-- A transfer to another account moves `amount` off the sender exactly, and onto the
recipient up to `u64` saturation; the total changes only by what saturation cuts off. -/
theorem transferSharesToAccount_accounting {who recipient : AccountId} {id : Identifier}
    {amount : UInt64}
    (h : (transferSharesToAccount (.signed who) id amount recipient).run s = (.ok (), s'))
    (hne : recipient ≠ who) :
    s'.sharesOf id who + amount.toNat = s.sharesOf id who ∧
    s'.sharesOf id recipient = min (s.sharesOf id recipient + amount.toNat) (UInt64.size - 1) ∧
    totalShares s' id + s.sharesOf id recipient + amount.toNat =
      totalShares s id + s'.sharesOf id recipient := by
  obtain ⟨_, m, hWho, hm, hle, rfl⟩ := transferSharesToAccount_ok (.signed who) h
  cases hWho
  simp only [State.sharesOf_depositEvent, State.totalShares_depositEvent]
  exact sharesOf_move hne hm hle _ _ (by cases s.metadata id recipient <;> rfl) rfl

/-- A transfer to the sender itself loses `amount`: the sender's write replaces the
recipient's. -/
theorem transferSharesToAccount_self {who : AccountId} {id : Identifier} {amount : UInt64}
    (h : (transferSharesToAccount (.signed who) id amount who).run s = (.ok (), s')) :
    s'.sharesOf id who + amount.toNat = s.sharesOf id who ∧
    totalShares s' id + amount.toNat = totalShares s id := by
  obtain ⟨_, m, hWho, hm, hle, rfl⟩ := transferSharesToAccount_ok (.signed who) h
  cases hWho
  rw [UInt64.le_iff_toNat_le] at hle
  have hBound := sharesOf_le_totalShares (s := s) id who
  have hSender := State.sharesOf_of_metadata s hm
  simp only [State.sharesOf_depositEvent, State.sharesOf_setMetadata_self, State.totalShares_depositEvent,
    totalShares_setMetadata, ↓reduceIte, UInt64.toNat_saturatingSub, hSender] at hBound ⊢
  omega

/-- Account 1 sends 30 of the mock asset's shares to itself. -/
theorem transferSharesToAccount_self_of_mock :
    let s := execute Mock.config [(.signed 1, .createProportionalAsset Mock.testData 10)]
      (genesis Mock.initialBalances)
    let r := (transferSharesToAccount (.signed 1) (Mock.hashing Mock.testData) 30 1).run s
    r = (.ok (), r.2) ∧
    r.2.sharesOf (Mock.hashing Mock.testData) 1 + (30 : UInt64).toNat =
      s.sharesOf (Mock.hashing Mock.testData) 1 ∧
    totalShares r.2 (Mock.hashing Mock.testData) + (30 : UInt64).toNat =
      totalShares s (Mock.hashing Mock.testData) :=
  ⟨rfl, transferSharesToAccount_self rfl⟩

/-- A purchase moves `sharesToBuy` off the seller exactly, and onto the buyer up to `u64`
saturation; the total changes only by what saturation cuts off. -/
theorem buyShares_accounting {who : AccountId} {id : Identifier} {sharesToBuy : UInt64}
    {amount : Nat} {seller : AccountId}
    (h : (buyShares cfg (.signed who) id sharesToBuy amount seller).run s = (.ok (), s')) :
    s'.sharesOf id seller + sharesToBuy.toNat = s.sharesOf id seller ∧
    s'.sharesOf id who = min (s.sharesOf id who + sharesToBuy.toNat) (UInt64.size - 1) ∧
    totalShares s' id + s.sharesOf id who + sharesToBuy.toNat =
      totalShares s id + s'.sharesOf id who := by
  obtain ⟨_, m, b, hWho, hne, -, hm, hle, -, -, -, -, rfl⟩ := buyShares_ok cfg (.signed who) h
  cases hWho
  simp only [State.sharesOf_depositEvent, State.totalShares_depositEvent]
  exact sharesOf_move (s := { s with balances := b }) hne hm hle _ _
    (by simp only [State.metadata_balances]; cases s.metadata id who <;> rfl) rfl

/-- Below the `u64` bound nothing saturates: a transfer to another account conserves the
total and moves exactly `amount`. -/
theorem transferSharesToAccount_conserves {who recipient : AccountId} {id : Identifier}
    {amount : UInt64} (hBound : totalShares s id ≤ UInt64.size - 1) (hne : recipient ≠ who)
    (h : (transferSharesToAccount (.signed who) id amount recipient).run s = (.ok (), s')) :
    totalShares s' id = totalShares s id ∧ s'.sharesOf id who + amount.toNat = s.sharesOf id who ∧
      s'.sharesOf id recipient = s.sharesOf id recipient + amount.toNat := by
  obtain ⟨hSender, hRecipient, hTotal⟩ := transferSharesToAccount_accounting h hne
  have := sharesOf_add_le_totalShares (s := s) id hne
  omega

/-- Below the `u64` bound a purchase conserves the total and moves exactly `sharesToBuy`. -/
theorem buyShares_conserves {who : AccountId} {id : Identifier} {sharesToBuy : UInt64}
    {amount : Nat} {seller : AccountId} (hBound : totalShares s id ≤ UInt64.size - 1)
    (h : (buyShares cfg (.signed who) id sharesToBuy amount seller).run s = (.ok (), s')) :
    totalShares s' id = totalShares s id ∧
      s'.sharesOf id seller + sharesToBuy.toNat = s.sharesOf id seller ∧
      s'.sharesOf id who = s.sharesOf id who + sharesToBuy.toNat := by
  obtain ⟨_, _, _, hWho, hne, -⟩ := buyShares_ok cfg _ h
  cases hWho
  obtain ⟨hSeller, hBuyer, hTotal⟩ := buyShares_accounting cfg h
  have := sharesOf_add_le_totalShares (s := s) id hne
  omega

end Accounting

/-! ### Transfers and purchases between two accounts -/

/-- While the total of `id` fits in a `u64`, a transfer between two distinct accounts and a
purchase neither mint nor burn shares: the sender loses exactly what the recipient gains. -/
theorem transfers_and_purchases_conserve (cfg : Config Identifier AccountId β)
    (s : State Identifier AccountId β) (id : Identifier)
    (hBound : totalShares s id ≤ UInt64.size - 1) :
    (∀ who amount recipient (s' : State Identifier AccountId β), recipient ≠ who →
      (transferSharesToAccount (.signed who) id amount recipient).run s = (.ok (), s') →
      totalShares s' id = totalShares s id ∧ s'.sharesOf id who + amount.toNat = s.sharesOf id who ∧
      s'.sharesOf id recipient = s.sharesOf id recipient + amount.toNat) ∧
    (∀ who sharesToBuy amount seller (s' : State Identifier AccountId β),
      (buyShares cfg (.signed who) id sharesToBuy amount seller).run s = (.ok (), s') →
      totalShares s' id = totalShares s id ∧
      s'.sharesOf id seller + sharesToBuy.toNat = s.sharesOf id seller ∧
      s'.sharesOf id who = s.sharesOf id who + sharesToBuy.toNat) :=
  ⟨fun _ _ _ _ hne h => transferSharesToAccount_conserves hBound hne h,
    fun _ _ _ _ _ h => buyShares_conserves cfg hBound h⟩

/-- The mock asset after its creation: 100 shares, all held by account 1. -/
theorem transfers_and_purchases_conserve_of_mock :
    let s := execute Mock.config [(.signed 1, .createProportionalAsset Mock.testData 10)]
      (genesis Mock.initialBalances)
    totalShares s (Mock.hashing Mock.testData) ≤ UInt64.size - 1 ∧
    (∀ who amount recipient (s' : State Mock.Hash Mock.AccountId Mock.Balances), recipient ≠ who →
      (transferSharesToAccount (.signed who) (Mock.hashing Mock.testData) amount recipient).run s =
        (.ok (), s') →
      totalShares s' (Mock.hashing Mock.testData) = totalShares s (Mock.hashing Mock.testData) ∧
      s'.sharesOf (Mock.hashing Mock.testData) who + amount.toNat =
        s.sharesOf (Mock.hashing Mock.testData) who ∧
      s'.sharesOf (Mock.hashing Mock.testData) recipient =
        s.sharesOf (Mock.hashing Mock.testData) recipient + amount.toNat) ∧
    (∀ who sharesToBuy amount seller (s' : State Mock.Hash Mock.AccountId Mock.Balances),
      (buyShares Mock.config (.signed who) (Mock.hashing Mock.testData) sharesToBuy amount
        seller).run s = (.ok (), s') →
      totalShares s' (Mock.hashing Mock.testData) = totalShares s (Mock.hashing Mock.testData) ∧
      s'.sharesOf (Mock.hashing Mock.testData) seller + sharesToBuy.toNat =
        s.sharesOf (Mock.hashing Mock.testData) seller ∧
      s'.sharesOf (Mock.hashing Mock.testData) who =
        s.sharesOf (Mock.hashing Mock.testData) who + sharesToBuy.toNat) :=
  have hBound : totalShares (execute Mock.config
      [(.signed 1, .createProportionalAsset Mock.testData 10)] (genesis Mock.initialBalances))
      (Mock.hashing Mock.testData) ≤ UInt64.size - 1 := by decide
  ⟨hBound, transfers_and_purchases_conserve Mock.config _ _ hBound⟩

/-- Account 1 creates the mock asset and transfers 30 of its shares to itself: 30 shares
are gone. -/
theorem self_transfer_burns_shares :
    (let s := execute Mock.config [(.signed 1, .createProportionalAsset Mock.testData 10)]
      (genesis Mock.initialBalances)
    let r := (transferSharesToAccount (.signed 1) (Mock.hashing Mock.testData) 30 1).run s
    r.1 = .ok () ∧ totalShares s (Mock.hashing Mock.testData) = 100 ∧
      totalShares r.2 (Mock.hashing Mock.testData) = 70) :=
  ⟨rfl, by decide, by decide⟩

/-! ### Creating an existing asset -/

/-- Creation checks only the caller's own record, so an account without a record of an
existing asset creates it again: it becomes the main owner and a second `TOTAL_SUPPLY`
appears beside the shares already held. -/
theorem createProportionalAsset_mints (cfg : Config Identifier AccountId β)
    {data : List UInt8} {sharePrice : UInt64} {who : AccountId}
    (hNone : s.metadata (cfg.hashing data) who = none) :
    let r := (createProportionalAsset cfg (.signed who) data sharePrice).run s
    r.1 = .ok () ∧ r.2.mainOwner (cfg.hashing data) = some who ∧
      totalShares r.2 (cfg.hashing data) = totalShares s (cfg.hashing data) + 100 := by
  have h : (createProportionalAsset cfg (.signed who) data sharePrice).run s =
      (.ok (), ((s.setMetadata (cfg.hashing data) who
        (some { shares := totalSupply, offers := 0, price := sharePrice })).setMainOwner
        (cfg.hashing data) (some who)).depositEvent
        (.proportionalAssetInitialized (cfg.hashing data) who)) := by
    simp [createProportionalAsset, hNone]
  refine ⟨by rw [h], by rw [h]; simp, ?_⟩
  rw [h, totalShares_createProportionalAsset cfg h]
  simp

/-- Account 2 creates the asset account 1 created before. -/
theorem createProportionalAsset_mints_of_mock :
    let s := execute Mock.config [(.signed 1, .createProportionalAsset Mock.testData 10)]
      (genesis Mock.initialBalances)
    let r := (createProportionalAsset Mock.config (.signed 2) Mock.testData 10).run s
    s.metadata (Mock.hashing Mock.testData) 2 = none ∧
    r.1 = .ok () ∧ r.2.mainOwner (Mock.hashing Mock.testData) = some 2 ∧
      totalShares r.2 (Mock.hashing Mock.testData) = totalShares s (Mock.hashing Mock.testData) + 100 :=
  have hNone : (execute Mock.config [(.signed 1, .createProportionalAsset Mock.testData 10)]
      (genesis Mock.initialBalances)).metadata (Mock.hashing Mock.testData) 2 = none := by decide
  ⟨hNone, createProportionalAsset_mints Mock.config hNone⟩

/-- Accounts 1 and 2 both create the mock asset: account 2 is its main owner and 200
shares of it exist. -/
theorem second_creation_mints_shares :
    (let s := execute Mock.config
      [(.signed 1, .createProportionalAsset Mock.testData 10),
       (.signed 2, .createProportionalAsset Mock.testData 10)] (genesis Mock.initialBalances)
    s.mainOwner (Mock.hashing Mock.testData) = some 2 ∧
      totalShares s (Mock.hashing Mock.testData) = 200) := by
  decide

/-! ### Runs without the two defective calls -/

/-- The two calls after which an asset's shares may no longer sum to `TOTAL_SUPPLY`:
creating an asset that already has a main owner, and a transfer to the sender itself. -/
def BreaksSupply (cfg : Config Identifier AccountId β) (s : State Identifier AccountId β)
    (origin : RawOrigin AccountId) : Call Identifier AccountId → Prop
  | .createProportionalAsset data _ => (s.mainOwner (cfg.hashing data)).isSome
  | .transferSharesToAccount _ _ recipient => origin = .signed recipient
  | _ => False

instance (cfg : Config Identifier AccountId β) (s : State Identifier AccountId β)
    (origin : RawOrigin AccountId) : (call : Call Identifier AccountId) →
    Decidable (BreaksSupply cfg s origin call)
  | .createProportionalAsset data _ =>
      inferInstanceAs (Decidable (s.mainOwner (cfg.hashing data)).isSome)
  | .offerShares .. => inferInstanceAs (Decidable False)
  | .transferSharesToAccount _ _ recipient => inferInstanceAs (Decidable (origin = .signed recipient))
  | .buyShares .. => inferInstanceAs (Decidable False)
  | .claimOnwership .. => inferInstanceAs (Decidable False)

variable {cfg : Config Identifier AccountId β}

/-- Once `id` has a main owner, its records hold `TOTAL_SUPPLY` shares together. -/
def SupplyConserved (s : State Identifier AccountId β) (id : Identifier) : Prop :=
  (s.mainOwner id).isSome → totalShares s id = totalSupply.toNat

theorem supplyConserved_dispatch {origin : RawOrigin AccountId}
    {call : Call Identifier AccountId} (hRec : RecordsHaveOwner s)
    (hInv : ∀ id, SupplyConserved s id) (hClean : ¬ BreaksSupply cfg s origin call)
    (h : (dispatch cfg origin call).run s = (.ok (), s')) (id : Identifier) :
    SupplyConserved s' id := by
  intro hOwner
  rw [toNat_totalSupply]
  cases call with
  | createProportionalAsset data sharePrice =>
      rw [totalShares_createProportionalAsset cfg h]
      obtain ⟨who, -, -, rfl⟩ := createProportionalAsset_ok cfg origin h
      simp only [BreaksSupply, Option.not_isSome_iff_eq_none] at hClean
      by_cases hid : cfg.hashing data = id
      · subst hid
        have : totalShares s (cfg.hashing data) = 0 := totalShares_eq_zero fun who =>
          Option.not_isSome_iff_eq_none.mp fun hSome => by simpa [hClean] using hRec _ who hSome
        simp [this]
      · simpa [hid, Ne.symm hid] using hInv id (by simpa [Ne.symm hid] using hOwner)
  | offerShares id' sharesToOffer sharePrice =>
      rw [totalShares_offerShares h]
      obtain ⟨_, _, -, -, -, -, rfl⟩ := offerShares_ok origin h
      simpa using hInv id (by simpa using hOwner)
  | claimOnwership id' =>
      rw [totalShares_claimOnwership h]
      obtain ⟨who, owner, _, -, hOld, -, -, -, rfl⟩ := claimOnwership_ok origin h
      refine (hInv id ?_).trans (by simp)
      by_cases hid : id = id'
      · subst hid; simp [hOld]
      · simpa [hid] using hOwner
  | transferSharesToAccount id' amount recipient =>
      obtain ⟨who, m, rfl, hm, -, hs'⟩ := transferSharesToAccount_ok origin h
      have hne : recipient ≠ who := fun hEq => hClean (by simp [BreaksSupply, hEq])
      by_cases hid : id' = id
      · subst hid
        have hOld := hInv id' (hRec id' who (by simp [hm]))
        have hBound : totalShares s id' ≤ UInt64.size - 1 := by simp [hOld]
        rw [(transferSharesToAccount_conserves hBound hne h).1, hOld]
        rfl
      · subst hs'
        simpa [hid] using hInv id (by simpa using hOwner)
  | buyShares id' sharesToBuy amount seller =>
      obtain ⟨who, _, _, rfl, -, hSeller, -, -, -, -, -, -, hs'⟩ := buyShares_ok cfg origin h
      by_cases hid : id' = id
      · subst hid
        have hOld := hInv id' (by simp [hSeller])
        have hBound : totalShares s id' ≤ UInt64.size - 1 := by simp [hOld]
        rw [(buyShares_conserves cfg hBound h).1, hOld]
        rfl
      · subst hs'
        simpa [hid] using hInv id (by simpa using hOwner)

theorem supplyConserved_of_avoiding (h : ReachableAvoiding cfg (BreaksSupply cfg) s) :
    ∀ id, SupplyConserved s id :=
  h.invariant (P := fun s => ∀ id, SupplyConserved s id) (fun _ _ => by simp [SupplyConserved])
    fun _ _ _ _ hs hInv hAllowed hr => supplyConserved_dispatch
      (recordsHaveOwner_of_reachable hs) hInv hAllowed hr

/-- Supply conservation over whole runs without the two defective calls: every asset with a
main owner has records holding exactly `TOTAL_SUPPLY` shares together. -/
theorem supply_conserved (h : ReachableAvoiding cfg (BreaksSupply cfg) s) (id : Identifier) :
    SupplyConserved s id :=
  supplyConserved_of_avoiding h id

/-- Account 1 creates the mock asset and gives 40 shares to account 2. -/
theorem supply_conserved_of_transfer :
    let s₁ := ((dispatch Mock.config (.signed 1) (.createProportionalAsset Mock.testData 10)).run
      (genesis Mock.initialBalances)).2
    let s₂ := ((dispatch Mock.config (.signed 1)
      (.transferSharesToAccount (Mock.hashing Mock.testData) 40 2)).run s₁).2
    ReachableAvoiding Mock.config (BreaksSupply Mock.config) s₂ ∧
      SupplyConserved s₂ (Mock.hashing Mock.testData) :=
  have h : ReachableAvoiding Mock.config (BreaksSupply Mock.config) _ :=
    .dispatch _ _ (.dispatch _ _ (.genesis _) (by decide)) (by decide)
  ⟨h, supply_conserved h _⟩

end ProportionalAsset
