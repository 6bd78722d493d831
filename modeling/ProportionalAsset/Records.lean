import ProportionalAsset.Machine

/-! Owner records under transfers and purchases. Both calls write only their two parties'
records of one asset. A transfer keeps every `offers` and `price` it rewrites, including
the sender's `offers` against its reduced `shares`. A purchase rebuilds the buyer's record
from `MetaData { shares: 0, offers: 0, price: 0 }`, so the buyer loses its offers and price.
Offers stay within shares on every run whose transfers never leave the sender offering
more than it keeps. From any state, an account's offers change only by its own offer as main
owner, by its own purchase, which clears them, or by a purchase from it, which lowers them by
the shares sold. -/

namespace ProportionalAsset

variable {Identifier AccountId β : Type} [DecidableEq Identifier] [DecidableEq AccountId]
variable {cfg : Config Identifier AccountId β} {s s' : State Identifier AccountId β}

/-! ### What a transfer and a purchase touch -/

/-- `s'` differs from `s` at most in the records of `id` held by `a` and `b`: the main-owner
index and every other record are as they were. -/
def TouchesOnly (s s' : State Identifier AccountId β) (id : Identifier) (a b : AccountId) :
    Prop :=
  (∀ id', s'.mainOwner id' = s.mainOwner id') ∧
  ∀ id' who, ¬(id' = id ∧ (who = a ∨ who = b)) → s'.metadata id' who = s.metadata id' who

theorem touchesOnly_setMetadata_setMetadata (id : Identifier) (a b : AccountId)
    (ma mb : Option MetaData) (e : Event Identifier AccountId) :
    TouchesOnly s (((s.setMetadata id b mb).setMetadata id a ma).depositEvent e) id a b := by
  refine ⟨fun _ => rfl, fun id' who hOther => ?_⟩
  simp only [State.metadata_depositEvent, State.metadata_setMetadata]
  rw [if_neg fun h => hOther ⟨h.1, .inl h.2⟩, if_neg fun h => hOther ⟨h.1, .inr h.2⟩]

/-- A transfer writes only the records of `id` of its two parties. The sender keeps its
offers and price, and so does a recipient that already held a record. -/
theorem transferSharesToAccount_frame {who recipient : AccountId} {id : Identifier}
    {amount : UInt64}
    (h : (transferSharesToAccount (.signed who) id amount recipient).run s = (.ok (), s')) :
    TouchesOnly s s' id who recipient ∧
    (∃ m m', s.metadata id who = some m ∧ s'.metadata id who = some m' ∧
      m'.offers = m.offers ∧ m'.price = m.price) ∧
    ∀ m, s.metadata id recipient = some m → ∃ m', s'.metadata id recipient = some m' ∧
      m'.offers = m.offers ∧ m'.price = m.price := by
  obtain ⟨_, m, hWho, hm, -, hs'⟩ := transferSharesToAccount_ok (.signed who) h
  cases hWho
  have hSender : s'.metadata id who = some
      { shares := m.shares.saturatingSub amount, offers := m.offers, price := m.price } := by
    simp [hs']
  refine ⟨hs' ▸ touchesOnly_setMetadata_setMetadata .., ⟨m, _, hm, hSender, rfl, rfl⟩,
    fun n hn => ?_⟩
  by_cases hne : recipient = who
  · subst hne
    cases hm.symm.trans hn
    exact ⟨_, hSender, rfl, rfl⟩
  · exact ⟨{ shares := n.shares.saturatingAdd amount, offers := n.offers, price := n.price },
      by simp [hs', State.metadata_setMetadata, hne, hn], rfl, rfl⟩

/-- Account 1 creates the mock asset and gives 50 shares to account 2. -/
theorem transferSharesToAccount_frame_of_mock :
    (let s := execute Mock.config [(.signed 1, .createProportionalAsset Mock.testData 10)]
      (genesis Mock.initialBalances)
    let r := (transferSharesToAccount (.signed 1) (Mock.hashing Mock.testData) 50 2).run s
    r = (.ok (), r.2) ∧ TouchesOnly s r.2 (Mock.hashing Mock.testData) 1 2 ∧
    (∃ m m', s.metadata (Mock.hashing Mock.testData) 1 = some m ∧
      r.2.metadata (Mock.hashing Mock.testData) 1 = some m' ∧
      m'.offers = m.offers ∧ m'.price = m.price) ∧
    ∀ m, s.metadata (Mock.hashing Mock.testData) 2 = some m →
      ∃ m', r.2.metadata (Mock.hashing Mock.testData) 2 = some m' ∧
        m'.offers = m.offers ∧ m'.price = m.price) :=
  by
  intro s r
  have h : r = (.ok (), r.2) := rfl
  exact ⟨h, transferSharesToAccount_frame h⟩

/-- A purchase writes only the records of `id` of buyer and seller. The seller keeps its
price and its offers drop by exactly `sharesToBuy`; the buyer ends with no offers and
price 0, whatever its record held before. -/
theorem buyShares_frame {who seller : AccountId} {id : Identifier} {sharesToBuy : UInt64}
    {amount : Nat}
    (h : (buyShares cfg (.signed who) id sharesToBuy amount seller).run s = (.ok (), s')) :
    TouchesOnly s s' id seller who ∧
    (∃ m m', s.metadata id seller = some m ∧ s'.metadata id seller = some m' ∧
      m'.price = m.price ∧ m'.offers.toNat + sharesToBuy.toNat = m.offers.toNat) ∧
    ∃ m', s'.metadata id who = some m' ∧ m'.offers = 0 ∧ m'.price = 0 := by
  obtain ⟨_, m, b, hWho, hne, -, hm, -, hOffers, -, -, -, hs'⟩ := buyShares_ok cfg (.signed who) h
  cases hWho
  rw [UInt64.le_iff_toNat_le] at hOffers
  have hSeller : s'.metadata id seller = some
      { shares := m.shares.saturatingSub sharesToBuy,
        offers := m.offers.saturatingSub sharesToBuy, price := m.price } := by
    simp [hs']
  refine ⟨hs' ▸ touchesOnly_setMetadata_setMetadata (s := { s with balances := b }) ..,
    ⟨m, _, hm, hSeller, rfl, by simp; omega⟩, ?_⟩
  rcases hb : s.metadata id who with _ | old
  · exact ⟨{ shares := sharesToBuy, offers := 0, price := 0 },
      by simp [hs', State.metadata_setMetadata, hne, hb], rfl, rfl⟩
  · exact ⟨{ shares := old.shares.saturatingAdd sharesToBuy, offers := 0, price := 0 },
      by simp [hs', State.metadata_setMetadata, hne, hb], rfl, rfl⟩

/-- Account 1 creates the mock asset, offers 5 shares at 20 and gives 50 to account 2, and
account 2 buys 2 of the offered shares for 40. -/
theorem buyShares_frame_of_mock :
    (let s := execute Mock.config
      [(.signed 1, .createProportionalAsset Mock.testData 10),
       (.signed 1, .offerShares (Mock.hashing Mock.testData) 5 20),
       (.signed 1, .transferSharesToAccount (Mock.hashing Mock.testData) 50 2)]
      (genesis Mock.initialBalances)
    let r := (buyShares Mock.config (.signed 2) (Mock.hashing Mock.testData) 2 40 1).run s
    r = (.ok (), r.2) ∧ TouchesOnly s r.2 (Mock.hashing Mock.testData) 1 2 ∧
    (∃ m m', s.metadata (Mock.hashing Mock.testData) 1 = some m ∧
      r.2.metadata (Mock.hashing Mock.testData) 1 = some m' ∧
      m'.price = m.price ∧ m'.offers.toNat + (2 : UInt64).toNat = m.offers.toNat) ∧
    ∃ m', r.2.metadata (Mock.hashing Mock.testData) 2 = some m' ∧ m'.offers = 0 ∧
      m'.price = 0) :=
  by
  intro s r
  have h : r = (.ok (), r.2) := rfl
  exact ⟨h, buyShares_frame h⟩

/-- Account 1 creates the mock asset and offers 10 shares at 20, gives 60 shares to
account 2, which claims the main ownership and offers 5 shares at 1. Account 1 buys one:
its offers of 10 and its price of 20 are gone. -/
theorem purchase_resets_buyer_offers :
    (let s := execute Mock.config
      [(.signed 1, .createProportionalAsset Mock.testData 10),
       (.signed 1, .offerShares (Mock.hashing Mock.testData) 10 20),
       (.signed 1, .transferSharesToAccount (Mock.hashing Mock.testData) 60 2),
       (.signed 2, .claimOnwership (Mock.hashing Mock.testData)),
       (.signed 2, .offerShares (Mock.hashing Mock.testData) 5 1)]
      (genesis Mock.initialBalances)
    let r := (buyShares Mock.config (.signed 1) (Mock.hashing Mock.testData) 1 1 2).run s
    Reachable Mock.config s ∧
    s.metadata (Mock.hashing Mock.testData) 1 = some { shares := 40, offers := 10, price := 20 } ∧
    r.1 = .ok () ∧
    r.2.metadata (Mock.hashing Mock.testData) 1 = some { shares := 41, offers := 0, price := 0 }) :=
  ⟨(Reachable.genesis _).execute _, by decide, rfl, by decide⟩

/-! ### Splitting a transfer -/

/-- Two transfers of `k₁` and then `k₂` shares of `id` from `who` to `recipient` leave the same
records as one transfer of `k₁ + k₂`, which succeeds from the first state: splitting a transfer
changes only the events. This holds for a transfer to the sender itself too, and whatever
saturation cuts off the recipient's shares. -/
theorem transferSharesToAccount_split {who recipient : AccountId} {id : Identifier}
    {k₁ k₂ : UInt64} {s₁ s₂ : State Identifier AccountId β}
    (h₁ : (transferSharesToAccount (.signed who) id k₁ recipient).run s = (.ok (), s₁))
    (h₂ : (transferSharesToAccount (.signed who) id k₂ recipient).run s₁ = (.ok (), s₂)) :
    ∃ s₃, (transferSharesToAccount (.signed who) id (k₁ + k₂) recipient).run s = (.ok (), s₃) ∧
      s₃.metadata = s₂.metadata ∧ s₃.mainOwner = s₂.mainOwner ∧ s₃.balances = s₂.balances := by
  obtain ⟨_, g, ⟨⟩, hg, hk₁, rfl⟩ := transferSharesToAccount_ok _ h₁
  obtain ⟨_, g₁, ⟨⟩, hg₁, hk₂, rfl⟩ := transferSharesToAccount_ok _ h₂
  simp only [State.metadata_depositEvent, State.metadata_setMetadata_self, Option.some.injEq] at hg₁
  subst hg₁
  simp only [UInt64.le_iff_toNat_le, UInt64.toNat_saturatingSub] at hk₁ hk₂
  have hSum : k₁.toNat + k₂.toNat < UInt64.size := by have := g.shares.toNat_lt_size; omega
  have hle : k₁ + k₂ ≤ g.shares := by
    rw [UInt64.le_iff_toNat_le, UInt64.toNat_add, Nat.mod_eq_of_lt hSum]; omega
  refine ⟨_, transferSharesToAccount_run_of_le hg hle, funext fun id' => funext fun who' => ?_, rfl, rfl⟩
  by_cases hSender : id' = id ∧ who' = who
  · obtain ⟨rfl, rfl⟩ := hSender
    simp [UInt64.saturatingSub_saturatingSub _ hSum]
  by_cases hRecipient : id' = id ∧ who' = recipient
  · obtain ⟨rfl, rfl⟩ := hRecipient
    have hne : who' ≠ who := fun h => hSender ⟨rfl, h⟩
    cases hr : s.metadata id' who' <;>
      simp [State.metadata_setMetadata, hne, hr, UInt64.saturatingAdd_eq_add hSum,
        UInt64.saturatingAdd_saturatingAdd _ hSum]
  · simp [State.metadata_setMetadata, hSender, hRecipient]

/-- Account 1 creates the mock asset and gives account 2 first 10 and then 20 of its shares. -/
theorem transferSharesToAccount_split_of_mock :
    (let s := execute Mock.config [(.signed 1, .createProportionalAsset Mock.testData 10)]
      (genesis Mock.initialBalances)
    let r₁ := (transferSharesToAccount (.signed 1) (Mock.hashing Mock.testData) 10 2).run s
    let r₂ := (transferSharesToAccount (.signed 1) (Mock.hashing Mock.testData) 20 2).run r₁.2
    r₁ = (.ok (), r₁.2) ∧ r₂ = (.ok (), r₂.2) ∧
    ∃ s₃, (transferSharesToAccount (.signed 1) (Mock.hashing Mock.testData) (10 + 20) 2).run s =
        (.ok (), s₃) ∧
      s₃.metadata = r₂.2.metadata ∧ s₃.mainOwner = r₂.2.mainOwner ∧ s₃.balances = r₂.2.balances) := by
  intro s r₁ r₂
  have h₁ : r₁ = (.ok (), r₁.2) := rfl
  have h₂ : r₂ = (.ok (), r₂.2) := rfl
  exact ⟨h₁, h₂, transferSharesToAccount_split h₁ h₂⟩

/-! ### Offers against shares -/

/-- Every record offers at most the shares it holds. -/
def OffersWithinShares (s : State Identifier AccountId β) : Prop :=
  ∀ id who m, s.metadata id who = some m → m.offers ≤ m.shares

/-- A transfer after which its sender offers more shares than it keeps. -/
def OverOffers (s : State Identifier AccountId β) :
    RawOrigin AccountId → Call Identifier AccountId → Prop
  | .signed who, .transferSharesToAccount id amount _ =>
      ∃ m ∈ s.metadata id who, m.shares.saturatingSub amount < m.offers
  | _, _ => False

instance (s : State Identifier AccountId β) : (origin : RawOrigin AccountId) →
    (call : Call Identifier AccountId) → Decidable (OverOffers s origin call)
  | .signed who, .transferSharesToAccount id amount _ =>
      inferInstanceAs
        (Decidable (∃ m ∈ s.metadata id who, m.shares.saturatingSub amount < m.offers))
  | .root, _ | .none, _ => inferInstanceAs (Decidable False)
  | .signed _, .createProportionalAsset .. | .signed _, .offerShares ..
  | .signed _, .buyShares .. | .signed _, .claimOnwership .. => inferInstanceAs (Decidable False)

theorem OffersWithinShares.setMetadata (hInv : OffersWithinShares s) {id : Identifier}
    {who : AccountId} {m : MetaData} (hm : m.offers ≤ m.shares) :
    OffersWithinShares (s.setMetadata id who (some m)) := by
  intro id' who' m' h
  rw [State.metadata_setMetadata] at h
  split at h
  · cases h; exact hm
  · exact hInv _ _ _ h

/-- Each call but a transfer keeps offers within shares; a transfer keeps them when its
sender is left offering no more than it keeps. -/
theorem offersWithinShares_dispatch {origin : RawOrigin AccountId}
    {call : Call Identifier AccountId} (hInv : OffersWithinShares s)
    (hAllowed : ¬ OverOffers s origin call)
    (h : (dispatch cfg origin call).run s = (.ok (), s')) : OffersWithinShares s' := by
  cases call with
  | createProportionalAsset data sharePrice =>
      obtain ⟨_, -, -, rfl⟩ := createProportionalAsset_ok cfg origin h
      exact hInv.setMetadata (by simp [UInt64.le_iff_toNat_le])
  | offerShares id sharesToOffer sharePrice =>
      obtain ⟨_, _, -, -, -, hle, rfl⟩ := offerShares_ok origin h
      exact hInv.setMetadata hle
  | transferSharesToAccount id amount recipient =>
      obtain ⟨who, m, rfl, hm, -, rfl⟩ := transferSharesToAccount_ok origin h
      have hSender : m.offers ≤ m.shares.saturatingSub amount := by
        simpa only [OverOffers, hm, Option.mem_def, Option.some.injEq, exists_eq_left',
          UInt64.not_lt] using hAllowed
      refine OffersWithinShares.setMetadata (hInv.setMetadata ?_) hSender
      rcases hr : s.metadata id recipient with _ | n
      · simp [UInt64.le_iff_toNat_le]
      · have hn := hInv _ _ _ hr
        have := n.shares.toNat_lt_size
        simp only [UInt64.le_iff_toNat_le, UInt64.toNat_saturatingAdd] at hn ⊢
        omega
  | buyShares id sharesToBuy amount seller =>
      obtain ⟨who, m, b, rfl, -, -, hm, hShares, hOffers, -, -, -, rfl⟩ := buyShares_ok cfg origin h
      refine OffersWithinShares.setMetadata
        (OffersWithinShares.setMetadata (s := { s with balances := b }) hInv ?_) ?_
      · split <;> simp [UInt64.le_iff_toNat_le]
      · have hm' := hInv _ _ _ hm
        simp only [UInt64.le_iff_toNat_le, UInt64.toNat_saturatingSub] at hm' hOffers hShares ⊢
        omega
  | claimOnwership id =>
      obtain ⟨_, _, _, -, -, -, -, -, rfl⟩ := claimOnwership_ok origin h
      exact hInv

/-- On every run whose transfers never leave their sender offering more than it keeps,
every record offers at most the shares it holds. -/
theorem offers_within_shares (h : ReachableAvoiding cfg OverOffers s) : OffersWithinShares s :=
  h.invariant (fun _ _ _ _ hm => by simp at hm)
    fun _ _ _ _ _ hInv hAllowed hr => offersWithinShares_dispatch hInv hAllowed hr

/-- Account 1 creates the mock asset, offers 5 shares and gives 50 to account 2. -/
theorem offers_within_shares_of_mock :
    (let s₁ := ((dispatch Mock.config (.signed 1) (.createProportionalAsset Mock.testData 10)).run
      (genesis Mock.initialBalances)).2
    let s₂ := ((dispatch Mock.config (.signed 1)
      (.offerShares (Mock.hashing Mock.testData) 5 20)).run s₁).2
    let s₃ := ((dispatch Mock.config (.signed 1)
      (.transferSharesToAccount (Mock.hashing Mock.testData) 50 2)).run s₂).2
    ReachableAvoiding Mock.config OverOffers s₃ ∧ OffersWithinShares s₃) :=
  have h : ReachableAvoiding Mock.config OverOffers _ :=
    .dispatch _ _ (.dispatch _ _ (.dispatch _ _ (.genesis _) (by decide)) (by decide)) (by decide)
  ⟨h, offers_within_shares h⟩

/-- Account 1 creates the mock asset, offers all its 100 shares and gives 50 away: it still
offers 100 while holding 50. -/
theorem transfer_keeps_sender_offers :
    (let s := execute Mock.config
      [(.signed 1, .createProportionalAsset Mock.testData 10),
       (.signed 1, .offerShares (Mock.hashing Mock.testData) 100 20),
       (.signed 1, .transferSharesToAccount (Mock.hashing Mock.testData) 50 2)]
      (genesis Mock.initialBalances)
    Reachable Mock.config s ∧
      s.metadata (Mock.hashing Mock.testData) 1 = some { shares := 50, offers := 100, price := 20 }) :=
  ⟨(Reachable.genesis _).execute _, by decide⟩

/-! ### Who may put shares up for sale -/

/-- The shares `who` offers of `id`; zero without a record. -/
def State.offersOf (s : State Identifier AccountId β) (id : Identifier) (who : AccountId) : Nat :=
  ((s.metadata id who).map (·.offers.toNat)).getD 0

theorem State.offersOf_setMetadata (s : State Identifier AccountId β) (id id' : Identifier)
    (who who' : AccountId) (m : MetaData) :
    (s.setMetadata id who (some m)).offersOf id' who' =
      if id' = id ∧ who' = who then m.offers.toNat else s.offersOf id' who' := by
  simp only [State.offersOf, State.metadata_setMetadata]
  split <;> rfl

@[simp] theorem State.offersOf_setMainOwner (s : State Identifier AccountId β) (id : Identifier)
    (owner : Option AccountId) : (s.setMainOwner id owner).offersOf = s.offersOf := rfl

@[simp] theorem State.offersOf_depositEvent (s : State Identifier AccountId β)
    (e : Event Identifier AccountId) : (s.depositEvent e).offersOf = s.offersOf := rfl

@[simp] theorem State.offersOf_balances (s : State Identifier AccountId β) (balances : β) :
    ({ s with balances } : State Identifier AccountId β).offersOf = s.offersOf := rfl

/-- In any state, a call that changes what `a` offers of `id` is one of three. It may be an
offer of `id` signed by `a` as its main owner, after which `a` offers no more than it holds.
It may be a purchase of `id` signed by `a`, which clears `a`'s offers. Or it may be a purchase
of `id` from `a`, which lowers them by exactly the shares sold. So no creation, transfer or
claim changes any account's offers, and only `a` itself raises them. -/
theorem offers_change_only_by_offer_or_purchase {origin : RawOrigin AccountId}
    {call : Call Identifier AccountId} {r : Except (DispatchError Error) Unit}
    (hStep : (dispatch cfg origin call).run s = (r, s')) {id : Identifier} {a : AccountId}
    (hChange : s'.offersOf id a ≠ s.offersOf id a) :
    (origin = .signed a ∧ s.mainOwner id = some a ∧
      (∃ sharesToOffer sharePrice, call = .offerShares id sharesToOffer sharePrice) ∧
      ∃ m, s.metadata id a = some m ∧ s'.offersOf id a ≤ m.shares.toNat) ∨
    (origin = .signed a ∧
      (∃ sharesToBuy amount seller, call = .buyShares id sharesToBuy amount seller) ∧
      s'.offersOf id a = 0) ∨
    ∃ buyer sharesToBuy amount, origin = .signed buyer ∧ call = .buyShares id sharesToBuy amount a ∧
      s'.offersOf id a + sharesToBuy.toNat = s.offersOf id a := by
  rcases r with e | ⟨⟩
  · rw [dispatch_atomic cfg origin call s e s' hStep] at hChange
    exact absurd rfl hChange
  cases call with
  | createProportionalAsset data sharePrice =>
      obtain ⟨who, rfl, hm, rfl⟩ := createProportionalAsset_ok cfg _ hStep
      simp only [State.offersOf_depositEvent, State.offersOf_setMainOwner,
        State.offersOf_setMetadata] at hChange
      split at hChange
      · obtain ⟨rfl, rfl⟩ := ‹_ ∧ _›
        simp [State.offersOf, hm] at hChange
      · exact absurd rfl hChange
  | offerShares id' sharesToOffer sharePrice =>
      obtain ⟨who, m, rfl, hOwner, hm, hle, rfl⟩ := offerShares_ok _ hStep
      simp only [State.offersOf_depositEvent, State.offersOf_setMetadata] at hChange ⊢
      split at hChange
      · obtain ⟨rfl, rfl⟩ := ‹_ ∧ _›
        exact .inl ⟨rfl, hOwner, ⟨sharesToOffer, sharePrice, rfl⟩, m, hm, by
          simpa [UInt64.le_iff_toNat_le] using hle⟩
      · exact absurd rfl hChange
  | transferSharesToAccount id' amount recipient =>
      obtain ⟨who, m, rfl, hm, -, rfl⟩ := transferSharesToAccount_ok _ hStep
      simp only [State.offersOf_depositEvent, State.offersOf_setMetadata] at hChange
      split at hChange
      · obtain ⟨rfl, rfl⟩ := ‹_ ∧ _›
        simp [State.offersOf, hm] at hChange
      split at hChange
      · obtain ⟨rfl, rfl⟩ := ‹_ ∧ _›
        cases hr : s.metadata id a <;> simp [State.offersOf, hr] at hChange
      · exact absurd rfl hChange
  | buyShares id' sharesToBuy amount seller =>
      obtain ⟨who, m, b, rfl, hne, -, hm, -, hOffers, -, -, -, rfl⟩ := buyShares_ok cfg _ hStep
      simp only [State.offersOf_depositEvent, State.offersOf_setMetadata,
        State.offersOf_balances] at hChange ⊢
      split at hChange
      · obtain ⟨rfl, rfl⟩ := ‹_ ∧ _›
        refine .inr (.inr ⟨who, sharesToBuy, amount, rfl, rfl, ?_⟩)
        rw [UInt64.le_iff_toNat_le] at hOffers
        simp only [and_self, ↓reduceIte, UInt64.toNat_saturatingSub, State.offersOf, hm,
          Option.map_some', Option.getD_some]
        omega
      split at hChange
      · obtain ⟨rfl, rfl⟩ := ‹_ ∧ _›
        refine .inr (.inl ⟨rfl, ⟨sharesToBuy, amount, seller, rfl⟩, ?_⟩)
        simp only [hne, and_false, if_false, and_self, if_true]
        split <;> rfl
      · exact absurd rfl hChange
  | claimOnwership id' =>
      obtain ⟨who, owner, m, rfl, -, -, -, -, rfl⟩ := claimOnwership_ok _ hStep
      exact absurd rfl hChange

/-- Account 1 creates the mock asset and offers 5 of its shares at 20. -/
theorem offers_change_only_by_offer_or_purchase_of_offer :
    (let s := execute Mock.config [(.signed 1, .createProportionalAsset Mock.testData 10)]
      (genesis Mock.initialBalances)
    let call : Call Mock.Hash Mock.AccountId := .offerShares (Mock.hashing Mock.testData) 5 20
    let r := (dispatch Mock.config (.signed 1) call).run s
    r = (r.1, r.2) ∧
      r.2.offersOf (Mock.hashing Mock.testData) 1 ≠ s.offersOf (Mock.hashing Mock.testData) 1 ∧
      ((RawOrigin.signed 1 = .signed 1 ∧ s.mainOwner (Mock.hashing Mock.testData) = some 1 ∧
        (∃ sharesToOffer sharePrice,
          call = .offerShares (Mock.hashing Mock.testData) sharesToOffer sharePrice) ∧
        ∃ m, s.metadata (Mock.hashing Mock.testData) 1 = some m ∧
          r.2.offersOf (Mock.hashing Mock.testData) 1 ≤ m.shares.toNat) ∨
      (RawOrigin.signed 1 = .signed 1 ∧
        (∃ sharesToBuy amount seller,
          call = .buyShares (Mock.hashing Mock.testData) sharesToBuy amount seller) ∧
        r.2.offersOf (Mock.hashing Mock.testData) 1 = 0) ∨
      ∃ buyer sharesToBuy amount, RawOrigin.signed 1 = .signed buyer ∧
        call = .buyShares (Mock.hashing Mock.testData) sharesToBuy amount 1 ∧
        r.2.offersOf (Mock.hashing Mock.testData) 1 + sharesToBuy.toNat =
          s.offersOf (Mock.hashing Mock.testData) 1)) := by
  intro s call r
  have h : r = (r.1, r.2) := rfl
  have hChange : r.2.offersOf (Mock.hashing Mock.testData) 1 ≠ s.offersOf (Mock.hashing Mock.testData) 1 := by
    decide
  exact ⟨h, hChange, offers_change_only_by_offer_or_purchase h hChange⟩

end ProportionalAsset
