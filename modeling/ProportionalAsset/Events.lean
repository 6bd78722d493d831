import ProportionalAsset.Supply
import ProportionalAsset.Records

/-! What the pallet's events tell an observer. Creations and claims name the asset and its
new main owner, so replaying them rebuilds the main-owner index on every run.
`SharesTransferred` names the two accounts and the amount but not the asset, so no replay
of the events rebuilds the holdings: the same transfer of two assets leaves the same
events. -/

namespace ProportionalAsset

variable {Identifier AccountId β : Type} [DecidableEq Identifier] [DecidableEq AccountId]
variable {cfg : Config Identifier AccountId β} {s s' : State Identifier AccountId β}

/-- The main owner of `id` an event announces: the creator or the claimant of `id`. -/
def Event.newOwner (id : Identifier) : Event Identifier AccountId → Option AccountId
  | .proportionalAssetInitialized id' who | .mainOwnerSet who id' =>
      if id' = id then some who else none
  | .sharesOffered .. | .sharesTransferred .. => none

/-- The main owner of `id` an indexer reads off the events: the latest one announced. -/
def mainOwnerOfEvents (id : Identifier) (events : List (Event Identifier AccountId)) :
    Option AccountId :=
  events.foldl (fun owner e => (e.newOwner id).or owner) none

omit [DecidableEq AccountId] in
@[simp] theorem mainOwnerOfEvents_append_singleton (id : Identifier)
    (events : List (Event Identifier AccountId)) (e : Event Identifier AccountId) :
    mainOwnerOfEvents id (events ++ [e]) = (e.newOwner id).or (mainOwnerOfEvents id events) := by
  simp [mainOwnerOfEvents]

/-- Storage and events agree on every asset's main owner. -/
def EventsTrackMainOwner (s : State Identifier AccountId β) : Prop :=
  ∀ id, s.mainOwner id = mainOwnerOfEvents id s.events

theorem eventsTrackMainOwner_dispatch {origin : RawOrigin AccountId}
    {call : Call Identifier AccountId} (hInv : EventsTrackMainOwner s)
    (h : (dispatch cfg origin call).run s = (.ok (), s')) : EventsTrackMainOwner s' := by
  intro id
  cases call with
  | createProportionalAsset data sharePrice =>
      obtain ⟨who, -, -, rfl⟩ := createProportionalAsset_ok cfg origin h
      by_cases hid : id = cfg.hashing data
      · subst hid; simp [Event.newOwner]
      · simp [Event.newOwner, hid, Ne.symm hid, hInv id]
  | claimOnwership id' =>
      obtain ⟨who, -, -, -, -, -, -, -, rfl⟩ := claimOnwership_ok origin h
      by_cases hid : id = id'
      · subst hid; simp [Event.newOwner]
      · simp [Event.newOwner, hid, Ne.symm hid, hInv id]
  | offerShares id' sharesToOffer sharePrice =>
      obtain ⟨_, _, -, -, -, -, rfl⟩ := offerShares_ok origin h
      simp [Event.newOwner, hInv id]
  | transferSharesToAccount id' amount recipient =>
      obtain ⟨_, _, -, -, -, rfl⟩ := transferSharesToAccount_ok origin h
      simp [Event.newOwner, hInv id]
  | buyShares id' sharesToBuy amount seller =>
      obtain ⟨_, _, _, -, -, -, -, -, -, -, -, -, rfl⟩ := buyShares_ok cfg origin h
      simp [Event.newOwner, hInv id]

/-- On every run the main-owner index is what the events announce: replaying the creations
and claims of an asset gives its main owner. -/
theorem mainOwner_of_events (hs : Reachable cfg s) (id : Identifier) :
    s.mainOwner id = mainOwnerOfEvents id s.events :=
  hs.invariant (P := EventsTrackMainOwner) (fun _ _ => rfl)
    (fun _ _ _ _ _ hInv h => eventsTrackMainOwner_dispatch hInv h) id

/-- The mock's claim run: account 2 ends as main owner, as the last event announces. -/
theorem mainOwner_of_events_of_claim :
    (let s := execute Mock.config
      [(.signed 1, .createProportionalAsset Mock.testData 10),
       (.signed 1, .transferSharesToAccount (Mock.hashing Mock.testData) 51 2),
       (.signed 2, .claimOnwership (Mock.hashing Mock.testData))] (genesis Mock.initialBalances)
    Reachable Mock.config s ∧ s.mainOwner (Mock.hashing Mock.testData) = some 2 ∧
      s.mainOwner (Mock.hashing Mock.testData) =
        mainOwnerOfEvents (Mock.hashing Mock.testData) s.events) :=
  have hs := (Reachable.genesis Mock.initialBalances).execute _
  ⟨hs, by decide, mainOwner_of_events hs _⟩

/-- A transfer's event does not name the asset: the same transfer of two different assets
leaves the same events but different holdings of the first asset. -/
theorem transfer_events_forget_asset {who recipient : AccountId} {id₁ id₂ : Identifier}
    {amount : UInt64} {s₁ s₂ : State Identifier AccountId β} (hne : id₁ ≠ id₂)
    (hRecipient : recipient ≠ who) (hAmount : 0 < amount.toNat)
    (h₁ : (transferSharesToAccount (.signed who) id₁ amount recipient).run s = (.ok (), s₁))
    (h₂ : (transferSharesToAccount (.signed who) id₂ amount recipient).run s = (.ok (), s₂)) :
    s₁.events = s₂.events ∧ s₁.sharesOf id₁ who ≠ s₂.sharesOf id₁ who := by
  have hSent := (transferSharesToAccount_accounting h₁ hRecipient).1
  obtain ⟨_, _, hWho₁, -, -, hs₁⟩ := transferSharesToAccount_ok _ h₁
  obtain ⟨_, _, hWho₂, -, -, hs₂⟩ := transferSharesToAccount_ok _ h₂
  cases hWho₁; cases hWho₂
  have hKept : s₂.sharesOf id₁ who = s.sharesOf id₁ who := by
    rw [hs₂]
    simp only [State.sharesOf,
      (touchesOnly_setMetadata_setMetadata id₂ who recipient _ _ _).2 id₁ who fun h => hne h.1]
  exact ⟨by rw [hs₁, hs₂]; rfl, by omega⟩

/-- Account 1 creates the mock asset and the asset of the empty payload, then gives 10
shares of either to account 2. -/
theorem transfer_events_forget_asset_of_mock :
    (let s := execute Mock.config
      [(.signed 1, .createProportionalAsset Mock.testData 10),
       (.signed 1, .createProportionalAsset [] 10)] (genesis Mock.initialBalances)
    let r₁ := (transferSharesToAccount (.signed 1) (Mock.hashing Mock.testData) 10 2).run s
    let r₂ := (transferSharesToAccount (.signed 1) (Mock.hashing []) 10 2).run s
    Mock.hashing Mock.testData ≠ Mock.hashing [] ∧ (2 : Mock.AccountId) ≠ 1 ∧
      0 < (10 : UInt64).toNat ∧ r₁ = (.ok (), r₁.2) ∧ r₂ = (.ok (), r₂.2) ∧
      r₁.2.events = r₂.2.events ∧
      r₁.2.sharesOf (Mock.hashing Mock.testData) 1 ≠ r₂.2.sharesOf (Mock.hashing Mock.testData) 1) := by
  intro s r₁ r₂
  have h₁ : r₁ = (.ok (), r₁.2) := rfl
  have h₂ : r₂ = (.ok (), r₂.2) := rfl
  have hne : Mock.hashing Mock.testData ≠ Mock.hashing [] := by decide
  exact ⟨hne, by decide, by decide, h₁, h₂,
    transfer_events_forget_asset hne (by decide) (by decide) h₁ h₂⟩

end ProportionalAsset
