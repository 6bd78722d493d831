import ProportionalAsset.CallSpec
import ProportionalAsset.Mock

/-! The pallet as a state machine. A step is one call by any origin with any arguments;
a failed call is a step too, and leaves the state as it was. The reachable states are those
of every finite run from a genesis state, where no asset exists yet. -/

namespace ProportionalAsset

variable {Identifier AccountId β : Type} [DecidableEq Identifier] [DecidableEq AccountId]

/-- A chain before any call of this pallet: no asset exists; the currency holds `balances`. -/
def genesis (balances : β) : State Identifier AccountId β :=
  { proportionalAssetToOwnerToMetadata := ∅, proportionalAssetToMainOwner := ∅, balances,
    events := [] }

/-- The states every finite run of calls reaches from a genesis state. -/
inductive Reachable (cfg : Config Identifier AccountId β) : State Identifier AccountId β → Prop
  | genesis (balances : β) : Reachable cfg (genesis balances)
  | dispatch {s : State Identifier AccountId β} (origin : RawOrigin AccountId)
      (call : Call Identifier AccountId) :
      Reachable cfg s → Reachable cfg ((dispatch cfg origin call).run s).2

/-- Runs `calls` in order from `s`, each by its own origin. -/
def execute (cfg : Config Identifier AccountId β)
    (calls : List (RawOrigin AccountId × Call Identifier AccountId))
    (s : State Identifier AccountId β) : State Identifier AccountId β :=
  calls.foldl (fun s c => ((dispatch cfg c.1 c.2).run s).2) s

variable {cfg : Config Identifier AccountId β} {s s' : State Identifier AccountId β}

@[simp] theorem execute_nil (s : State Identifier AccountId β) : execute cfg [] s = s := rfl

@[simp] theorem execute_cons (c : RawOrigin AccountId × Call Identifier AccountId)
    (calls : List (RawOrigin AccountId × Call Identifier AccountId)) (s : State Identifier AccountId β) :
    execute cfg (c :: calls) s = execute cfg calls ((dispatch cfg c.1 c.2).run s).2 := rfl

theorem execute_append (calls calls' : List (RawOrigin AccountId × Call Identifier AccountId))
    (s : State Identifier AccountId β) :
    execute cfg (calls ++ calls') s = execute cfg calls' (execute cfg calls s) :=
  List.foldl_append _ _ _ _

theorem Reachable.execute (h : Reachable cfg s)
    (calls : List (RawOrigin AccountId × Call Identifier AccountId)) :
    Reachable cfg (ProportionalAsset.execute cfg calls s) := by
  induction calls generalizing s with
  | nil => exact h
  | cons c calls ih => exact ih (h.dispatch c.1 c.2)

/-- An invariant of genesis kept by every successful call holds in every reachable state:
failed calls need no argument, since they change nothing. -/
theorem Reachable.invariant {P : State Identifier AccountId β → Prop}
    (hGenesis : ∀ balances, P (ProportionalAsset.genesis balances))
    (hStep : ∀ s s' origin call, Reachable cfg s → P s →
      (ProportionalAsset.dispatch cfg origin call).run s = (.ok (), s') → P s')
    (h : Reachable cfg s) : P s := by
  induction h with
  | genesis balances => exact hGenesis balances
  | @dispatch s origin call hs ih =>
      rcases hr : (ProportionalAsset.dispatch cfg origin call).run s with ⟨_ | _, t⟩
      · exact (dispatch_atomic cfg origin call s _ t hr) ▸ ih
      · exact hStep s t origin call hs ih hr

/-- The states reached from genesis by runs in which no call satisfies `Excluded`, a
condition on the call, its origin and the state it is made in. -/
inductive ReachableAvoiding (cfg : Config Identifier AccountId β)
    (Excluded : State Identifier AccountId β → RawOrigin AccountId → Call Identifier AccountId → Prop) :
    State Identifier AccountId β → Prop
  | genesis (balances : β) : ReachableAvoiding cfg Excluded (genesis balances)
  | dispatch {s : State Identifier AccountId β} (origin : RawOrigin AccountId)
      (call : Call Identifier AccountId) :
      ReachableAvoiding cfg Excluded s → ¬ Excluded s origin call →
      ReachableAvoiding cfg Excluded ((dispatch cfg origin call).run s).2

section Avoiding

variable {Excluded : State Identifier AccountId β → RawOrigin AccountId → Call Identifier AccountId → Prop}

theorem ReachableAvoiding.reachable (h : ReachableAvoiding cfg Excluded s) : Reachable cfg s := by
  induction h with
  | genesis balances => exact .genesis balances
  | dispatch origin call _ _ ih => exact ih.dispatch origin call

/-- `Reachable.invariant` for runs avoiding `Excluded`: each step may use that its call is
not excluded. -/
theorem ReachableAvoiding.invariant {P : State Identifier AccountId β → Prop}
    (hGenesis : ∀ balances, P (ProportionalAsset.genesis balances))
    (hStep : ∀ s s' origin call, Reachable cfg s → P s → ¬ Excluded s origin call →
      (ProportionalAsset.dispatch cfg origin call).run s = (.ok (), s') → P s')
    (h : ReachableAvoiding cfg Excluded s) : P s := by
  induction h with
  | genesis balances => exact hGenesis balances
  | @dispatch s origin call hs hAllowed ih =>
      rcases hr : (ProportionalAsset.dispatch cfg origin call).run s with ⟨_ | _, t⟩
      · exact (dispatch_atomic cfg origin call s _ t hr) ▸ ih
      · exact hStep s t origin call hs.reachable ih hAllowed hr

end Avoiding

omit [DecidableEq AccountId] in
@[simp] theorem mainOwner_genesis (balances : β) (id : Identifier) :
    (genesis balances : State Identifier AccountId β).mainOwner id = none := rfl

@[simp] theorem metadata_genesis (balances : β) (id : Identifier) (who : AccountId) :
    (genesis balances : State Identifier AccountId β).metadata id who = none := rfl

/-! ### Records are never removed -/

theorem State.isSome_metadata_setMetadata {s : State Identifier AccountId β}
    {id id' : Identifier} {who who' : AccountId} (m : MetaData)
    (h : (s.metadata id' who').isSome) : ((s.setMetadata id who (some m)).metadata id' who').isSome := by
  rw [State.metadata_setMetadata]
  split <;> simp [h]

/-- The pallet only ever writes `Some` records, so a successful call keeps every record. -/
theorem dispatch_isSome_metadata {origin : RawOrigin AccountId} {call : Call Identifier AccountId}
    (h : (dispatch cfg origin call).run s = (.ok (), s')) {id : Identifier} {who : AccountId}
    (hWho : (s.metadata id who).isSome) : (s'.metadata id who).isSome := by
  cases call with
  | createProportionalAsset data sharePrice =>
      obtain ⟨_, -, -, rfl⟩ := createProportionalAsset_ok cfg origin h
      simp [State.isSome_metadata_setMetadata, hWho]
  | offerShares id sharesToOffer sharePrice =>
      obtain ⟨_, _, -, -, -, -, rfl⟩ := offerShares_ok origin h
      simp [State.isSome_metadata_setMetadata, hWho]
  | transferSharesToAccount id amount recipient =>
      obtain ⟨_, _, -, -, -, rfl⟩ := transferSharesToAccount_ok origin h
      simp [State.isSome_metadata_setMetadata, hWho]
  | buyShares id sharesToBuy amount seller =>
      obtain ⟨_, _, _, -, -, -, -, -, -, -, -, -, rfl⟩ := buyShares_ok cfg origin h
      simp only [State.metadata_depositEvent]
      exact State.isSome_metadata_setMetadata _ (State.isSome_metadata_setMetadata _ hWho)
  | claimOnwership id =>
      obtain ⟨_, _, _, -, -, -, -, -, rfl⟩ := claimOnwership_ok origin h
      simpa using hWho

/-! ### How the main owner changes -/

/-- What a successful call does to the main owner of `id`: nothing, or it makes `who` the
main owner, who then holds a record of `id`, either by claiming `id` with more than 50 shares
or by creating `id` without a record of it. -/
theorem dispatch_mainOwner {origin : RawOrigin AccountId} {call : Call Identifier AccountId}
    (h : (dispatch cfg origin call).run s = (.ok (), s')) (id : Identifier) :
    s'.mainOwner id = s.mainOwner id ∨
    ∃ who, s'.mainOwner id = some who ∧ (s'.metadata id who).isSome ∧
      ((call = .claimOnwership id ∧ origin = .signed who ∧
          ∃ m, s.metadata id who = some m ∧ 50 < m.shares) ∨
        (∃ data sharePrice, call = .createProportionalAsset data sharePrice ∧
          cfg.hashing data = id ∧ origin = .signed who ∧ s.metadata id who = none)) := by
  cases call with
  | createProportionalAsset data sharePrice =>
      obtain ⟨who, rfl, hNone, rfl⟩ := createProportionalAsset_ok cfg origin h
      by_cases hid : id = cfg.hashing data
      · subst hid
        exact .inr ⟨who, by simp, by simp, .inr ⟨data, sharePrice, rfl, rfl, rfl, hNone⟩⟩
      · exact .inl (by simp [hid])
  | claimOnwership id' =>
      obtain ⟨who, -, m, rfl, -, -, hm, hgt, rfl⟩ := claimOnwership_ok origin h
      by_cases hid : id = id'
      · subst hid
        exact .inr ⟨who, by simp, by simp [hm], .inl ⟨rfl, rfl, m, hm, hgt⟩⟩
      · exact .inl (by simp [hid])
  | offerShares id' sharesToOffer sharePrice =>
      obtain ⟨_, _, -, -, -, -, rfl⟩ := offerShares_ok origin h
      exact .inl rfl
  | transferSharesToAccount id' amount recipient =>
      obtain ⟨_, _, -, -, -, rfl⟩ := transferSharesToAccount_ok origin h
      exact .inl rfl
  | buyShares id' sharesToBuy amount seller =>
      obtain ⟨_, _, _, -, -, -, -, -, -, -, -, -, rfl⟩ := buyShares_ok cfg origin h
      exact .inl rfl

/-- No call removes a main owner: the pallet only ever sets `Some` owners. -/
theorem dispatch_isSome_mainOwner {origin : RawOrigin AccountId} {call : Call Identifier AccountId}
    (h : (dispatch cfg origin call).run s = (.ok (), s')) {id : Identifier}
    (hId : (s.mainOwner id).isSome) : (s'.mainOwner id).isSome := by
  rcases dispatch_mainOwner h id with hSame | ⟨who, hWho, -⟩
  · rwa [hSame]
  · simp [hWho]

/-! ### The main owner holds a record -/

/-- Every asset's main owner holds a record of that asset. -/
def MainOwnerHasRecord (s : State Identifier AccountId β) : Prop :=
  ∀ id owner, s.mainOwner id = some owner → (s.metadata id owner).isSome

theorem mainOwnerHasRecord_dispatch {origin : RawOrigin AccountId}
    {call : Call Identifier AccountId} (hInv : MainOwnerHasRecord s)
    (h : (dispatch cfg origin call).run s = (.ok (), s')) : MainOwnerHasRecord s' := by
  intro id owner hOwner
  rcases dispatch_mainOwner h id with hSame | ⟨who, hWho, hRecord, -⟩
  · exact dispatch_isSome_metadata h (hInv id owner (hSame ▸ hOwner))
  · cases hOwner.symm.trans hWho
    exact hRecord

/-- In every reachable state the main owner of an asset holds a record of it, so the
`InvalidAccount` branches of `offer_shares` and `buy_shares`, which both look up the main
owner's record, are never taken. -/
theorem mainOwner_has_record (hs : Reachable cfg s) :
    MainOwnerHasRecord s ∧
    (∀ (origin : RawOrigin AccountId) id sharesToOffer sharePrice t,
      (offerShares origin id sharesToOffer sharePrice).run s ≠
        (.error (.module .invalidAccount), t)) ∧
    (∀ (origin : RawOrigin AccountId) id sharesToBuy amount seller t,
      (buyShares cfg origin id sharesToBuy amount seller).run s ≠
        (.error (.module .invalidAccount), t)) := by
  have hInv : MainOwnerHasRecord s :=
    hs.invariant (fun _ _ _ h => by simp at h) fun _ _ _ _ _ hInv h => mainOwnerHasRecord_dispatch hInv h
  refine ⟨hInv, fun origin id _ _ t h => ?_, fun origin id _ _ seller t h => ?_⟩
  · obtain ⟨who, -, hOwner, hNone⟩ := offerShares_invalidAccount origin h
    simpa [hNone] using hInv id who hOwner
  · obtain ⟨hOwner, hNone⟩ := buyShares_invalidAccount cfg origin h
    simpa [hNone] using hInv id seller hOwner

/-! ### Records exist only for owned assets -/

/-- Every record belongs to an asset that has a main owner. -/
def RecordsHaveOwner (s : State Identifier AccountId β) : Prop :=
  ∀ id who, (s.metadata id who).isSome → (s.mainOwner id).isSome

theorem State.isSome_metadata_setMetadata_iff {s : State Identifier AccountId β}
    {id id' : Identifier} {who who' : AccountId} (m : MetaData) :
    ((s.setMetadata id who (some m)).metadata id' who').isSome ↔
      (id' = id ∧ who' = who) ∨ (s.metadata id' who').isSome := by
  rw [State.metadata_setMetadata]
  split <;> simp_all

theorem recordsHaveOwner_dispatch {origin : RawOrigin AccountId}
    {call : Call Identifier AccountId} (hInv : RecordsHaveOwner s)
    (h : (dispatch cfg origin call).run s = (.ok (), s')) : RecordsHaveOwner s' := by
  intro id who hWho
  have hKept : ∀ id, (s.mainOwner id).isSome → (s'.mainOwner id).isSome :=
    fun _ => dispatch_isSome_mainOwner h
  cases call with
  | createProportionalAsset data sharePrice =>
      obtain ⟨who', -, -, rfl⟩ := createProportionalAsset_ok cfg origin h
      simp only [State.metadata_depositEvent, State.metadata_setMainOwner,
        State.isSome_metadata_setMetadata_iff] at hWho
      rcases hWho with ⟨rfl, -⟩ | hWho
      · simp
      · exact hKept id (hInv id who hWho)
  | offerShares id' sharesToOffer sharePrice =>
      obtain ⟨who', _, -, hOwner, -, -, rfl⟩ := offerShares_ok origin h
      simp only [State.metadata_depositEvent, State.isSome_metadata_setMetadata_iff] at hWho
      rcases hWho with ⟨rfl, -⟩ | hWho
      · simp [hOwner]
      · exact hKept id (hInv id who hWho)
  | transferSharesToAccount id' amount recipient =>
      obtain ⟨who', _, -, hm, -, rfl⟩ := transferSharesToAccount_ok origin h
      simp only [State.metadata_depositEvent, State.isSome_metadata_setMetadata_iff] at hWho
      rcases hWho with ⟨rfl, -⟩ | ⟨rfl, -⟩ | hWho
      · exact hKept id (hInv id who' (by simp [hm]))
      · exact hKept id (hInv id who' (by simp [hm]))
      · exact hKept id (hInv id who hWho)
  | buyShares id' sharesToBuy amount seller =>
      obtain ⟨_, _, _, -, -, hOwner, -, -, -, -, -, -, rfl⟩ := buyShares_ok cfg origin h
      simp only [State.metadata_depositEvent, State.isSome_metadata_setMetadata_iff] at hWho
      rcases hWho with ⟨rfl, -⟩ | ⟨rfl, -⟩ | hWho
      · simp [hOwner]
      · simp [hOwner]
      · exact hKept id (hInv id who hWho)
  | claimOnwership id' =>
      obtain ⟨_, _, _, -, -, -, -, -, rfl⟩ := claimOnwership_ok origin h
      exact hKept id (hInv id who (by simpa using hWho))

theorem recordsHaveOwner_of_reachable (hs : Reachable cfg s) : RecordsHaveOwner s :=
  hs.invariant (fun _ _ _ h => by simp at h) fun _ _ _ _ _ hInv h => recordsHaveOwner_dispatch hInv h

/-- In every reachable state, an asset without a main owner has no record at all. -/
theorem no_record_without_mainOwner (hs : Reachable cfg s) {id : Identifier}
    (hNone : s.mainOwner id = none) (who : AccountId) : s.metadata id who = none := by
  simpa [hNone] using mt (recordsHaveOwner_of_reachable hs id who)

/-- After the mock asset's creation, the asset of the empty payload still has no owner. -/
theorem no_record_of_unknown_asset :
    let s := execute Mock.config [(.signed 1, .createProportionalAsset Mock.testData 10)]
      (genesis Mock.initialBalances)
    Reachable Mock.config s ∧ s.mainOwner (Mock.hashing []) = none ∧
      ∀ who, s.metadata (Mock.hashing []) who = none :=
  have hs := (Reachable.genesis Mock.initialBalances).execute
    [(.signed 1, .createProportionalAsset Mock.testData 10)]
  have hNone : (execute Mock.config [(.signed 1, .createProportionalAsset Mock.testData 10)]
      (genesis Mock.initialBalances)).mainOwner (Mock.hashing []) = none := by decide
  ⟨hs, hNone, no_record_without_mainOwner hs hNone⟩

/-- The mock's first test: account 1 creates the test asset, offers 5 of its shares and
gives 51 to account 2, who claims the main ownership. -/
theorem mainOwner_has_record_of_claim :
    let s := execute Mock.config
      [(.signed 1, .createProportionalAsset Mock.testData 10),
       (.signed 1, .offerShares (Mock.hashing Mock.testData) 5 20),
       (.signed 1, .transferSharesToAccount (Mock.hashing Mock.testData) 51 2),
       (.signed 2, .claimOnwership (Mock.hashing Mock.testData))] (genesis Mock.initialBalances)
    Reachable Mock.config s ∧ s.mainOwner (Mock.hashing Mock.testData) = some 2 ∧
    MainOwnerHasRecord s ∧
    (∀ (origin : RawOrigin Nat) id sharesToOffer sharePrice t,
      (offerShares origin id sharesToOffer sharePrice).run s ≠
        (.error (.module .invalidAccount), t)) ∧
    (∀ (origin : RawOrigin Nat) id sharesToBuy amount seller t,
      (buyShares Mock.config origin id sharesToBuy amount seller).run s ≠
        (.error (.module .invalidAccount), t)) :=
  have hs := (Reachable.genesis Mock.initialBalances).execute _
  ⟨hs, by decide, mainOwner_has_record hs⟩

end ProportionalAsset
