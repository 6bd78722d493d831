import ProportionalAsset.Supply

/-! Who may change an asset's main owner. Only `create_proportional_asset` and
`set_main_owner`, called by `claim_onwership`, write `ProportionalAssetToMainOwner`, and
both write `Some`, so no call removes a main owner. A claim hands the asset to an account
holding more than 50 of its shares. A creation hands it to any account without a record of
it, so the main owner of an existing asset can change without a claim. On runs without that
creation and without self-transfers, an asset's 100 shares leave room for one account only
above 50, so a main owner holding that many cannot lose the main ownership. Conversely, in
every reachable state an account holding more than 50 shares of an asset it is not the main
owner of takes it over with one claim. -/

namespace ProportionalAsset

variable {Identifier AccountId β : Type} [DecidableEq Identifier] [DecidableEq AccountId]
variable {cfg : Config Identifier AccountId β} {s s' : State Identifier AccountId β}

/-- What one call, failed or not, may do to the main owner of `id`: it stays set, and a new
main owner `b` either claimed `id` holding more than 50 of its shares or created `id`
holding no record of it. -/
theorem mainOwner_authority {origin : RawOrigin AccountId} {call : Call Identifier AccountId}
    {r : Except (DispatchError Error) Unit} (h : (dispatch cfg origin call).run s = (r, s'))
    {id : Identifier} {a : AccountId} (hOwner : s.mainOwner id = some a) :
    ∃ b, s'.mainOwner id = some b ∧ (b ≠ a →
      (call = .claimOnwership id ∧ origin = .signed b ∧
        ∃ m, s.metadata id b = some m ∧ 50 < m.shares) ∨
      (∃ data sharePrice, call = .createProportionalAsset data sharePrice ∧
        cfg.hashing data = id ∧ origin = .signed b ∧ s.metadata id b = none)) := by
  rcases r with e | ⟨⟩
  · exact ⟨a, by rw [dispatch_atomic cfg origin call s e s' h, hOwner], fun hne => absurd rfl hne⟩
  rcases dispatch_mainOwner h id with hSame | ⟨b, hNew, -, hHow⟩
  · exact ⟨a, hSame.trans hOwner, fun hne => absurd rfl hne⟩
  · exact ⟨b, hNew, fun _ => hHow⟩

/-- The mock's claim: account 1 creates the mock asset, offers 5 shares and gives 51 to
account 2, who claims the main ownership. -/
theorem mainOwner_authority_of_claim :
    (let s := execute Mock.config
      [(.signed 1, .createProportionalAsset Mock.testData 10),
       (.signed 1, .offerShares (Mock.hashing Mock.testData) 5 20),
       (.signed 1, .transferSharesToAccount (Mock.hashing Mock.testData) 51 2)]
      (genesis Mock.initialBalances)
    let r := (dispatch Mock.config (.signed 2) (.claimOnwership (Mock.hashing Mock.testData))).run s
    r = (r.1, r.2) ∧ s.mainOwner (Mock.hashing Mock.testData) = some 1 ∧
    ∃ b, r.2.mainOwner (Mock.hashing Mock.testData) = some b ∧ (b ≠ 1 →
      ((Call.claimOnwership (Mock.hashing Mock.testData) : Call Mock.Hash Mock.AccountId) =
          .claimOnwership (Mock.hashing Mock.testData) ∧
        RawOrigin.signed 2 = .signed b ∧
        ∃ m, s.metadata (Mock.hashing Mock.testData) b = some m ∧ 50 < m.shares) ∨
      (∃ data sharePrice,
        (Call.claimOnwership (Mock.hashing Mock.testData) : Call Mock.Hash Mock.AccountId) =
          .createProportionalAsset data sharePrice ∧
        Mock.config.hashing data = Mock.hashing Mock.testData ∧ RawOrigin.signed 2 = .signed b ∧
        s.metadata (Mock.hashing Mock.testData) b = none))) := by
  intro s r
  have h : r = (r.1, r.2) := rfl
  have hOwner : s.mainOwner (Mock.hashing Mock.testData) = some 1 := by decide
  exact ⟨h, hOwner, mainOwner_authority h hOwner⟩

/-- Account 1 creates the mock asset; account 2, which holds none of it, creates it again
and becomes its main owner without a claim. -/
theorem second_creation_takes_main_ownership :
    (let s := execute Mock.config [(.signed 1, .createProportionalAsset Mock.testData 10)]
      (genesis Mock.initialBalances)
    let r := (dispatch Mock.config (.signed 2) (.createProportionalAsset Mock.testData 10)).run s
    Reachable Mock.config s ∧ s.mainOwner (Mock.hashing Mock.testData) = some 1 ∧
      s.metadata (Mock.hashing Mock.testData) 2 = none ∧
      r.1 = .ok () ∧ r.2.mainOwner (Mock.hashing Mock.testData) = some 2) :=
  ⟨(Reachable.genesis _).execute _, by decide, by decide, rfl, by decide⟩

/-! ### A main owner holding a majority -/

theorem isSome_metadata_of_sharesOf_pos {id : Identifier} {who : AccountId}
    (h : 0 < s.sharesOf id who) : (s.metadata id who).isSome := by
  rcases hm : s.metadata id who with _ | m
  · simp [State.sharesOf, hm] at h
  · rfl

/-- On runs without the two defective calls, at most one account holds more than half of an
asset's shares. -/
theorem majority_unique (h : ReachableAvoiding cfg (BreaksSupply cfg) s) (id : Identifier)
    {a b : AccountId} (ha : 50 < s.sharesOf id a) (hb : 50 < s.sharesOf id b) : a = b := by
  by_contra hne
  have hOwner := recordsHaveOwner_of_reachable h.reachable id a
    (isSome_metadata_of_sharesOf_pos (by omega))
  have hTotal := supplyConserved_of_avoiding h id hOwner
  have hBoth := sharesOf_add_le_totalShares (s := s) id hne
  rw [hTotal, toNat_totalSupply] at hBoth
  omega

/-- On runs without the two defective calls, a main owner holding more than 50 shares of its
asset is still its main owner after any further call, failed or not, that avoids them: no other
account holds enough to claim it, and creating it again is one of the excluded calls. -/
theorem majority_keeps_mainOwner (h : ReachableAvoiding cfg (BreaksSupply cfg) s)
    {id : Identifier} {a : AccountId} (hOwner : s.mainOwner id = some a)
    (hMajority : 50 < s.sharesOf id a) {origin : RawOrigin AccountId}
    {call : Call Identifier AccountId} (hClean : ¬ BreaksSupply cfg s origin call)
    {r : Except (DispatchError Error) Unit} (hStep : (dispatch cfg origin call).run s = (r, s')) :
    s'.mainOwner id = some a := by
  rcases r with e | ⟨⟩
  · rw [dispatch_atomic cfg origin call s e s' hStep, hOwner]
  rcases dispatch_mainOwner hStep id with hSame | ⟨b, hNew, -, ⟨rfl, rfl, m, hm, hgt⟩ | hCreate⟩
  · rw [hSame, hOwner]
  · have hb : 50 < s.sharesOf id b := by
      rw [State.sharesOf_of_metadata s hm]
      exact UInt64.lt_iff_toNat_lt.mp hgt
    rw [hNew, majority_unique h id hb hMajority]
  · obtain ⟨data, sharePrice, rfl, hid, -, -⟩ := hCreate
    exact absurd (by simp [BreaksSupply, hid, hOwner]) hClean

/-- Account 1 creates the mock asset, so it holds all 100 shares, and then gives 30 of them to
account 2. -/
theorem majority_keeps_mainOwner_of_mock :
    (let s := ((dispatch Mock.config (.signed 1) (.createProportionalAsset Mock.testData 10)).run
      (genesis Mock.initialBalances)).2
    let call : Call Mock.Hash Mock.AccountId := .transferSharesToAccount (Mock.hashing Mock.testData) 30 2
    let r := (dispatch Mock.config (.signed 1) call).run s
    ReachableAvoiding Mock.config (BreaksSupply Mock.config) s ∧
      s.mainOwner (Mock.hashing Mock.testData) = some 1 ∧ 50 < s.sharesOf (Mock.hashing Mock.testData) 1 ∧
      ¬ BreaksSupply Mock.config s (.signed 1) call ∧ r = (r.1, r.2) ∧
      r.2.mainOwner (Mock.hashing Mock.testData) = some 1) := by
  intro s call r
  have h : ReachableAvoiding Mock.config (BreaksSupply Mock.config) s := .dispatch _ _ (.genesis _) (by decide)
  have hOwner : s.mainOwner (Mock.hashing Mock.testData) = some 1 := by decide
  have hMajority : 50 < s.sharesOf (Mock.hashing Mock.testData) 1 := by decide
  have hClean : ¬ BreaksSupply Mock.config s (.signed 1) call := by decide
  have hStep : r = (r.1, r.2) := rfl
  exact ⟨h, hOwner, hMajority, hClean, hStep, majority_keeps_mainOwner h hOwner hMajority hClean hStep⟩

/-- In every reachable state, an account holding more than 50 shares of an asset it is not the
main owner of takes over the main ownership with one claim. The asset has a main owner, since
every record belongs to an asset with one, so `AssetDoesNotExist` cannot refuse the claim, and
`AlreadyMainOnwer` and `NotEnoughShares` do not apply. -/
theorem majority_holder_can_claim (hs : Reachable cfg s) {id : Identifier} {who : AccountId}
    (hMajority : 50 < s.sharesOf id who) (hNotOwner : s.mainOwner id ≠ some who) :
    (dispatch cfg (.signed who) (.claimOnwership id)).run s =
      (.ok (), (s.setMainOwner id (some who)).depositEvent (.mainOwnerSet who id)) := by
  obtain ⟨m, hm⟩ := Option.isSome_iff_exists.mp
    (isSome_metadata_of_sharesOf_pos (show 0 < s.sharesOf id who by omega))
  obtain ⟨owner, hOwner⟩ := Option.isSome_iff_exists.mp
    (recordsHaveOwner_of_reachable hs id who (by simp [hm]))
  have hne : owner ≠ who := fun h => hNotOwner (h ▸ hOwner)
  have hgt : m.shares > 50 := by
    rw [State.sharesOf_of_metadata s hm] at hMajority
    exact UInt64.lt_iff_toNat_lt.mpr hMajority
  show (claimOnwership (.signed who) id).run s = _
  simp only [claimOnwership_run, hOwner, ne_eq, hne, not_false_eq_true, if_true, hm, hgt]

/-- Account 1 creates the mock asset and gives 60 shares to account 2, which claims it. -/
theorem majority_holder_can_claim_of_mock :
    (let s := execute Mock.config
      [(.signed 1, .createProportionalAsset Mock.testData 10),
       (.signed 1, .transferSharesToAccount (Mock.hashing Mock.testData) 60 2)]
      (genesis Mock.initialBalances)
    Reachable Mock.config s ∧ 50 < s.sharesOf (Mock.hashing Mock.testData) 2 ∧
      s.mainOwner (Mock.hashing Mock.testData) ≠ some 2 ∧
      (dispatch Mock.config (.signed 2) (.claimOnwership (Mock.hashing Mock.testData))).run s =
        (.ok (), (s.setMainOwner (Mock.hashing Mock.testData) (some 2)).depositEvent
          (.mainOwnerSet 2 (Mock.hashing Mock.testData)))) := by
  intro s
  have hs : Reachable Mock.config s := (Reachable.genesis _).execute _
  have hMajority : 50 < s.sharesOf (Mock.hashing Mock.testData) 2 := by decide
  have hNotOwner : s.mainOwner (Mock.hashing Mock.testData) ≠ some 2 := by decide
  exact ⟨hs, hMajority, hNotOwner, majority_holder_can_claim hs hMajority hNotOwner⟩

end ProportionalAsset
