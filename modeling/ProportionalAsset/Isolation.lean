import ProportionalAsset.Machine

/-! Assets do not interfere. A call works on one asset: the identifier it is given, or for a
creation the hash of its data. What it returns and what it does to that asset depend only on
the asset's records and main owner, and for a purchase on the currency's balances; every other
asset it leaves as it was. So two calls on different assets commute, unless both are
purchases, which compete for the balances. Over whole runs: two interleavings of the same calls
on disjoint sets of assets, one side making no purchase, reach the same records, main owners
and balances, with the same events in another order. -/

namespace ProportionalAsset

open DispatchM

variable {Identifier AccountId β : Type} [DecidableEq Identifier] [DecidableEq AccountId]

/-- The asset a call works on: the identifier it is given, or for a creation the hash of its
data. -/
def Call.asset (cfg : Config Identifier AccountId β) : Call Identifier AccountId → Identifier
  | .createProportionalAsset data _ => cfg.hashing data
  | .offerShares id .. | .transferSharesToAccount id .. | .buyShares id .. | .claimOnwership id => id

/-- A purchase, the one call that reads and moves the currency's balances. -/
def Call.isPurchase : Call Identifier AccountId → Bool
  | .buyShares .. => true
  | _ => false

/-- The event a successful call by `who` deposits. -/
def Call.event (cfg : Config Identifier AccountId β) (who : AccountId) :
    Call Identifier AccountId → Event Identifier AccountId
  | .createProportionalAsset data _ => .proportionalAssetInitialized (cfg.hashing data) who
  | .offerShares id _ sharePrice => .sharesOffered id sharePrice
  | .transferSharesToAccount _ amount recipient => .sharesTransferred who recipient amount
  | .buyShares _ sharesToBuy _ seller => .sharesTransferred seller who sharesToBuy
  | .claimOnwership id => .mainOwnerSet who id

/-- The events a call by `origin` deposits when it returns `r`: its own event on success, none
on an error. -/
def Call.events (cfg : Config Identifier AccountId β) (origin : RawOrigin AccountId)
    (call : Call Identifier AccountId) : Except (DispatchError Error) Unit → List (Event Identifier AccountId)
  | .ok () => match origin with
    | .signed who => [call.event cfg who]
    | _ => []
  | .error _ => []

/-! ### What a call on one asset observes -/

/-- `s` and `t` look the same to a call on asset `id`: the same records of `id`, the same main
owner of `id`, and, when `withBalances` holds, the same balances. -/
structure SameView (id : Identifier) (withBalances : Bool) (s t : State Identifier AccountId β) :
    Prop where
  metadata : ∀ who, s.metadata id who = t.metadata id who
  mainOwner : s.mainOwner id = t.mainOwner id
  balances : withBalances → s.balances = t.balances

namespace SameView

variable {id : Identifier} {b : Bool} {s t u : State Identifier AccountId β}

theorem refl (id : Identifier) (b : Bool) (s : State Identifier AccountId β) : SameView id b s s :=
  ⟨fun _ => rfl, rfl, fun _ => rfl⟩

theorem symm (h : SameView id b s t) : SameView id b t s :=
  ⟨fun who => (h.metadata who).symm, h.mainOwner.symm, fun hb => (h.balances hb).symm⟩

theorem trans (h₁ : SameView id b s t) (h₂ : SameView id b t u) : SameView id b s u :=
  ⟨fun who => (h₁.metadata who).trans (h₂.metadata who), h₁.mainOwner.trans h₂.mainOwner,
    fun hb => (h₁.balances hb).trans (h₂.balances hb)⟩

/-- Records and main owner agree; the balances agree whenever `b` asks for them. -/
theorem withBalances (h : SameView id false s t) (hb : b → s.balances = t.balances) :
    SameView id b s t :=
  ⟨h.metadata, h.mainOwner, hb⟩

theorem withoutBalances (h : SameView id b s t) : SameView id false s t :=
  ⟨h.metadata, h.mainOwner, nofun⟩

theorem setMetadata (h : SameView id b s t) (who : AccountId) (m : Option MetaData) :
    SameView id b (s.setMetadata id who m) (t.setMetadata id who m) :=
  ⟨fun who' => by simp only [State.metadata_setMetadata, h.metadata who'], h.mainOwner, h.balances⟩

theorem setMainOwner (h : SameView id b s t) (owner : Option AccountId) :
    SameView id b (s.setMainOwner id owner) (t.setMainOwner id owner) :=
  ⟨h.metadata, by simp, h.balances⟩

theorem depositEvent (h : SameView id b s t) (e : Event Identifier AccountId) :
    SameView id b (s.depositEvent e) (t.depositEvent e) :=
  ⟨h.metadata, h.mainOwner, h.balances⟩

theorem respects_transferCurrency (c : Currency AccountId β) (source dest : AccountId)
    (amount : Nat) (r : ExistenceRequirement) (e : DispatchError Error) :
    Respects (SameView id true)
      (transferCurrency c source dest amount r e : PalletM Identifier AccountId β Unit) := by
  intro s t h
  simp only [run, transferCurrency, h.balances rfl]
  split
  · exact ⟨rfl, h.metadata, h.mainOwner, fun _ => rfl⟩
  · exact ⟨rfl, h⟩

end SameView

/-! ### Each call sees only its own asset -/

section Calls

variable (cfg : Config Identifier AccountId β) (origin : RawOrigin AccountId)

theorem createProportionalAsset_respects (data : List UInt8) (sharePrice : UInt64) (b : Bool) :
    Respects (SameView (cfg.hashing data) b) (createProportionalAsset cfg origin data sharePrice) := by
  refine .bind (respects_ensureSigned _) fun who => ?_
  refine .bind (respects_read fun _ _ h => h.metadata who) fun metadata => ?_
  cases metadata with
  | some _ => exact respects_throw _
  | none =>
      exact .bind (respects_write fun _ _ h => h.setMetadata _ _) fun _ =>
        .bind (respects_write fun _ _ h => h.setMainOwner _) fun _ =>
        respects_write fun _ _ h => h.depositEvent _

theorem offerShares_respects (id : Identifier) (sharesToOffer sharePrice : UInt64) (b : Bool) :
    Respects (SameView id b)
      (offerShares origin id sharesToOffer sharePrice : PalletM Identifier AccountId β Unit) := by
  refine .bind (respects_ensureSigned _) fun who => ?_
  rw [isOwnerOf_eq]
  refine .bind (respects_read fun _ _ h => by rw [h.mainOwner]) fun _ => ?_
  refine .bind (respects_ensure _ _) fun _ => ?_
  refine .bind (respects_read fun _ _ h => h.metadata who) fun metadata => ?_
  cases metadata with
  | none => exact respects_throw _
  | some metadata =>
      refine .bind (respects_ensure _ _) fun _ => ?_
      exact .bind (respects_write fun _ _ h => h.setMetadata _ _) fun _ =>
        respects_write fun _ _ h => h.depositEvent _

theorem transferSharesToAccount_respects (id : Identifier) (amount : UInt64)
    (recipient : AccountId) (b : Bool) :
    Respects (SameView id b)
      (transferSharesToAccount origin id amount recipient : PalletM Identifier AccountId β Unit) := by
  refine .bind (respects_ensureSigned _) fun who => ?_
  refine .bind (respects_read fun _ _ h => h.metadata who) fun originMetadata => ?_
  cases originMetadata with
  | none => exact respects_throw _
  | some originMetadata =>
      refine .bind (respects_ensure _ _) fun _ => ?_
      refine .bind (respects_read fun _ _ h => h.metadata recipient) fun metadata => ?_
      cases metadata <;>
        exact .bind (respects_write fun _ _ h => h.setMetadata _ _) fun _ =>
          .bind (respects_write fun _ _ h => h.setMetadata _ _) fun _ =>
          respects_write fun _ _ h => h.depositEvent _

theorem buyShares_respects (id : Identifier) (sharesToBuy : UInt64) (amount : Nat)
    (seller : AccountId) :
    Respects (SameView id true) (buyShares cfg origin id sharesToBuy amount seller) := by
  refine .bind (respects_ensureSigned _) fun who => ?_
  refine .bind (respects_ensure _ _) fun _ => ?_
  rw [isOwnerOf_eq]
  refine .bind (respects_read fun _ _ h => by rw [h.mainOwner]) fun _ => ?_
  refine .bind (respects_ensure _ _) fun _ => ?_
  refine .bind (respects_read fun _ _ h => h.metadata seller) fun fromMetadata => ?_
  cases fromMetadata with
  | none => exact respects_throw _
  | some fromMetadata =>
      refine .bind (respects_ensure _ _) fun _ => ?_
      refine .bind (respects_okOr _ _) fun _ => ?_
      refine .bind (respects_ensure _ _) fun _ => ?_
      refine .bind (respects_ensure _ _) fun _ => ?_
      refine .bind (respects_ensure _ _) fun _ => ?_
      refine .bind (respects_read fun _ _ h => h.metadata who) fun _ => ?_
      refine .bind (respects_read fun _ _ h => by rw [h.balances rfl]) fun _ => ?_
      refine .bind (respects_ensure _ _) fun _ => ?_
      refine .bind (SameView.respects_transferCurrency _ _ _ _ _ _) fun _ => ?_
      exact .bind (respects_write fun _ _ h => h.setMetadata _ _) fun _ =>
        .bind (respects_write fun _ _ h => h.setMetadata _ _) fun _ =>
        respects_write fun _ _ h => h.depositEvent _

theorem claimOnwership_respects (id : Identifier) (b : Bool) :
    Respects (SameView id b) (claimOnwership origin id : PalletM Identifier AccountId β Unit) := by
  refine .bind (respects_ensureSigned _) fun who => ?_
  refine .bind (respects_read fun _ _ h => h.mainOwner) fun _ => ?_
  refine .bind (respects_okOr _ _) fun _ => ?_
  refine .bind (respects_ensure _ _) fun _ => ?_
  refine .bind (respects_read fun _ _ h => h.metadata who) fun originMetadata => ?_
  cases originMetadata with
  | none => exact respects_throw _
  | some originMetadata =>
      refine .bind (respects_ensure _ _) fun _ => ?_
      exact .bind (respects_write fun _ _ h => h.setMainOwner _) fun _ =>
        respects_write fun _ _ h => h.depositEvent _

/-- What a call returns, and what it leaves of its asset, depend only on that asset's records
and main owner, and for a purchase on the balances. -/
theorem dispatch_respects (call : Call Identifier AccountId) :
    Respects (SameView (call.asset cfg) call.isPurchase) (dispatch cfg origin call) := by
  cases call with
  | createProportionalAsset data sharePrice =>
      exact createProportionalAsset_respects cfg origin data sharePrice _
  | offerShares id sharesToOffer sharePrice =>
      exact offerShares_respects origin id sharesToOffer sharePrice _
  | transferSharesToAccount id amount recipient =>
      exact transferSharesToAccount_respects origin id amount recipient _
  | buyShares id sharesToBuy amount seller => exact buyShares_respects cfg origin id sharesToBuy amount seller
  | claimOnwership id => exact claimOnwership_respects origin id _

variable {s s' : State Identifier AccountId β}

/-- The footprint of a call, failed or not: every other asset keeps its records and main
owner, only a purchase moves balances, and the call appends its own event if it succeeds. -/
theorem dispatch_footprint {call : Call Identifier AccountId} {r : Except (DispatchError Error) Unit}
    (h : (dispatch cfg origin call).run s = (r, s')) :
    (∀ id, id ≠ call.asset cfg → SameView id false s' s) ∧
    (call.isPurchase = false → s'.balances = s.balances) ∧
    s'.events = s.events ++ call.events cfg origin r := by
  rcases r with e | ⟨⟩
  · rw [dispatch_atomic cfg origin call s e s' h]
    exact ⟨fun id _ => .refl id false s, fun _ => rfl, by simp [Call.events]⟩
  cases call with
  | createProportionalAsset data sharePrice =>
      obtain ⟨_, rfl, -, rfl⟩ := createProportionalAsset_ok cfg origin h
      exact ⟨fun id (hid : id ≠ cfg.hashing data) =>
        ⟨fun _ => by simp [State.metadata_setMetadata, hid], by simp [hid], nofun⟩, fun _ => rfl, rfl⟩
  | offerShares id' sharesToOffer sharePrice =>
      obtain ⟨_, _, rfl, -, -, -, rfl⟩ := offerShares_ok origin h
      exact ⟨fun id (hid : id ≠ id') => ⟨fun _ => by simp [State.metadata_setMetadata, hid], rfl, nofun⟩,
        fun _ => rfl, rfl⟩
  | transferSharesToAccount id' amount recipient =>
      obtain ⟨_, _, rfl, -, -, rfl⟩ := transferSharesToAccount_ok origin h
      exact ⟨fun id (hid : id ≠ id') => ⟨fun _ => by simp [State.metadata_setMetadata, hid], rfl, nofun⟩,
        fun _ => rfl, rfl⟩
  | buyShares id' sharesToBuy amount seller =>
      obtain ⟨_, _, _, rfl, -, -, -, -, -, -, -, -, rfl⟩ := buyShares_ok cfg origin h
      exact ⟨fun id (hid : id ≠ id') => ⟨fun _ => by simp [State.metadata_setMetadata, hid], rfl, nofun⟩,
        nofun, rfl⟩
  | claimOnwership id' =>
      obtain ⟨_, _, _, rfl, -, -, -, -, rfl⟩ := claimOnwership_ok origin h
      exact ⟨fun id (hid : id ≠ id') => ⟨fun _ => rfl, by simp [hid], nofun⟩, fun _ => rfl, rfl⟩

end Calls

/-! ### Calls on different assets commute -/

/-- `s` and `t` are the same to every call and to every reader of storage: the same records,
main owners and balances, and the same events, possibly in another order. -/
structure State.Equiv (s t : State Identifier AccountId β) : Prop where
  metadata : s.metadata = t.metadata
  mainOwner : s.mainOwner = t.mainOwner
  balances : s.balances = t.balances
  events : s.events.Perm t.events

namespace State.Equiv

variable {s t u : State Identifier AccountId β}

theorem refl (s : State Identifier AccountId β) : s.Equiv s := ⟨rfl, rfl, rfl, .refl _⟩

theorem symm (h : s.Equiv t) : t.Equiv s := ⟨h.1.symm, h.2.symm, h.3.symm, h.4.symm⟩

theorem trans (h₁ : s.Equiv t) (h₂ : t.Equiv u) : s.Equiv u :=
  ⟨h₁.1.trans h₂.1, h₁.2.trans h₂.2, h₁.3.trans h₂.3, h₁.4.trans h₂.4⟩

theorem sameView (h : s.Equiv t) (id : Identifier) (b : Bool) : SameView id b s t :=
  ⟨fun who => congrFun (congrFun h.metadata id) who, congrFun h.mainOwner id, fun _ => h.balances⟩

/-- States that agree on every asset, with the same balances and the same events up to order,
are equivalent. -/
theorem of_sameView (h : ∀ id, SameView id false s t) (hBalances : s.balances = t.balances)
    (hEvents : s.events.Perm t.events) : s.Equiv t :=
  ⟨funext fun id => funext (h id).metadata, funext fun id => (h id).mainOwner, hBalances, hEvents⟩

end State.Equiv

variable {cfg : Config Identifier AccountId β}

/-- Equivalent states give every call the same result and stay equivalent. -/
theorem dispatch_equiv (origin : RawOrigin AccountId) (call : Call Identifier AccountId)
    {s t : State Identifier AccountId β} (h : s.Equiv t) :
    ((dispatch cfg origin call).run s).1 = ((dispatch cfg origin call).run t).1 ∧
      ((dispatch cfg origin call).run s).2.Equiv ((dispatch cfg origin call).run t).2 := by
  obtain ⟨hResult, hView⟩ := dispatch_respects cfg origin call s t (h.sameView _ _)
  obtain ⟨hFrameS, hBalancesS, hEventsS⟩ := dispatch_footprint cfg origin Prod.mk.eta.symm
  obtain ⟨hFrameT, hBalancesT, hEventsT⟩ := dispatch_footprint cfg origin Prod.mk.eta.symm
  refine ⟨hResult, .of_sameView (fun id => ?_) ?_ ?_⟩
  · by_cases hid : id = call.asset cfg
    · subst hid
      exact hView.withoutBalances
    · exact (hFrameS id hid).trans ((h.sameView id false).trans (hFrameT id hid).symm)
  · cases hp : call.isPurchase
    · exact (hBalancesS hp).trans (h.balances.trans (hBalancesT hp).symm)
    · exact hView.balances hp
  · rw [hEventsS, hEventsT, hResult]
    exact h.events.append_right _

theorem execute_equiv (calls : List (RawOrigin AccountId × Call Identifier AccountId))
    {s t : State Identifier AccountId β} (h : s.Equiv t) :
    (execute cfg calls s).Equiv (execute cfg calls t) := by
  induction calls generalizing s t with
  | nil => exact h
  | cons c calls ih => exact ih (dispatch_equiv c.1 c.2 h).2

section Commute

variable {o₁ o₂ : RawOrigin AccountId} {c₁ c₂ : Call Identifier AccountId}
  {s : State Identifier AccountId β}

/-- Run after a call on another asset, a call returns what it returns first and does the same
to its own asset, unless both calls are purchases. -/
theorem dispatch_after_other (o₁ : RawOrigin AccountId) (hAsset : c₁.asset cfg ≠ c₂.asset cfg)
    (hPurchase : ¬(c₁.isPurchase ∧ c₂.isPurchase)) {r₂ : Except (DispatchError Error) Unit}
    {s₂ : State Identifier AccountId β} (h₂ : (dispatch cfg o₂ c₂).run s = (r₂, s₂)) :
    ((dispatch cfg o₁ c₁).run s₂).1 = ((dispatch cfg o₁ c₁).run s).1 ∧
      SameView (c₁.asset cfg) c₁.isPurchase ((dispatch cfg o₁ c₁).run s₂).2
        ((dispatch cfg o₁ c₁).run s).2 := by
  obtain ⟨hFrame, hBalances, -⟩ := dispatch_footprint cfg o₂ h₂
  refine dispatch_respects cfg o₁ c₁ s₂ s ((hFrame _ hAsset).withBalances fun hp => hBalances ?_)
  simpa [hp] using hPurchase

/-- The two orders of two calls on different assets, not both purchases, end in equivalent
states. -/
theorem dispatch_swap_equiv (hAsset : c₁.asset cfg ≠ c₂.asset cfg)
    (hPurchase : ¬(c₁.isPurchase ∧ c₂.isPurchase))
    {r₁ r₂ r₁₂ r₂₁ : Except (DispatchError Error) Unit} {s₁ s₂ s₁₂ s₂₁ : State Identifier AccountId β}
    (h₁ : (dispatch cfg o₁ c₁).run s = (r₁, s₁)) (h₁₂ : (dispatch cfg o₂ c₂).run s₁ = (r₁₂, s₁₂))
    (h₂ : (dispatch cfg o₂ c₂).run s = (r₂, s₂)) (h₂₁ : (dispatch cfg o₁ c₁).run s₂ = (r₂₁, s₂₁)) :
    s₁₂.Equiv s₂₁ := by
  obtain ⟨hR₁, hV₁⟩ := dispatch_after_other o₁ hAsset hPurchase h₂
  obtain ⟨hR₂, hV₂⟩ := dispatch_after_other o₂ hAsset.symm (fun h => hPurchase ⟨h.2, h.1⟩) h₁
  simp only [h₁, h₂, h₁₂, h₂₁] at hR₁ hV₁ hR₂ hV₂
  obtain ⟨hF₁, hB₁, hE₁⟩ := dispatch_footprint cfg o₁ h₁
  obtain ⟨hF₁₂, hB₁₂, hE₁₂⟩ := dispatch_footprint cfg o₂ h₁₂
  obtain ⟨hF₂, hB₂, hE₂⟩ := dispatch_footprint cfg o₂ h₂
  obtain ⟨hF₂₁, hB₂₁, hE₂₁⟩ := dispatch_footprint cfg o₁ h₂₁
  refine .of_sameView (fun id => ?_) ?_ ?_
  · by_cases hid₁ : id = c₁.asset cfg
    · subst hid₁
      exact (hF₁₂ _ hAsset).trans hV₁.symm.withoutBalances
    by_cases hid₂ : id = c₂.asset cfg
    · subst hid₂
      exact hV₂.withoutBalances.trans (hF₂₁ _ hAsset.symm).symm
    exact (hF₁₂ id hid₂).trans ((hF₁ id hid₁).trans ((hF₂ id hid₂).symm.trans (hF₂₁ id hid₁).symm))
  · cases hp₁ : c₁.isPurchase <;> cases hp₂ : c₂.isPurchase
    · exact (hB₁₂ hp₂).trans ((hB₁ hp₁).trans ((hB₂ hp₂).symm.trans (hB₂₁ hp₁).symm))
    · exact (hV₂.balances hp₂).trans (hB₂₁ hp₁).symm
    · exact (hB₁₂ hp₂).trans (hV₁.balances hp₁).symm
    · exact absurd ⟨hp₁, hp₂⟩ hPurchase
  · rw [hE₁₂, hE₁, hE₂₁, hE₂, hR₁, hR₂, List.append_assoc, List.append_assoc]
    exact List.perm_append_comm.append_left _

/-- Two calls on different assets, not both purchases, commute: each returns the same result in
either order, and the two orders leave the same records, main owners and balances. Each order's
log is the starting log followed by the two calls' own events, in the order the calls ran. -/
theorem calls_on_distinct_assets_commute (hAsset : c₁.asset cfg ≠ c₂.asset cfg)
    (hPurchase : ¬(c₁.isPurchase ∧ c₂.isPurchase))
    {r₁ r₂ r₁₂ r₂₁ : Except (DispatchError Error) Unit} {s₁ s₂ s₁₂ s₂₁ : State Identifier AccountId β}
    (h₁ : (dispatch cfg o₁ c₁).run s = (r₁, s₁)) (h₁₂ : (dispatch cfg o₂ c₂).run s₁ = (r₁₂, s₁₂))
    (h₂ : (dispatch cfg o₂ c₂).run s = (r₂, s₂)) (h₂₁ : (dispatch cfg o₁ c₁).run s₂ = (r₂₁, s₂₁)) :
    r₁₂ = r₂ ∧ r₂₁ = r₁ ∧ s₁₂.metadata = s₂₁.metadata ∧ s₁₂.mainOwner = s₂₁.mainOwner ∧
      s₁₂.balances = s₂₁.balances ∧
      s₁₂.events = s.events ++ c₁.events cfg o₁ r₁ ++ c₂.events cfg o₂ r₂ ∧
      s₂₁.events = s.events ++ c₂.events cfg o₂ r₂ ++ c₁.events cfg o₁ r₁ := by
  have hR₁ := (dispatch_after_other o₁ hAsset hPurchase h₂).1
  have hR₂ := (dispatch_after_other o₂ hAsset.symm (fun h => hPurchase ⟨h.2, h.1⟩) h₁).1
  simp only [h₁, h₂, h₁₂, h₂₁] at hR₁ hR₂
  obtain ⟨hMetadata, hMainOwner, hBalances, -⟩ := dispatch_swap_equiv hAsset hPurchase h₁ h₁₂ h₂ h₂₁
  refine ⟨hR₂, hR₁, hMetadata, hMainOwner, hBalances, ?_, ?_⟩
  · rw [(dispatch_footprint cfg o₂ h₁₂).2.2, (dispatch_footprint cfg o₁ h₁).2.2, hR₂]
  · rw [(dispatch_footprint cfg o₁ h₂₁).2.2, (dispatch_footprint cfg o₂ h₂).2.2, hR₁]

end Commute

/-- Account 1 creates the mock asset and the asset of the empty payload. Then, in either order,
it gives 10 shares of the first to account 2 and offers 5 shares of the second at 20. -/
theorem calls_on_distinct_assets_commute_of_mock :
    (let s := execute Mock.config
      [(.signed 1, .createProportionalAsset Mock.testData 10),
       (.signed 1, .createProportionalAsset [] 10)] (genesis Mock.initialBalances)
    let c₁ : Call Mock.Hash Mock.AccountId := .transferSharesToAccount (Mock.hashing Mock.testData) 10 2
    let c₂ : Call Mock.Hash Mock.AccountId := .offerShares (Mock.hashing []) 5 20
    let r₁ := (dispatch Mock.config (.signed 1) c₁).run s
    let r₂ := (dispatch Mock.config (.signed 1) c₂).run s
    let r₁₂ := (dispatch Mock.config (.signed 1) c₂).run r₁.2
    let r₂₁ := (dispatch Mock.config (.signed 1) c₁).run r₂.2
    c₁.asset Mock.config ≠ c₂.asset Mock.config ∧ ¬(c₁.isPurchase ∧ c₂.isPurchase) ∧
      r₁₂.1 = r₂.1 ∧ r₂₁.1 = r₁.1 ∧ r₁₂.2.metadata = r₂₁.2.metadata ∧
      r₁₂.2.mainOwner = r₂₁.2.mainOwner ∧ r₁₂.2.balances = r₂₁.2.balances ∧
      r₁₂.2.events = s.events ++ c₁.events Mock.config (.signed 1) r₁.1 ++
        c₂.events Mock.config (.signed 1) r₂.1 ∧
      r₂₁.2.events = s.events ++ c₂.events Mock.config (.signed 1) r₂.1 ++
        c₁.events Mock.config (.signed 1) r₁.1) := by
  intro s c₁ c₂ r₁ r₂ r₁₂ r₂₁
  have hAsset : c₁.asset Mock.config ≠ c₂.asset Mock.config := by decide
  have hPurchase : ¬(c₁.isPurchase ∧ c₂.isPurchase) := by decide
  exact ⟨hAsset, hPurchase, calls_on_distinct_assets_commute hAsset hPurchase
    (Prod.mk.eta.symm : r₁ = _) Prod.mk.eta.symm Prod.mk.eta.symm Prod.mk.eta.symm⟩

/-! ### Interleavings of runs on disjoint assets -/

/-- The calls of a run on the assets `inside` selects, in their order. -/
def callsInside (cfg : Config Identifier AccountId β) (inside : Identifier → Bool)
    (calls : List (RawOrigin AccountId × Call Identifier AccountId)) :
    List (RawOrigin AccountId × Call Identifier AccountId) :=
  calls.filter fun c => inside (c.2.asset cfg)

omit [DecidableEq Identifier] [DecidableEq AccountId] in
theorem callsInside_subset_cons (inside : Identifier → Bool)
    (c : RawOrigin AccountId × Call Identifier AccountId)
    (calls : List (RawOrigin AccountId × Call Identifier AccountId)) :
    callsInside cfg inside calls ⊆ callsInside cfg inside (c :: calls) :=
  ((List.sublist_cons_self c calls).filter _).subset

/-- In a run, two neighbouring calls on different assets, not both purchases, swap places. -/
theorem execute_pair_equiv (c d : RawOrigin AccountId × Call Identifier AccountId)
    (hAsset : c.2.asset cfg ≠ d.2.asset cfg) (hPurchase : ¬(c.2.isPurchase ∧ d.2.isPurchase))
    (s : State Identifier AccountId β) : (execute cfg [c, d] s).Equiv (execute cfg [d, c] s) :=
  dispatch_swap_equiv hAsset hPurchase Prod.mk.eta.symm Prod.mk.eta.symm Prod.mk.eta.symm
    Prod.mk.eta.symm

/-- A call moves past calls on other assets, when the two are never both purchases. -/
theorem execute_cons_equiv {c : RawOrigin AccountId × Call Identifier AccountId}
    {calls : List (RawOrigin AccountId × Call Identifier AccountId)}
    (hAsset : ∀ d ∈ calls, d.2.asset cfg ≠ c.2.asset cfg)
    (hPurchase : ∀ d ∈ calls, ¬(c.2.isPurchase ∧ d.2.isPurchase)) (s : State Identifier AccountId β) :
    (execute cfg (c :: calls) s).Equiv (execute cfg (calls ++ [c]) s) := by
  induction calls generalizing s with
  | nil => exact .refl _
  | cons d calls ih =>
      have hSwap := execute_pair_equiv c d (hAsset d (List.mem_cons_self _ _)).symm
        (hPurchase d (List.mem_cons_self _ _)) s
      exact (execute_equiv calls hSwap).trans (ih (fun e he => hAsset e (List.mem_cons_of_mem _ he))
        (fun e he => hPurchase e (List.mem_cons_of_mem _ he)) _)

/-- Running the calls on the assets `inside` selects first and the others after, each side in
its own order, ends in a state equivalent to the run's, when one side makes no purchase. -/
theorem execute_equiv_partition (inside : Identifier → Bool)
    (calls : List (RawOrigin AccountId × Call Identifier AccountId))
    (hPurchase : (∀ c ∈ callsInside cfg inside calls, c.2.isPurchase = false) ∨
      (∀ c ∈ callsInside cfg (fun id => !inside id) calls, c.2.isPurchase = false))
    (s : State Identifier AccountId β) :
    (execute cfg calls s).Equiv
      (execute cfg (callsInside cfg inside calls ++ callsInside cfg (fun id => !inside id) calls) s) := by
  induction calls generalizing s with
  | nil => exact .refl _
  | cons c calls ih =>
      have hRest := hPurchase.imp (fun h d hd => h d (callsInside_subset_cons _ c calls hd))
        (fun h d hd => h d (callsInside_subset_cons _ c calls hd))
      refine (ih hRest _).trans ?_
      cases hc : inside (c.2.asset cfg)
      · simp only [callsInside, List.filter_cons, hc, Bool.not_false, if_true, Bool.false_eq_true,
          if_false]
        have hMove : (execute cfg (c :: callsInside cfg inside calls) s).Equiv
            (execute cfg (callsInside cfg inside calls ++ [c]) s) := execute_cons_equiv ?_ ?_ s
        · simpa only [execute_append, execute_cons, execute_nil] using execute_equiv
            (calls.filter fun c => !inside (c.2.asset cfg)) hMove
        · intro d hd hEq
          rw [callsInside, List.mem_filter, hEq, hc] at hd
          exact Bool.false_ne_true hd.2
        · intro d hd hBoth
          rcases hPurchase with h | h
          · simp [h d (callsInside_subset_cons _ c calls hd)] at hBoth
          · simp [h c (List.mem_filter.mpr ⟨List.mem_cons_self _ _, by simp [hc]⟩)] at hBoth
      · simp only [callsInside, List.filter_cons, hc, if_true, Bool.not_true, Bool.false_eq_true,
          if_false]
        exact .refl _

/-- Two interleavings of the same calls on a set of assets with the same calls on the other
assets reach equivalent states: the same records, main owners and balances, and the same
events in another order. One of the two sides must make no purchase, since purchases on
different assets still compete for the buyers' balances. -/
theorem interleavings_equiv (inside : Identifier → Bool)
    {calls₁ calls₂ : List (RawOrigin AccountId × Call Identifier AccountId)}
    (hInside : callsInside cfg inside calls₁ = callsInside cfg inside calls₂)
    (hOutside : callsInside cfg (fun id => !inside id) calls₁ =
      callsInside cfg (fun id => !inside id) calls₂)
    (hPurchase : (∀ c ∈ callsInside cfg inside calls₁, c.2.isPurchase = false) ∨
      (∀ c ∈ callsInside cfg (fun id => !inside id) calls₁, c.2.isPurchase = false))
    (s : State Identifier AccountId β) :
    (execute cfg calls₁ s).Equiv (execute cfg calls₂ s) := by
  have h₂ := execute_equiv_partition inside calls₂ (hInside ▸ hOutside ▸ hPurchase) s
  rw [← hInside, ← hOutside] at h₂
  exact (execute_equiv_partition inside calls₁ hPurchase s).trans h₂.symm

/-- Account 1 creates the mock asset and gives 10 of its shares to account 2, while it creates
the asset of the empty payload and offers 5 of its shares at 2, of which account 2 buys 2 for
4. The two interleavings put the purchase before and after the gift. -/
theorem interleavings_equiv_of_mock :
    (let inside := fun id => id == Mock.hashing Mock.testData
    let calls₁ : List (RawOrigin Mock.AccountId × Call Mock.Hash Mock.AccountId) :=
      [(.signed 1, .createProportionalAsset Mock.testData 10),
       (.signed 1, .createProportionalAsset [] 10),
       (.signed 1, .transferSharesToAccount (Mock.hashing Mock.testData) 10 2),
       (.signed 1, .offerShares (Mock.hashing []) 5 2),
       (.signed 2, .buyShares (Mock.hashing []) 2 4 1)]
    let calls₂ : List (RawOrigin Mock.AccountId × Call Mock.Hash Mock.AccountId) :=
      [(.signed 1, .createProportionalAsset [] 10),
       (.signed 1, .offerShares (Mock.hashing []) 5 2),
       (.signed 1, .createProportionalAsset Mock.testData 10),
       (.signed 2, .buyShares (Mock.hashing []) 2 4 1),
       (.signed 1, .transferSharesToAccount (Mock.hashing Mock.testData) 10 2)]
    callsInside Mock.config inside calls₁ = callsInside Mock.config inside calls₂ ∧
      callsInside Mock.config (fun id => !inside id) calls₁ =
        callsInside Mock.config (fun id => !inside id) calls₂ ∧
      (∀ c ∈ callsInside Mock.config inside calls₁, c.2.isPurchase = false) ∧
      (execute Mock.config calls₁ (genesis Mock.initialBalances)).Equiv
        (execute Mock.config calls₂ (genesis Mock.initialBalances))) := by
  intro inside calls₁ calls₂
  have hInside : callsInside Mock.config inside calls₁ = callsInside Mock.config inside calls₂ := by
    decide
  have hOutside : callsInside Mock.config (fun id => !inside id) calls₁ =
      callsInside Mock.config (fun id => !inside id) calls₂ := by
    decide
  have hPurchase : ∀ c ∈ callsInside Mock.config inside calls₁, c.2.isPurchase = false := by
    decide
  exact ⟨hInside, hOutside, hPurchase,
    interleavings_equiv inside hInside hOutside (.inl hPurchase) _⟩

end ProportionalAsset
