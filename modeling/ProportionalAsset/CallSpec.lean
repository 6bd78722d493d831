import ProportionalAsset.Pallet

/-! What each call does, stated once. `*_atomic` says an error leaves the whole state as it
was: every check of the call runs before its first write. `*_ok` says what a successful call
has checked and which state it leaves. Both are read off `*_run`, which evaluates each call
once. Later modules cite these and never unfold a call. -/

namespace ProportionalAsset

open DispatchM

variable {Identifier AccountId β : Type} [DecidableEq Identifier] [DecidableEq AccountId]
variable (cfg : Config Identifier AccountId β) (origin : RawOrigin AccountId)
variable {s s' : State Identifier AccountId β}

theorem balanceToU64Option_of_lt {n : Nat} (h : n < UInt64.size) :
    balanceToU64Option n = some (UInt64.ofNatCore n h) := dif_pos h

theorem balanceToU64Option_of_not_lt {n : Nat} (h : ¬ n < UInt64.size) :
    balanceToU64Option n = none := dif_neg h

omit [DecidableEq Identifier] [DecidableEq AccountId] in
theorem atomic_transferCurrency (c : Currency AccountId β) (source dest : AccountId) (amount : Nat)
    (r : ExistenceRequirement) (e : DispatchError Error) :
    Atomic (transferCurrency c source dest amount r e : PalletM Identifier AccountId β Unit) := by
  intro s e' t h
  simp only [run, transferCurrency] at h
  split at h <;> cases h
  rfl

/-! ### Atomicity -/

theorem createProportionalAsset_atomic (data : List UInt8) (sharePrice : UInt64) :
    Atomic (createProportionalAsset cfg origin data sharePrice) := by
  refine .readOnly_bind (readOnly_ensureSigned _) fun who => ?_
  refine .readOnly_bind (readOnly_read _) fun metadata => ?_
  cases metadata with
  | some _ => exact (readOnly_throw _).atomic
  | none =>
      exact ((infallible_write _).bind fun _ => (infallible_write _).bind
        fun _ => infallible_write _).atomic

theorem offerShares_atomic (id : Identifier) (sharesToOffer sharePrice : UInt64) :
    Atomic (offerShares origin id sharesToOffer sharePrice :
      PalletM Identifier AccountId β Unit) := by
  refine .readOnly_bind (readOnly_ensureSigned _) fun who => ?_
  rw [isOwnerOf_eq]
  refine .readOnly_bind (readOnly_read _) fun _ => ?_
  refine .readOnly_bind (readOnly_ensure _ _) fun _ => ?_
  refine .readOnly_bind (readOnly_read _) fun metadata => ?_
  cases metadata with
  | none => exact (readOnly_throw _).atomic
  | some metadata =>
      refine .readOnly_bind (readOnly_ensure _ _) fun _ => ?_
      exact ((infallible_write _).bind fun _ => infallible_write _).atomic

theorem transferSharesToAccount_atomic (id : Identifier) (amount : UInt64) (recipient : AccountId) :
    Atomic (transferSharesToAccount origin id amount recipient :
      PalletM Identifier AccountId β Unit) := by
  refine .readOnly_bind (readOnly_ensureSigned _) fun who => ?_
  refine .readOnly_bind (readOnly_read _) fun originMetadata => ?_
  cases originMetadata with
  | none => exact (readOnly_throw _).atomic
  | some originMetadata =>
      refine .readOnly_bind (readOnly_ensure _ _) fun _ => ?_
      refine .readOnly_bind (readOnly_read _) fun metadata => ?_
      cases metadata <;>
        exact ((infallible_write _).bind fun _ => (infallible_write _).bind
          fun _ => infallible_write _).atomic

theorem buyShares_atomic (id : Identifier) (sharesToBuy : UInt64) (amount : Nat)
    (seller : AccountId) : Atomic (buyShares cfg origin id sharesToBuy amount seller) := by
  refine .readOnly_bind (readOnly_ensureSigned _) fun who => ?_
  refine .readOnly_bind (readOnly_ensure _ _) fun _ => ?_
  rw [isOwnerOf_eq]
  refine .readOnly_bind (readOnly_read _) fun _ => ?_
  refine .readOnly_bind (readOnly_ensure _ _) fun _ => ?_
  refine .readOnly_bind (readOnly_read _) fun fromMetadata => ?_
  cases fromMetadata with
  | none => exact (readOnly_throw _).atomic
  | some fromMetadata =>
      refine .readOnly_bind (readOnly_ensure _ _) fun _ => ?_
      refine .readOnly_bind (readOnly_okOr _ _) fun _ => ?_
      refine .readOnly_bind (readOnly_ensure _ _) fun _ => ?_
      refine .readOnly_bind (readOnly_ensure _ _) fun _ => ?_
      refine .readOnly_bind (readOnly_ensure _ _) fun _ => ?_
      refine .readOnly_bind (readOnly_read _) fun _ => ?_
      refine .readOnly_bind (readOnly_read _) fun _ => ?_
      refine .readOnly_bind (readOnly_ensure _ _) fun _ => ?_
      -- the currency transfer is the last step that can fail; only writes follow it
      refine .bind_infallible (atomic_transferCurrency _ _ _ _ _ _) fun _ => ?_
      exact (infallible_write _).bind fun _ => (infallible_write _).bind fun _ => infallible_write _

theorem claimOnwership_atomic (id : Identifier) :
    Atomic (claimOnwership origin id : PalletM Identifier AccountId β Unit) := by
  refine .readOnly_bind (readOnly_ensureSigned _) fun who => ?_
  refine .readOnly_bind (readOnly_read _) fun _ => ?_
  refine .readOnly_bind (readOnly_okOr _ _) fun _ => ?_
  refine .readOnly_bind (readOnly_ensure _ _) fun _ => ?_
  refine .readOnly_bind (readOnly_read _) fun originMetadata => ?_
  cases originMetadata with
  | none => exact (readOnly_throw _).atomic
  | some originMetadata =>
      refine .readOnly_bind (readOnly_ensure _ _) fun _ => ?_
      exact ((infallible_write _).bind fun _ => infallible_write _).atomic

theorem dispatch_atomic (call : Call Identifier AccountId) : Atomic (dispatch cfg origin call) := by
  cases call with
  | createProportionalAsset data sharePrice => exact createProportionalAsset_atomic cfg origin data sharePrice
  | offerShares id sharesToOffer sharePrice => exact offerShares_atomic origin id sharesToOffer sharePrice
  | transferSharesToAccount id amount recipient =>
      exact transferSharesToAccount_atomic origin id amount recipient
  | buyShares id sharesToBuy amount seller => exact buyShares_atomic cfg origin id sharesToBuy amount seller
  | claimOnwership id => exact claimOnwership_atomic origin id

/-! ### Each call, evaluated once

`*_run` gives a call's result and final state as a plain `if`/`match` over the state it starts
from, one branch per check of `lib.rs` in its order. The proofs below read their cases off these
and never unfold a call. -/

theorem createProportionalAsset_run (data : List UInt8) (sharePrice : UInt64) :
    (createProportionalAsset cfg origin data sharePrice).run s =
      match origin with
      | .signed who =>
          match s.metadata (cfg.hashing data) who with
          | some _ => (.error (.module .assetAlreadyExists), s)
          | none =>
              (.ok (), ((s.setMetadata (cfg.hashing data) who
                (some { shares := totalSupply, offers := 0, price := sharePrice })).setMainOwner
                (cfg.hashing data) (some who)).depositEvent
                (.proportionalAssetInitialized (cfg.hashing data) who))
      | _ => (.error .badOrigin, s) := by
  cases origin with
  | signed who =>
      dsimp only
      conv_lhs => simp only [createProportionalAsset, ProportionalAssetToOwnerToMetadata.get_eq,
        ProportionalAssetToOwnerToMetadata.set_eq, ProportionalAssetToMainOwner.set_eq, depositEvent_eq,
        run_ensureSigned_bind, run_read_bind]
      cases s.metadata (cfg.hashing data) who <;> rfl
  | root | none => rfl

theorem offerShares_run (id : Identifier) (sharesToOffer sharePrice : UInt64) :
    (offerShares origin id sharesToOffer sharePrice).run s =
      match origin with
      | .signed who =>
          if s.mainOwner id = some who then
            match s.metadata id who with
            | none => (.error (.module .invalidAccount), s)
            | some metadata =>
                if sharesToOffer ≤ metadata.shares then
                  (.ok (), (s.setMetadata id who
                    (some { shares := metadata.shares, offers := sharesToOffer, price := sharePrice })).depositEvent
                    (.sharesOffered id sharePrice))
                else (.error (.module .invalidOffers), s)
          else (.error (.module .notMainOwner), s)
      | _ => (.error .badOrigin, s) := by
  cases origin with
  | signed who =>
      dsimp only
      conv_lhs => simp only [offerShares, isOwnerOf_eq, ProportionalAssetToOwnerToMetadata.get_eq,
        ProportionalAssetToOwnerToMetadata.set_eq, depositEvent_eq, run_ensureSigned_bind, run_read_bind,
        run_ensure_bind, decide_eq_true_eq]
      rcases s.metadata id who with _ | m
      · rfl
      · conv_lhs => simp only [run_ensure_bind, run_write_bind, run_write]
  | root | none => rfl

theorem transferSharesToAccount_run (id : Identifier) (amount : UInt64) (recipient : AccountId) :
    (transferSharesToAccount origin id amount recipient).run s =
      match origin with
      | .signed who =>
          match s.metadata id who with
          | none => (.error (.module .invalidAccount), s)
          | some originMetadata =>
              if originMetadata.shares ≥ amount then
                (.ok (), ((s.setMetadata id recipient (some (match s.metadata id recipient with
                    | none => { shares := amount, offers := 0, price := 0 }
                    | some metadata =>
                        { shares := metadata.shares.saturatingAdd amount, offers := metadata.offers,
                          price := metadata.price }))).setMetadata id who
                    (some { shares := originMetadata.shares.saturatingSub amount,
                            offers := originMetadata.offers, price := originMetadata.price })).depositEvent
                    (.sharesTransferred who recipient amount))
              else (.error (.module .incorrectSharesSelection), s)
      | _ => (.error .badOrigin, s) := by
  cases origin with
  | signed who =>
      dsimp only
      conv_lhs => simp only [transferSharesToAccount, ProportionalAssetToOwnerToMetadata.get_eq,
        ProportionalAssetToOwnerToMetadata.set_eq, depositEvent_eq, run_ensureSigned_bind, run_read_bind]
      rcases s.metadata id who with _ | m
      · rfl
      · conv_lhs => simp only [run_ensure_bind, run_read_bind]
        cases s.metadata id recipient <;> rfl
  | root | none => rfl

theorem buyShares_run (id : Identifier) (sharesToBuy : UInt64) (amount : Nat) (seller : AccountId) :
    (buyShares cfg origin id sharesToBuy amount seller).run s =
      match origin with
      | .signed who =>
          if who ≠ seller then
            if s.mainOwner id = some seller then
              match s.metadata id seller with
              | none => (.error (.module .invalidAccount), s)
              | some fromMetadata =>
                  if fromMetadata.shares ≥ sharesToBuy then
                    match balanceToU64Option amount with
                    | none => (.error (.module .conversionError), s)
                    | some parsedAmountSent =>
                        if parsedAmountSent ≥ fromMetadata.price.saturatingMul sharesToBuy then
                          if sharesToBuy ≤ fromMetadata.shares then
                            if sharesToBuy ≤ fromMetadata.offers then
                              if cfg.currency.freeBalance s.balances who ≥ amount then
                                match cfg.currency.transfer who seller amount .allowDeath s.balances with
                                | none => (.error (.other "Can\x27t transfer currency"), s)
                                | some balances =>
                                    (.ok (), (({ s with balances }.setMetadata id who
                                      (some (match s.metadata id who with
                                        | none => { shares := sharesToBuy, offers := 0, price := 0 }
                                        | some oldOriginMetadata =>
                                            { shares := oldOriginMetadata.shares.saturatingAdd sharesToBuy,
                                              offers := 0, price := 0 }))).setMetadata id seller
                                      (some { shares := fromMetadata.shares.saturatingSub sharesToBuy,
                                              offers := fromMetadata.offers.saturatingSub sharesToBuy,
                                              price := fromMetadata.price })).depositEvent
                                      (.sharesTransferred seller who sharesToBuy))
                              else (.error (.module .insufficientBalance), s)
                            else (.error (.module .incorrectSharesSelection), s)
                          else (.error (.module .incorrectSharesSelection), s)
                        else (.error (.module .incorrectAmount), s)
                  else (.error (.module .incorrectAmount), s)
            else (.error (.module .incorrectSeller), s)
          else (.error (.module .incorrectSeller), s)
      | _ => (.error .badOrigin, s) := by
  cases origin with
  | signed who =>
      dsimp only
      conv_lhs => simp only [buyShares, isOwnerOf_eq, ProportionalAssetToOwnerToMetadata.get_eq,
        freeBalance_eq, ProportionalAssetToOwnerToMetadata.set_eq, depositEvent_eq, run_ensureSigned_bind,
        run_ensure_bind, run_read_bind, decide_eq_true_eq]
      rcases s.metadata id seller with _ | m
      · rfl
      · conv_lhs => simp only [run_ensure_bind, run_okOr_bind, run_read_bind, run_transferCurrency_bind,
          run_write_bind, run_write]
        rcases balanceToU64Option amount with _ | p <;>
          rcases cfg.currency.transfer who seller amount .allowDeath s.balances with _ | b <;> rfl
  | root | none => rfl

theorem claimOnwership_run (id : Identifier) :
    (claimOnwership origin id : PalletM Identifier AccountId β Unit).run s =
      match origin with
      | .signed who =>
          match s.mainOwner id with
          | none => (.error (.module .assetDoesNotExist), s)
          | some assetOwner =>
              if assetOwner ≠ who then
                match s.metadata id who with
                | none => (.error (.module .notEnoughShares), s)
                | some originMetadata =>
                    if originMetadata.shares > 50 then
                      (.ok (), (s.setMainOwner id (some who)).depositEvent (.mainOwnerSet who id))
                    else (.error (.module .notEnoughShares), s)
              else (.error (.module .alreadyMainOnwer), s)
      | _ => (.error .badOrigin, s) := by
  cases origin with
  | signed who =>
      dsimp only
      conv_lhs => simp only [claimOnwership, getMainOwnerByAsset_eq,
        ProportionalAssetToOwnerToMetadata.get_eq, setMainOwner_eq, depositEvent_eq,
        run_ensureSigned_bind, run_read_bind, run_okOr_bind]
      rcases s.mainOwner id with _ | owner
      · rfl
      · conv_lhs => simp only [run_ensure_bind, run_read_bind]
        rcases s.metadata id who with _ | m
        · rfl
        · conv_lhs => simp only [run_ensure_bind, run_write_bind, run_write]
  | root | none => rfl

/-! ### Successful calls -/

theorem createProportionalAsset_ok {data : List UInt8} {sharePrice : UInt64} {r : Unit}
    (h : (createProportionalAsset cfg origin data sharePrice).run s = (.ok r, s')) :
    ∃ who, origin = .signed who ∧ s.metadata (cfg.hashing data) who = none ∧
      s' = ((s.setMetadata (cfg.hashing data) who
          (some { shares := totalSupply, offers := 0, price := sharePrice })).setMainOwner
          (cfg.hashing data) (some who)).depositEvent
          (.proportionalAssetInitialized (cfg.hashing data) who) := by
  rw [createProportionalAsset_run] at h
  rcases origin with _ | who | _ <;> simp only [Prod.mk.injEq, reduceCtorEq, false_and] at h
  rcases hm : s.metadata (cfg.hashing data) who with _ | m <;>
    simp only [hm, Prod.mk.injEq, reduceCtorEq, false_and, true_and] at h
  exact ⟨who, rfl, hm, h.symm⟩

theorem offerShares_ok {id : Identifier} {sharesToOffer sharePrice : UInt64} {r : Unit}
    (h : (offerShares origin id sharesToOffer sharePrice).run s = (.ok r, s')) :
    ∃ who metadata, origin = .signed who ∧ s.mainOwner id = some who ∧
      s.metadata id who = some metadata ∧ sharesToOffer ≤ metadata.shares ∧
      s' = (s.setMetadata id who
          (some { shares := metadata.shares, offers := sharesToOffer, price := sharePrice })).depositEvent
          (.sharesOffered id sharePrice) := by
  rw [offerShares_run] at h
  rcases origin with _ | who | _ <;> simp only [Prod.mk.injEq, reduceCtorEq, false_and] at h
  rcases hm : s.metadata id who with _ | m <;>
    simp only [hm, ite_eq_iff, Prod.mk.injEq, reduceCtorEq, false_and, and_false, or_false, true_and] at h
  exact ⟨who, m, rfl, h.1, hm, h.2.1, h.2.2.symm⟩

theorem transferSharesToAccount_ok {id : Identifier} {amount : UInt64} {recipient : AccountId}
    {r : Unit} (h : (transferSharesToAccount origin id amount recipient).run s = (.ok r, s')) :
    ∃ who originMetadata, origin = .signed who ∧ s.metadata id who = some originMetadata ∧
      amount ≤ originMetadata.shares ∧
      s' = ((s.setMetadata id recipient (some (match s.metadata id recipient with
          | none => { shares := amount, offers := 0, price := 0 }
          | some metadata =>
              { shares := metadata.shares.saturatingAdd amount, offers := metadata.offers,
                price := metadata.price }))).setMetadata id who
          (some { shares := originMetadata.shares.saturatingSub amount,
                  offers := originMetadata.offers, price := originMetadata.price })).depositEvent
          (.sharesTransferred who recipient amount) := by
  rw [transferSharesToAccount_run] at h
  rcases origin with _ | who | _ <;> simp only [Prod.mk.injEq, reduceCtorEq, false_and] at h
  rcases hm : s.metadata id who with _ | m <;>
    simp only [hm, ge_iff_le, ite_eq_iff, Prod.mk.injEq, reduceCtorEq, false_and, and_false, or_false,
      true_and] at h
  exact ⟨who, m, rfl, hm, h.1, h.2.symm⟩

/-- A signed account holding at least `amount` shares of `id` transfers them. -/
theorem transferSharesToAccount_run_of_le {who recipient : AccountId} {id : Identifier}
    {amount : UInt64} {originMetadata : MetaData} (hm : s.metadata id who = some originMetadata)
    (hle : amount ≤ originMetadata.shares) :
    (transferSharesToAccount (.signed who) id amount recipient).run s =
      (.ok (), ((s.setMetadata id recipient (some (match s.metadata id recipient with
          | none => { shares := amount, offers := 0, price := 0 }
          | some metadata =>
              { shares := metadata.shares.saturatingAdd amount, offers := metadata.offers,
                price := metadata.price }))).setMetadata id who
          (some { shares := originMetadata.shares.saturatingSub amount,
                  offers := originMetadata.offers, price := originMetadata.price })).depositEvent
          (.sharesTransferred who recipient amount)) := by
  rw [transferSharesToAccount_run]
  simp only [hm, ge_iff_le, hle, if_true]

theorem buyShares_ok {id : Identifier} {sharesToBuy : UInt64} {amount : Nat} {seller : AccountId}
    {r : Unit} (h : (buyShares cfg origin id sharesToBuy amount seller).run s = (.ok r, s')) :
    ∃ who fromMetadata balances, origin = .signed who ∧ who ≠ seller ∧
      s.mainOwner id = some seller ∧ s.metadata id seller = some fromMetadata ∧
      sharesToBuy ≤ fromMetadata.shares ∧ sharesToBuy ≤ fromMetadata.offers ∧
      (∃ hAmount : amount < UInt64.size,
        fromMetadata.price.saturatingMul sharesToBuy ≤ UInt64.ofNatCore amount hAmount) ∧
      amount ≤ cfg.currency.freeBalance s.balances who ∧
      cfg.currency.transfer who seller amount .allowDeath s.balances = some balances ∧
      s' = (({ s with balances }.setMetadata id who (some (match s.metadata id who with
          | none => { shares := sharesToBuy, offers := 0, price := 0 }
          | some oldOriginMetadata =>
              { shares := oldOriginMetadata.shares.saturatingAdd sharesToBuy, offers := 0,
                price := 0 }))).setMetadata id seller
          (some { shares := fromMetadata.shares.saturatingSub sharesToBuy,
                  offers := fromMetadata.offers.saturatingSub sharesToBuy,
                  price := fromMetadata.price })).depositEvent
          (.sharesTransferred seller who sharesToBuy) := by
  rw [buyShares_run] at h
  rcases origin with _ | who | _ <;> simp only [Prod.mk.injEq, reduceCtorEq, false_and] at h
  rcases hf : s.metadata id seller with _ | m <;> by_cases hb : amount < UInt64.size <;>
    rcases ht : cfg.currency.transfer who seller amount .allowDeath s.balances with _ | b <;>
    simp only [hf, hb, ht, not_false_eq_true, balanceToU64Option_of_lt, balanceToU64Option_of_not_lt,
      ite_eq_iff, Prod.mk.injEq, reduceCtorEq, false_and, and_false, true_and, not_le, or_false,
      UInt64.not_le, false_or, or_self, ge_iff_le, ne_eq] at h
  obtain ⟨hne, hown, -, hprice, hshares, hoffers, hfree, rfl⟩ := h
  exact ⟨who, m, b, rfl, hne, hown, rfl, hshares, hoffers, ⟨hb, hprice⟩, hfree, ht, rfl⟩

theorem claimOnwership_ok {id : Identifier} {r : Unit}
    (h : (claimOnwership origin id).run s = (.ok r, s')) :
    ∃ who owner originMetadata, origin = .signed who ∧ s.mainOwner id = some owner ∧
      owner ≠ who ∧ s.metadata id who = some originMetadata ∧ 50 < originMetadata.shares ∧
      s' = (s.setMainOwner id (some who)).depositEvent (.mainOwnerSet who id) := by
  rw [claimOnwership_run] at h
  rcases origin with _ | who | _ <;> simp only [Prod.mk.injEq, reduceCtorEq, false_and] at h
  rcases ho : s.mainOwner id with _ | a <;> rcases hm : s.metadata id who with _ | m <;>
    simp only [ho, hm, gt_iff_lt, ite_eq_iff, Prod.mk.injEq, reduceCtorEq, false_and, and_false,
      true_and, or_false, false_or, or_self] at h
  exact ⟨who, a, m, rfl, rfl, h.1, hm, h.2.1, h.2.2.symm⟩

/-- All or nothing: a call that returns an error leaves both storage items, the currency's
balances and the events as it found them. A purchase in particular either fails so, or has
the currency move `amount` from buyer to seller and writes both updated records. -/
theorem call_error_leaves_state :
    (∀ (call : Call Identifier AccountId) (s s' : State Identifier AccountId β) e,
      (dispatch cfg origin call).run s = (.error e, s') → s' = s) ∧
    (∀ id sharesToBuy amount seller (s : State Identifier AccountId β),
      (∃ e, (buyShares cfg origin id sharesToBuy amount seller).run s = (.error e, s)) ∨
      ∃ who fromMetadata balances, origin = .signed who ∧ s.metadata id seller = some fromMetadata ∧
        cfg.currency.transfer who seller amount .allowDeath s.balances = some balances ∧
        (buyShares cfg origin id sharesToBuy amount seller).run s =
          (.ok (), (({ s with balances }.setMetadata id who (some (match s.metadata id who with
            | none => { shares := sharesToBuy, offers := 0, price := 0 }
            | some oldOriginMetadata =>
                { shares := oldOriginMetadata.shares.saturatingAdd sharesToBuy, offers := 0,
                  price := 0 }))).setMetadata id seller
            (some { shares := fromMetadata.shares.saturatingSub sharesToBuy,
                    offers := fromMetadata.offers.saturatingSub sharesToBuy,
                    price := fromMetadata.price })).depositEvent
            (.sharesTransferred seller who sharesToBuy))) := by
  refine ⟨fun call s s' e h => dispatch_atomic cfg origin call s e s' h, fun id k amount seller s => ?_⟩
  rcases hr : (buyShares cfg origin id k amount seller).run s with ⟨_ | u, t⟩
  · exact .inl ⟨_, by rw [buyShares_atomic cfg origin id k amount seller s _ t hr]⟩
  · obtain ⟨who, m, b, rfl, -, -, hm, -, -, -, -, hb, rfl⟩ := buyShares_ok cfg _ hr
    exact .inr ⟨who, m, b, rfl, hm, hb, rfl⟩

/-! ### Where `InvalidAccount` comes from -/

theorem offerShares_invalidAccount {id : Identifier} {sharesToOffer sharePrice : UInt64}
    (h : (offerShares origin id sharesToOffer sharePrice).run s =
      (.error (.module .invalidAccount), s')) :
    ∃ who, origin = .signed who ∧ s.mainOwner id = some who ∧ s.metadata id who = none := by
  rw [offerShares_run] at h
  rcases origin with _ | who | _ <;>
    simp only [Prod.mk.injEq, Except.error.injEq, reduceCtorEq, false_and] at h
  rcases hm : s.metadata id who with _ | m <;>
    simp only [hm, ite_eq_iff, Prod.mk.injEq, Except.error.injEq, DispatchError.module.injEq,
      reduceCtorEq, false_and, and_false, or_false, true_and, or_self] at h
  exact ⟨who, rfl, h.1, hm⟩

theorem buyShares_invalidAccount {id : Identifier} {sharesToBuy : UInt64} {amount : Nat}
    {seller : AccountId}
    (h : (buyShares cfg origin id sharesToBuy amount seller).run s =
      (.error (.module .invalidAccount), s')) :
    s.mainOwner id = some seller ∧ s.metadata id seller = none := by
  rw [buyShares_run] at h
  rcases origin with _ | who | _ <;>
    simp only [Prod.mk.injEq, Except.error.injEq, reduceCtorEq, false_and] at h
  rcases hf : s.metadata id seller with _ | m
  · simp only [hf, ite_eq_iff, Prod.mk.injEq, Except.error.injEq, DispatchError.module.injEq,
      reduceCtorEq, false_and, and_false, true_and, or_false, false_or] at h
    exact ⟨h.2.1, rfl⟩
  · by_cases hb : amount < UInt64.size <;>
      rcases ht : cfg.currency.transfer who seller amount .allowDeath s.balances with _ | b <;>
      simp only [hf, hb, ht, not_false_eq_true, balanceToU64Option_of_lt, balanceToU64Option_of_not_lt,
        ite_eq_iff, Prod.mk.injEq, Except.error.injEq, DispatchError.module.injEq, reduceCtorEq,
        false_and, and_false, not_le, or_self, UInt64.not_le] at h

end ProportionalAsset
