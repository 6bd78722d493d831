import ProportionalAsset.Machine

/-! What a purchase checks and pays, and what runs do to the currency. A purchase moves
`amount` in full from buyer to seller through the currency's transfer. The pallet checks
`amount` against the seller's price times the shares bought, computed with `u64` saturation,
so above `u64::MAX` the seller may receive less than that product. No other call touches the
balances, so a run creates or destroys no currency when the currency's transfers do not. -/

namespace ProportionalAsset

variable {Identifier AccountId β : Type} [DecidableEq Identifier] [DecidableEq AccountId]
variable {cfg : Config Identifier AccountId β} {s s' : State Identifier AccountId β}

/-- A successful purchase pays `amount`, a `u64` value that covers the seller's price times
`sharesToBuy` only up to `u64` saturation. The currency moves exactly `amount` from buyer to
seller, and the balances it returns are the new state's. -/
theorem buyShares_payment {who seller : AccountId} {id : Identifier} {sharesToBuy : UInt64}
    {amount : Nat}
    (h : (buyShares cfg (.signed who) id sharesToBuy amount seller).run s = (.ok (), s')) :
    ∃ m balances, s.metadata id seller = some m ∧ amount < UInt64.size ∧
      min (m.price.toNat * sharesToBuy.toNat) (UInt64.size - 1) ≤ amount ∧
      cfg.currency.transfer who seller amount .allowDeath s.balances = some balances ∧
      s'.balances = balances := by
  obtain ⟨_, m, b, hWho, -, -, hm, -, -, ⟨hAmount, hPrice⟩, -, hb, rfl⟩ :=
    buyShares_ok cfg (.signed who) h
  cases hWho
  exact ⟨m, b, hm, hAmount, UInt64.le_iff_toNat_le.mp hPrice, hb, rfl⟩

/-- Account 1 creates the mock asset, offers 5 shares at 20 and gives 50 shares to account 2,
which buys 2 of the offered shares for 40. -/
theorem buyShares_payment_of_mock :
    (let s := execute Mock.config
      [(.signed 1, .createProportionalAsset Mock.testData 10),
       (.signed 1, .offerShares (Mock.hashing Mock.testData) 5 20),
       (.signed 1, .transferSharesToAccount (Mock.hashing Mock.testData) 50 2)]
      (genesis Mock.initialBalances)
    let r := (buyShares Mock.config (.signed 2) (Mock.hashing Mock.testData) 2 40 1).run s
    r = (.ok (), r.2) ∧
    ∃ m balances, s.metadata (Mock.hashing Mock.testData) 1 = some m ∧ 40 < UInt64.size ∧
      min (m.price.toNat * (2 : UInt64).toNat) (UInt64.size - 1) ≤ 40 ∧
      Mock.config.currency.transfer 2 1 40 .allowDeath s.balances = some balances ∧
      r.2.balances = balances) := by
  intro s r
  have h : r = (.ok (), r.2) := rfl
  exact ⟨h, buyShares_payment h⟩

/-- Account 2 holds 2^64 units. Account 1 creates the mock asset and offers 2 shares at 2^63
each; account 2 buys both for 2^64 - 1, one unit below their price. -/
theorem purchase_underpays_seller :
    (let s := execute Mock.config
      [(.signed 1, .createProportionalAsset Mock.testData 10),
       (.signed 1, .offerShares (Mock.hashing Mock.testData) 2 9223372036854775808)]
      (genesis ((∅ : Mock.Balances).set 2 (some 18446744073709551616)))
    let r := (buyShares Mock.config (.signed 2) (Mock.hashing Mock.testData) 2
      18446744073709551615 1).run s
    s.metadata (Mock.hashing Mock.testData) 1 =
      some { shares := 100, offers := 2, price := 9223372036854775808 } ∧
    r.1 = .ok () ∧ 18446744073709551615 < (9223372036854775808 : UInt64).toNat * (2 : UInt64).toNat) :=
  ⟨by decide, rfl, by decide⟩

/-! ### Currency over whole runs -/

section Currency

variable (measure : β → Nat)
    (hTransfer : ∀ source dest amount requirement balances balances',
      cfg.currency.transfer source dest amount requirement balances = some balances' →
        measure balances' = measure balances)
include hTransfer

/-- If every transfer of the currency keeps `measure` of the balances, so does every call,
failed or not: only a purchase touches the balances, and only through that transfer. -/
theorem dispatch_balances {origin : RawOrigin AccountId} {call : Call Identifier AccountId}
    {r : Except (DispatchError Error) Unit} (h : (dispatch cfg origin call).run s = (r, s')) :
    measure s'.balances = measure s.balances := by
  rcases r with e | ⟨⟩
  · rw [dispatch_atomic cfg origin call s e s' h]
  cases call with
  | createProportionalAsset data sharePrice =>
      obtain ⟨_, -, -, rfl⟩ := createProportionalAsset_ok cfg origin h
      rfl
  | offerShares id sharesToOffer sharePrice =>
      obtain ⟨_, _, -, -, -, -, rfl⟩ := offerShares_ok origin h
      rfl
  | transferSharesToAccount id amount recipient =>
      obtain ⟨_, _, -, -, -, rfl⟩ := transferSharesToAccount_ok origin h
      rfl
  | buyShares id sharesToBuy amount seller =>
      obtain ⟨_, _, b, -, -, -, -, -, -, -, -, hb, rfl⟩ := buyShares_ok cfg origin h
      exact hTransfer _ _ _ _ _ _ hb
  | claimOnwership id =>
      obtain ⟨_, _, _, -, -, -, -, -, rfl⟩ := claimOnwership_ok origin h
      rfl

/-- Over every run, calls keep `measure` of the balances when the currency's transfers do. -/
theorem execute_balances (calls : List (RawOrigin AccountId × Call Identifier AccountId))
    (s : State Identifier AccountId β) :
    measure (execute cfg calls s).balances = measure s.balances := by
  induction calls generalizing s with
  | nil => rfl
  | cons c calls ih =>
      exact (ih _).trans (dispatch_balances measure hTransfer (Prod.mk.eta).symm)

end Currency

/-- On the mock, whose ledger transfers conserve units, a run in which account 1 creates the
mock asset, offers 5 shares at 20 and gives 50 to account 2, which then buys 2 of the offered
shares for 40, keeps the total of all balances. -/
theorem execute_balances_of_mock :
    (∀ source dest amount requirement balances balances',
      Mock.config.currency.transfer source dest amount requirement balances = some balances' →
        Mock.totalBalance balances' = Mock.totalBalance balances) ∧
    Mock.totalBalance (execute Mock.config
      [(.signed 1, .createProportionalAsset Mock.testData 10),
       (.signed 1, .offerShares (Mock.hashing Mock.testData) 5 20),
       (.signed 1, .transferSharesToAccount (Mock.hashing Mock.testData) 50 2),
       (.signed 2, .buyShares (Mock.hashing Mock.testData) 2 40 1)]
      (genesis Mock.initialBalances)).balances = Mock.totalBalance Mock.initialBalances :=
  have hTransfer : ∀ source dest amount requirement balances balances',
      Mock.config.currency.transfer source dest amount requirement balances = some balances' →
        Mock.totalBalance balances' = Mock.totalBalance balances :=
    fun _ _ _ requirement _ _ h => Mock.totalBalance_transfer (r := requirement) h
  ⟨hTransfer, execute_balances Mock.totalBalance hTransfer _ _⟩

end ProportionalAsset
