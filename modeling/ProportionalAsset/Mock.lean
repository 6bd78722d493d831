import ProportionalAsset.Pallet

/-! The mock runtime of `mock.rs`, for the concrete runs placed after the general theorems.
Accounts are `u64` numbers and balances are a `pallet_balances` ledger without existential
deposit, locks or reserves. `BlakeTwo256` is replaced by reading the bytes as one number:
no theorem depends on the hash beyond its being a function of the data. -/

namespace ProportionalAsset.Mock

abbrev AccountId := Nat

abbrev Hash := Nat

abbrev Balances := StorageMap AccountId Nat

def hashing (data : List UInt8) : Hash :=
  data.foldl (fun h b => 256 * h + b.toNat) 0

def freeBalance (balances : Balances) (who : AccountId) : Nat :=
  (balances.get who).getD 0

/-- `Balances::transfer`, refused when `source` cannot pay `amount`. -/
def transfer (source dest : AccountId) (amount : Nat) (_ : ExistenceRequirement)
    (balances : Balances) : Option Balances :=
  if amount ≤ freeBalance balances source then
    let balances := balances.set source (some (freeBalance balances source - amount))
    some (balances.set dest (some (freeBalance balances dest + amount)))
  else none

/-- The units the ledger holds over all accounts. -/
def totalBalance (balances : Balances) : Nat :=
  balances.total fun _ v => v

theorem totalBalance_set (balances : Balances) (who : AccountId) (v : Nat) :
    totalBalance (balances.set who (some v)) + freeBalance balances who =
      totalBalance balances + v := by
  simpa [totalBalance, freeBalance] using
    StorageMap.total_set_some_add balances (fun _ v => v) who v

/-- A transfer moves units between accounts and creates or destroys none. -/
theorem totalBalance_transfer {source dest : AccountId} {amount : Nat} {r : ExistenceRequirement}
    {balances balances' : Balances} (h : transfer source dest amount r balances = some balances') :
    totalBalance balances' = totalBalance balances := by
  unfold transfer at h
  split at h
  · cases h
    have hSource := totalBalance_set balances source (freeBalance balances source - amount)
    have hDest := totalBalance_set (balances.set source (some (freeBalance balances source - amount)))
      dest (freeBalance (balances.set source (some (freeBalance balances source - amount))) dest + amount)
    omega
  · cases h

def config : Config Hash AccountId Balances :=
  { hashing, currency := { freeBalance, transfer } }

/-- `get_initial_balances`: accounts 1 and 2 hold 50 each. -/
def initialBalances : Balances :=
  ((∅ : Balances).set 1 (some 50)).set 2 (some 50)

/-- `get_test_data`: the bytes of the test payload. -/
def testData : List UInt8 := [106, 123, 34, 105, 109, 109, 121, 34, 125]

end ProportionalAsset.Mock
