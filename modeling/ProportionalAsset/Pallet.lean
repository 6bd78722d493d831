import ProportionalAsset.Storage
import ProportionalAsset.Runtime

/-! The proportional asset pallet of `lib.rs`: `MetaData`, the two storage items, events,
errors, and the five dispatchable calls, each written statement by statement after the Rust.
The asset identifier's hash and the currency come from the runtime's `Config`. -/

namespace ProportionalAsset

/-- Metadata struct represents data for each proportional ownership. -/
structure MetaData where
  offers : UInt64
  shares : UInt64
  price : UInt64
  deriving DecidableEq, Repr

/-- `TOTAL_SUPPLY`, the divisor of the asset (percentage). -/
def totalSupply : UInt64 := 100

@[simp] theorem toNat_totalSupply : totalSupply.toNat = 100 := rfl

inductive Error where
  | assetDoesNotExist
  | assetAlreadyExists
  | invalidOffers
  | incorrectAmount
  | conversionError
  | incorrectSharesSelection
  | incorrectSeller
  | notMainOwner
  | alreadyMainOnwer
  | notEnoughShares
  | invalidAccount
  | insufficientBalance
  deriving DecidableEq, Repr

inductive Event (Identifier AccountId : Type) where
  | proportionalAssetInitialized (id : Identifier) (who : AccountId)
  | sharesOffered (id : Identifier) (price : UInt64)
  | sharesTransferred (source dest : AccountId) (amount : UInt64)
  | mainOwnerSet (who : AccountId) (id : Identifier)
  deriving DecidableEq, Repr

/-- The pallet's `Config`: how asset data is hashed into an identifier, and the currency. -/
structure Config (Identifier AccountId β : Type) where
  hashing : List UInt8 → Identifier
  currency : Currency AccountId β

/-- What a call reads and writes: the two storage items, the currency's balances, and the
events deposited so far. -/
structure State (Identifier AccountId β : Type) where
  proportionalAssetToOwnerToMetadata : StorageDoubleMap Identifier AccountId MetaData
  proportionalAssetToMainOwner : StorageMap Identifier AccountId
  balances : β
  events : List (Event Identifier AccountId)

abbrev PalletM (Identifier AccountId β α : Type) := DispatchM Error (State Identifier AccountId β) α

variable {Identifier AccountId β : Type} [DecidableEq Identifier] [DecidableEq AccountId]

namespace State

def metadata (s : State Identifier AccountId β) (id : Identifier) (who : AccountId) :
    Option MetaData :=
  s.proportionalAssetToOwnerToMetadata.get id who

def mainOwner (s : State Identifier AccountId β) (id : Identifier) : Option AccountId :=
  s.proportionalAssetToMainOwner.get id

def setMetadata (s : State Identifier AccountId β) (id : Identifier) (who : AccountId)
    (metadata : Option MetaData) : State Identifier AccountId β :=
  { s with proportionalAssetToOwnerToMetadata :=
      s.proportionalAssetToOwnerToMetadata.set id who metadata }

def setMainOwner (s : State Identifier AccountId β) (id : Identifier) (owner : Option AccountId) :
    State Identifier AccountId β :=
  { s with proportionalAssetToMainOwner := s.proportionalAssetToMainOwner.set id owner }

def depositEvent (s : State Identifier AccountId β) (event : Event Identifier AccountId) :
    State Identifier AccountId β :=
  { s with events := s.events ++ [event] }

variable (s : State Identifier AccountId β)

theorem metadata_setMetadata (id id' : Identifier) (who who' : AccountId) (m : Option MetaData) :
    (s.setMetadata id who m).metadata id' who' =
      if id' = id ∧ who' = who then m else s.metadata id' who' :=
  StorageDoubleMap.get_set _ _ _ _ _ _

@[simp] theorem metadata_setMetadata_self (id : Identifier) (who : AccountId) (m : Option MetaData) :
    (s.setMetadata id who m).metadata id who = m := by
  simp [metadata_setMetadata]

omit [DecidableEq AccountId] in
@[simp] theorem mainOwner_setMainOwner (id id' : Identifier) (owner : Option AccountId) :
    (s.setMainOwner id owner).mainOwner id' = if id' = id then owner else s.mainOwner id' :=
  StorageMap.get_set _ _ _ _

@[simp] theorem metadata_setMainOwner (id : Identifier) (owner : Option AccountId) :
    (s.setMainOwner id owner).metadata = s.metadata := rfl

@[simp] theorem mainOwner_setMetadata (id : Identifier) (who : AccountId) (m : Option MetaData) :
    (s.setMetadata id who m).mainOwner = s.mainOwner := rfl

@[simp] theorem metadata_depositEvent (e : Event Identifier AccountId) :
    (s.depositEvent e).metadata = s.metadata := rfl

omit [DecidableEq AccountId] in
@[simp] theorem mainOwner_depositEvent (e : Event Identifier AccountId) :
    (s.depositEvent e).mainOwner = s.mainOwner := rfl

@[simp] theorem balances_setMetadata (id : Identifier) (who : AccountId) (m : Option MetaData) :
    (s.setMetadata id who m).balances = s.balances := rfl

omit [DecidableEq AccountId] in
@[simp] theorem balances_setMainOwner (id : Identifier) (owner : Option AccountId) :
    (s.setMainOwner id owner).balances = s.balances := rfl

@[simp] theorem metadata_balances (balances : β) :
    ({ s with balances } : State Identifier AccountId β).metadata = s.metadata := rfl

omit [DecidableEq AccountId] in
@[simp] theorem mainOwner_balances (balances : β) :
    ({ s with balances } : State Identifier AccountId β).mainOwner = s.mainOwner := rfl

omit [DecidableEq Identifier] [DecidableEq AccountId] in
@[simp] theorem balances_depositEvent (e : Event Identifier AccountId) :
    (s.depositEvent e).balances = s.balances := rfl

@[simp] theorem events_setMetadata (id : Identifier) (who : AccountId) (m : Option MetaData) :
    (s.setMetadata id who m).events = s.events := rfl

omit [DecidableEq AccountId] in
@[simp] theorem events_setMainOwner (id : Identifier) (owner : Option AccountId) :
    (s.setMainOwner id owner).events = s.events := rfl

omit [DecidableEq Identifier] [DecidableEq AccountId] in
@[simp] theorem events_balances (balances : β) :
    ({ s with balances } : State Identifier AccountId β).events = s.events := rfl

omit [DecidableEq Identifier] [DecidableEq AccountId] in
@[simp] theorem events_depositEvent (e : Event Identifier AccountId) :
    (s.depositEvent e).events = s.events ++ [e] := rfl

end State

open DispatchM

namespace ProportionalAssetToOwnerToMetadata

def get (id : Identifier) (who : AccountId) : PalletM Identifier AccountId β (Option MetaData) :=
  read fun s => s.metadata id who

def set (id : Identifier) (who : AccountId) (metadata : Option MetaData) :
    PalletM Identifier AccountId β Unit :=
  write fun s => s.setMetadata id who metadata

end ProportionalAssetToOwnerToMetadata

namespace ProportionalAssetToMainOwner

def get (id : Identifier) : PalletM Identifier AccountId β (Option AccountId) :=
  read fun s => s.mainOwner id

def set (id : Identifier) (owner : Option AccountId) : PalletM Identifier AccountId β Unit :=
  write fun s => s.setMainOwner id owner

end ProportionalAssetToMainOwner

/-- `Self::deposit_event`. -/
def depositEvent (event : Event Identifier AccountId) : PalletM Identifier AccountId β Unit :=
  write fun s => s.depositEvent event

/-- `T::Currency::free_balance(who)`. -/
def freeBalance (c : Currency AccountId β) (who : AccountId) : PalletM Identifier AccountId β Nat :=
  read fun s => c.freeBalance s.balances who

/-- `T::Currency::transfer(source, dest, amount, requirement)`, its error mapped to `error`. -/
def transferCurrency (c : Currency AccountId β) (source dest : AccountId) (amount : Nat)
    (requirement : ExistenceRequirement) (error : DispatchError Error) :
    PalletM Identifier AccountId β Unit :=
  fun s => match c.transfer source dest amount requirement s.balances with
    | some balances => (.ok (), { s with balances })
    | none => (.error error, s)

def isOwnerOf (who : AccountId) (id : Identifier) : PalletM Identifier AccountId β Bool := do
  match ← ProportionalAssetToMainOwner.get id with
  | some owner => pure (owner == who)
  | none => pure false

def getMainOwnerByAsset (id : Identifier) : PalletM Identifier AccountId β (Option AccountId) :=
  ProportionalAssetToMainOwner.get id

def setMainOwner (who : AccountId) (id : Identifier) : PalletM Identifier AccountId β Unit :=
  ProportionalAssetToMainOwner.set id (some who)

section Primitives

variable (s : State Identifier AccountId β) {α : Type} (g : Unit → PalletM Identifier AccountId β α)

@[simp] theorem ProportionalAssetToOwnerToMetadata.get_eq (id : Identifier) (who : AccountId) :
    (ProportionalAssetToOwnerToMetadata.get id who : PalletM Identifier AccountId β _) =
      read fun s => s.metadata id who := rfl

@[simp] theorem ProportionalAssetToOwnerToMetadata.set_eq (id : Identifier) (who : AccountId)
    (m : Option MetaData) :
    (ProportionalAssetToOwnerToMetadata.set id who m : PalletM Identifier AccountId β _) =
      write fun s => s.setMetadata id who m := rfl

omit [DecidableEq AccountId] in
@[simp] theorem ProportionalAssetToMainOwner.get_eq (id : Identifier) :
    (ProportionalAssetToMainOwner.get id : PalletM Identifier AccountId β _) =
      read fun s => s.mainOwner id := rfl

omit [DecidableEq AccountId] in
@[simp] theorem ProportionalAssetToMainOwner.set_eq (id : Identifier) (owner : Option AccountId) :
    (ProportionalAssetToMainOwner.set id owner : PalletM Identifier AccountId β _) =
      write fun s => s.setMainOwner id owner := rfl

omit [DecidableEq Identifier] [DecidableEq AccountId] in
@[simp] theorem depositEvent_eq (e : Event Identifier AccountId) :
    (depositEvent e : PalletM Identifier AccountId β _) = write fun s => s.depositEvent e := rfl

omit [DecidableEq Identifier] [DecidableEq AccountId] in
@[simp] theorem freeBalance_eq (c : Currency AccountId β) (who : AccountId) :
    (freeBalance c who : PalletM Identifier AccountId β _) =
      read fun s => c.freeBalance s.balances who := rfl

omit [DecidableEq AccountId] in
@[simp] theorem getMainOwnerByAsset_eq (id : Identifier) :
    (getMainOwnerByAsset id : PalletM Identifier AccountId β _) = read fun s => s.mainOwner id := rfl

omit [DecidableEq AccountId] in
@[simp] theorem setMainOwner_eq (who : AccountId) (id : Identifier) :
    (setMainOwner who id : PalletM Identifier AccountId β _) =
      write fun s => s.setMainOwner id (some who) := rfl

/-- `is_owner_of` reads whether `who` is the asset's main owner. -/
@[simp] theorem isOwnerOf_eq (who : AccountId) (id : Identifier) :
    (isOwnerOf who id : PalletM Identifier AccountId β _) =
      read fun s => decide (s.mainOwner id = some who) := by
  funext s
  show DispatchM.run (isOwnerOf who id) s = (.ok (decide (s.mainOwner id = some who)), s)
  simp only [isOwnerOf, ProportionalAssetToMainOwner.get_eq, DispatchM.run_read_bind]
  cases s.mainOwner id with
  | none => rfl
  | some owner => simp only [DispatchM.run_pure, Option.some.injEq]; rfl

omit [DecidableEq Identifier] [DecidableEq AccountId] in
@[simp] theorem run_transferCurrency_bind (c : Currency AccountId β) (source dest : AccountId)
    (amount : Nat) (r : ExistenceRequirement) (e : DispatchError Error) :
    (transferCurrency c source dest amount r e >>= g).run s =
      match c.transfer source dest amount r s.balances with
      | some balances => (g ()).run { s with balances }
      | none => (.error e, s) := by
  rw [DispatchM.run_bind]
  cases h : c.transfer source dest amount r s.balances <;>
    simp only [DispatchM.run, transferCurrency, h]

end Primitives

/-- `input.try_into().ok()` into `u64`. -/
def balanceToU64Option (input : Nat) : Option UInt64 :=
  if h : input < UInt64.size then some (UInt64.ofNatCore input h) else none

section Calls

variable (cfg : Config Identifier AccountId β) (origin : RawOrigin AccountId)

/-- Create a new proportional asset, with all of its supply held by the origin. -/
def createProportionalAsset (data : List UInt8) (sharePrice : UInt64) :
    PalletM Identifier AccountId β Unit := do
  let who ← ensureSigned origin
  let id := cfg.hashing data
  match ← ProportionalAssetToOwnerToMetadata.get id who with
  | some _metadata => throw (.module .assetAlreadyExists)
  | none =>
      let metadata : MetaData := { shares := totalSupply, offers := 0, price := sharePrice }
      ProportionalAssetToOwnerToMetadata.set id who (some metadata)
      ProportionalAssetToMainOwner.set id (some who)
      depositEvent (.proportionalAssetInitialized id who)

/-- Offers new shares for sale. -/
def offerShares (id : Identifier) (sharesToOffer sharePrice : UInt64) :
    PalletM Identifier AccountId β Unit := do
  let who ← ensureSigned origin
  ensure (← isOwnerOf who id) .notMainOwner
  match ← ProportionalAssetToOwnerToMetadata.get id who with
  | none => throw (.module .invalidAccount)
  | some metadata =>
      ensure (sharesToOffer ≤ metadata.shares) .invalidOffers
      let newMetadata : MetaData :=
        { shares := metadata.shares, offers := sharesToOffer, price := sharePrice }
      ProportionalAssetToOwnerToMetadata.set id who (some newMetadata)
      depositEvent (.sharesOffered id sharePrice)

/-- Transfers shares for free. -/
def transferSharesToAccount (id : Identifier) (amount : UInt64) (recipient : AccountId) :
    PalletM Identifier AccountId β Unit := do
  let who ← ensureSigned origin
  match ← ProportionalAssetToOwnerToMetadata.get id who with
  | none => throw (.module .invalidAccount)
  | some originMetadata =>
      ensure (originMetadata.shares ≥ amount) .incorrectSharesSelection
      let newOriginShares := originMetadata.shares.saturatingSub amount
      match ← ProportionalAssetToOwnerToMetadata.get id recipient with
      | none =>
          let newMetadata : MetaData := { shares := amount, offers := 0, price := 0 }
          ProportionalAssetToOwnerToMetadata.set id recipient (some newMetadata)
      | some metadata =>
          let newToShares := metadata.shares.saturatingAdd amount
          let newMetadata : MetaData :=
            { shares := newToShares, offers := metadata.offers, price := metadata.price }
          ProportionalAssetToOwnerToMetadata.set id recipient (some newMetadata)
      let newOriginMetadata : MetaData :=
        { shares := newOriginShares, offers := originMetadata.offers,
          price := originMetadata.price }
      ProportionalAssetToOwnerToMetadata.set id who (some newOriginMetadata)
      depositEvent (.sharesTransferred who recipient amount)

/-- Buy offered shares of `seller` (the Rust `from`), paying `amount`. -/
def buyShares (id : Identifier) (sharesToBuy : UInt64) (amount : Nat) (seller : AccountId) :
    PalletM Identifier AccountId β Unit := do
  let who ← ensureSigned origin
  ensure (who ≠ seller) .incorrectSeller
  ensure (← isOwnerOf seller id) .incorrectSeller
  match ← ProportionalAssetToOwnerToMetadata.get id seller with
  | none => throw (.module .invalidAccount)
  | some fromMetadata =>
      ensure (fromMetadata.shares ≥ sharesToBuy) .incorrectAmount
      let price := fromMetadata.price.saturatingMul sharesToBuy
      let parsedAmountSent ← okOr (balanceToU64Option amount) (.module .conversionError)
      ensure (parsedAmountSent ≥ price) .incorrectAmount
      ensure (sharesToBuy ≤ fromMetadata.shares) .incorrectSharesSelection
      ensure (sharesToBuy ≤ fromMetadata.offers) .incorrectSharesSelection
      let newFromShares := fromMetadata.shares.saturatingSub sharesToBuy
      let newFromOffers := fromMetadata.offers.saturatingSub sharesToBuy
      let newFromMetadata : MetaData :=
        { shares := newFromShares, offers := newFromOffers, price := fromMetadata.price }
      let mut newOriginMetadata : MetaData := { shares := 0, offers := 0, price := 0 }
      let originMetadata ← ProportionalAssetToOwnerToMetadata.get id who
      newOriginMetadata := match originMetadata with
        | none => { newOriginMetadata with shares := sharesToBuy }
        | some oldOriginMetadata =>
            { newOriginMetadata with shares := oldOriginMetadata.shares.saturatingAdd sharesToBuy }
      ensure ((← freeBalance cfg.currency who) ≥ amount) .insufficientBalance
      transferCurrency cfg.currency who seller amount .allowDeath
        (.other "Can\x27t transfer currency")
      ProportionalAssetToOwnerToMetadata.set id who (some newOriginMetadata)
      ProportionalAssetToOwnerToMetadata.set id seller (some newFromMetadata)
      depositEvent (.sharesTransferred seller who sharesToBuy)

/-- Claim main ownership of the asset. -/
def claimOnwership (id : Identifier) : PalletM Identifier AccountId β Unit := do
  let who ← ensureSigned origin
  let assetOwner ← okOr (← getMainOwnerByAsset id) (.module .assetDoesNotExist)
  ensure (assetOwner ≠ who) .alreadyMainOnwer
  match ← ProportionalAssetToOwnerToMetadata.get id who with
  | none => throw (.module .notEnoughShares)
  | some originMetadata =>
      ensure (originMetadata.shares > 50) .notEnoughShares
      setMainOwner who id
      depositEvent (.mainOwnerSet who id)

end Calls

/-- The pallet's `Call` enum: one constructor per dispatchable, with its arguments. -/
inductive Call (Identifier AccountId : Type) where
  | createProportionalAsset (data : List UInt8) (sharePrice : UInt64)
  | offerShares (id : Identifier) (sharesToOffer sharePrice : UInt64)
  | transferSharesToAccount (id : Identifier) (amount : UInt64) (recipient : AccountId)
  | buyShares (id : Identifier) (sharesToBuy : UInt64) (amount : Nat) (seller : AccountId)
  | claimOnwership (id : Identifier)
  deriving DecidableEq, Repr

def dispatch (cfg : Config Identifier AccountId β) (origin : RawOrigin AccountId) :
    Call Identifier AccountId → PalletM Identifier AccountId β Unit
  | .createProportionalAsset data sharePrice => createProportionalAsset cfg origin data sharePrice
  | .offerShares id sharesToOffer sharePrice => offerShares origin id sharesToOffer sharePrice
  | .transferSharesToAccount id amount recipient =>
      transferSharesToAccount origin id amount recipient
  | .buyShares id sharesToBuy amount seller => buyShares cfg origin id sharesToBuy amount seller
  | .claimOnwership id => claimOnwership origin id

end ProportionalAsset
