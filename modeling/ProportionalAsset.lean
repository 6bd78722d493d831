import ProportionalAsset.Storage
import ProportionalAsset.Runtime
import ProportionalAsset.Pallet
import ProportionalAsset.Mock
import ProportionalAsset.CallSpec
import ProportionalAsset.Machine
import ProportionalAsset.Supply
import ProportionalAsset.Ownership
import ProportionalAsset.Records
import ProportionalAsset.Ledger
import ProportionalAsset.Events
import ProportionalAsset.Payment
import ProportionalAsset.Isolation
