import OzPos.Protocol.Causality
import OzPos.Client.PushAppliers
import OzPos.Client.SettingsConvergence
import OzPos.Commerce.GiftCardSessions
import OzPos.Qris.Encodable
import OzPos.Commerce.RefundReplication
import OzPos.Protocol.PullDelivery
import OzPos.Commerce.CustomerSpend
import OzPos.Commerce.PayableLedger
import OzPos.Inventory.CountsFrozen
import OzPos.Inventory.TransfersConserve
import OzPos.Kitchen.TicketsForward
import OzPos.Commerce.SettledOnce
import OzPos.Licensing.LedgerClock
import OzPos.Licensing.Revocation
import OzPos.Licensing.QuotasHold
import OzPos.Licensing.SuspensionAgrees
import OzPos.Access.ScopeHolds
import OzPos.Access.LoginThrottle
import OzPos.Kernel.LifecycleHolds
import OzPos.Client.SnapshotConverges
import OzPos.Client.ProductEdits
import OzPos.Memos.MemosHold
import OzPos.Recovery.RestoreKeeps
import OzPos.Topology.AllOrNothing
import OzPos.LicenseServer.WebhookReplay
import OzPos.LicenseServer.PaidTimeHolds
import OzPos.LicenseServer.MachineLimit
import OzPos.LicenseServer.TrialLock
import OzPos.LicenseServer.RevocationComplete
import OzPos.Payment.LostAnswers
import OzPos.Lan.LostLines
import OzPos.Commerce.JointSupply
import OzPos.Crdt.DeltaMutation
import OzPos.Kitchen.FanoutOnce
import OzPos.Purchasing.ReceiptsAccount
import OzPos.Commerce.ShiftCash
import OzPos.Tax.InclusiveTax
import OzPos.Tax.ScopedResolution
import OzPos.Tax.RateCalls
import OzPos.Inventory.CountSettles
import OzPos.Inventory.StockAlerts
import OzPos.Commerce.PromotionsAgree
import OzPos.Numbering.ReceiptCodes
import OzPos.Server.ConflictSymmetry
import OzPos.Server.PushResults
import OzPos.Commerce.BatchCheck
import OzPos.Offline.Batches
import OzPos.Commerce.Restocks
import OzPos.Commerce.LoyaltyReversals
import OzPos.Client.Archive
import OzPos.Commerce.Cart
import OzPos.Commerce.DiscountCovered
import OzPos.Commerce.GiftCardRetry
import OzPos.Qris.Builder
import OzPos.Qris.Grammar
import OzPos.Client.Supersede
import OzPos.Kernel.ModuleOrder
import OzPos.Tax.SaleTaxSound
import OzPos.Topology.CycleSearch
import OzPos.Commerce.SpendReversals
import OzPos.Topology.Contract
import OzPos.Topology.ContractHolds
