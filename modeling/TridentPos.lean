import TridentPos.Ingestion.Receipts
import TridentPos.Folio.Uniqueness
import TridentPos.Pos.EventSequence
import TridentPos.Procurement.OrderedQuantities
import TridentPos.Finance.PayableLedger
import TridentPos.Inventory.RecipeScaling
import TridentPos.Billing.StampIntegrity
import TridentPos.Billing.StampDispatch
import TridentPos.Pos.SplitShares
import TridentPos.Pos.SplitItems
import TridentPos.Pos.ClosedAccounts
import TridentPos.Pos.TableLinks
import TridentPos.Folio.Revocation
import TridentPos.Folio.LeaseHistory
import TridentPos.Delivery.Replay
import TridentPos.Mobile.LostWrites
import TridentPos.Pos.TenderResults
import TridentPos.Pos.TenderOrder
import TridentPos.Pos.CancellationRights
import TridentPos.Pos.ShiftOpening
import TridentPos.Pos.CorteZDelivery
import TridentPos.Pos.CashBreakdowns
import TridentPos.Integration.CloudOutbox
import TridentPos.Inventory.RecipePaths
import TridentPos.Edge.CatalogDelta
import TridentPos.Inventory.OrderDepletion
import TridentPos.Billing.CfdiTotals
import TridentPos.Edge.EffectiveTime
import TridentPos.Edge.WriteSerializer
import TridentPos.Crm.Promotions
import TridentPos.Backoffice.OptimisticMutations
import TridentPos.Mobile.Comandas
import TridentPos.Core.ExactMoney
import TridentPos.Edge.EscPos
import TridentPos.Scripts.DependencyGraph
