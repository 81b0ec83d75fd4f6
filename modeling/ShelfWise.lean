import ShelfWise.Twin.Concurrency
import ShelfWise.Decisions.PostgresStore
import ShelfWise.Worker.Revalidation
import ShelfWise.Decisions.ExactlyOnce
import ShelfWise.Cascades.Story
import ShelfWise.Twin.Subjects
import ShelfWise.Twin.Noninterference
import ShelfWise.Worker.Callers
import ShelfWise.Worker.PlanResults
import ShelfWise.Ingest.StockStates
import ShelfWise.Worker.NothingLost
import ShelfWise.Twin.Coverage
import ShelfWise.Catalog.Commit
import ShelfWise.Memory.PostgresStore
import ShelfWise.Twin.EdgeBatches
import ShelfWise.Ingest.Overlaps
import ShelfWise.Ingest.OrderLines
import ShelfWise.Worker.EventWire
import ShelfWise.Connectors.Webhook
import ShelfWise.Skills.PostgresRegistry
import ShelfWise.Memory.Facts
import ShelfWise.Accounts.PostgresStore
import ShelfWise.Accounts.Interleaving
import ShelfWise.Connectors.AtLeastOnce
import ShelfWise.Ingest.PostgresOrders
import ShelfWise.Worker.Schedules
import ShelfWise.Worker.Streams
import ShelfWise.Twin.ScenarioRows
import ShelfWise.Twin.SnapshotHash
import ShelfWise.Ingest.RowIsolation
import ShelfWise.Inventory.Completion
import ShelfWise.Candidates.Visibility
import ShelfWise.Candidates.LotRecords
import ShelfWise.Agentic.Deadlines
import ShelfWise.Chat.Context
import ShelfWise.Detective.RootCause
import ShelfWise.Inference.TenantOverride
import ShelfWise.Stock.DailySales
import ShelfWise.Cascades.AmountCents
import ShelfWise.Connectors.ErpPages
import ShelfWise.Decisions.ValueReporting
import ShelfWise.Science.ExpiryOrder
import ShelfWise.Science.Markdown
import ShelfWise.Science.ReorderPolicy
import ShelfWise.Science.Sourcing
import ShelfWise.Twin.FidelityHistory
import ShelfWise.Worker.Compaction
import ShelfWise.Agentic.Calibration
import ShelfWise.Connectors.Checkout
import ShelfWise.Inference.ChatCompletions
import ShelfWise.Resilience.ColdChainFeed
import ShelfWise.Science.Fleet
import ShelfWise.Security.Fences
import ShelfWise.Security.TokenBucket
import ShelfWise.Skills.Evidence
import ShelfWise.Worldgen.Sampling
import ShelfWise.Candidates.Mix
import ShelfWise.Science.RelationPaths
import ShelfWise.Inference.GroundingTotality
import ShelfWise.Storage.TenantBinding
