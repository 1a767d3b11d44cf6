import TradeRun.Galaxy.Drafting
import TradeRun.Json.Reading
import TradeRun.Main
import TradeRun.Proofs.Cargo.Bookkeeping
import TradeRun.Proofs.Search.Flight
import TradeRun.Proofs.Charter.Drawing
import TradeRun.Proofs.Search.Solvency
import TradeRun.Proofs.Search.Cautions
import TradeRun.Proofs.Search.Goal
import TradeRun.Proofs.Search.Restriction
import TradeRun.Proofs.Sorting
import TradeRun.Proofs.Route.Order
import TradeRun.Proofs.Search.Shape
import TradeRun.Proofs.Charter.Avoidance
import TradeRun.Proofs.Charter.Admission
import TradeRun.Proofs.Galaxy.Listing
import TradeRun.Proofs.Space.Ways
import TradeRun.Proofs.Search.Passages
import TradeRun.Proofs.Search.Welcome
import TradeRun.Proofs.Cargo.Stowage
import TradeRun.Proofs.Search.Purchases
import TradeRun.Proofs.Search.Unique
import TradeRun.Proofs.Search.Homing
import TradeRun.Proofs.Galaxy.Trading
import TradeRun.Proofs.Search.Barren
import TradeRun.Proofs.Charter.Coherence
import TradeRun.Proofs.Search.Course
import TradeRun.Proofs.Search.Horizon
import TradeRun.Proofs.Search.WideBeam
import TradeRun.Proofs.Search.Reports
import TradeRun.Proofs.Search.Origins
import TradeRun.Proofs.Cargo.Branches
import TradeRun.Proofs.Cargo.Manifest
import TradeRun.Proofs.Cargo.Cutoff
import TradeRun.Proofs.Cargo.Optimum
import TradeRun.Proofs.Galaxy.Chart
import TradeRun.Proofs.Space.Reach
import TradeRun.Proofs.Search.Neighbourhood
import TradeRun.Proofs.Decimal.Comparison
import TradeRun.Proofs.Search.Selection
import TradeRun.Proofs.Galaxy.Partition
import TradeRun.Proofs.Space.Surroundings
import TradeRun.Proofs.Decimal.TotalOrder
import TradeRun.Proofs.Search.Pruning
import TradeRun.Proofs.Search.Calls
import TradeRun.Proofs.Search.Policies
import TradeRun.Proofs.Charter.Advice
import TradeRun.Proofs.Text.Trimming
import TradeRun.Proofs.Galaxy.Names
import TradeRun.Proofs.Galaxy.Reading
import TradeRun.Proofs.Galaxy.Offers
import TradeRun.Proofs.Store.Stock
import TradeRun.Proofs.Route.RankKey
import TradeRun.Proofs.Cargo.Arrangement
import TradeRun.Proofs.Report.Credits
import TradeRun.Proofs.Galaxy.RowOrder
import TradeRun.Proofs.Galaxy.Suggestions
import TradeRun.Proofs.Report.Books
import TradeRun.Proofs.Cargo.Budget
import TradeRun.Proofs.Text.PadCodes
import TradeRun.Proofs.Store.MissingColumns
