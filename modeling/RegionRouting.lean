import RegionRouting.Proofs.BudgetLaw
import RegionRouting.Proofs.Candidates
import RegionRouting.Proofs.Counters
import RegionRouting.Proofs.Coverage
import RegionRouting.Proofs.FixedTable
import RegionRouting.Proofs.Identity
import RegionRouting.Proofs.KeyMessage
import RegionRouting.Proofs.LeaderSwitch
import RegionRouting.Proofs.LedRegions
import RegionRouting.Proofs.Mirror
import RegionRouting.Proofs.PartialConfig
import RegionRouting.Proofs.Punctual
import RegionRouting.Proofs.RegionSwap
import RegionRouting.Proofs.Removal
import RegionRouting.Proofs.RoundAlone
import RegionRouting.Proofs.RoundOrder
import RegionRouting.Proofs.RoutedPair
import RegionRouting.Proofs.RoutingFailure
import RegionRouting.Proofs.SharedFetch
import RegionRouting.Proofs.StaleReport
import RegionRouting.Proofs.StoreFrame
import RegionRouting.Proofs.TableEdits
import RegionRouting.Proofs.Thrift
import RegionRouting.Proofs.Watch
import RegionRouting.Serialized
import RegionRouting.Simulation.Session
