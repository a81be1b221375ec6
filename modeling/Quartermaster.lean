import Quartermaster.Main
import Quartermaster.Proofs.Api.Ends
import Quartermaster.Proofs.Api.Explanations
import Quartermaster.Proofs.Api.Inquiries
import Quartermaster.Proofs.Api.ProductionMessages
import Quartermaster.Proofs.Api.Settings
import Quartermaster.Proofs.Api.Timing
import Quartermaster.Proofs.Api.TrailingSlashes
import Quartermaster.Proofs.BackendRecords
import Quartermaster.Proofs.Calendar.Concatenation
import Quartermaster.Proofs.Calendar.Elapsed
import Quartermaster.Proofs.Calendar.Reversal
import Quartermaster.Proofs.Combat.Log
import Quartermaster.Proofs.Fleet.Compositions
import Quartermaster.Proofs.Fleet.Details
import Quartermaster.Proofs.Fleet.Listings
import Quartermaster.Proofs.Fleet.SystemGroups
import Quartermaster.Proofs.Fleet.TrackingHint
import Quartermaster.Proofs.Fleet.TrackingTexts
import Quartermaster.Proofs.Freight.CalculatorTables
import Quartermaster.Proofs.Freight.ContractsByOrigin
import Quartermaster.Proofs.Freight.LaneKeys
import Quartermaster.Proofs.Freight.Reachability
import Quartermaster.Proofs.Freight.SizeLabels
import Quartermaster.Proofs.Grouping.Partition
import Quartermaster.Proofs.Industry.OrdersByLocation
import Quartermaster.Proofs.Quantity.Commas
import Quartermaster.Proofs.Quantity.Grouped
import Quartermaster.Proofs.Quantity.Names
import Quartermaster.Proofs.Quantity.ReadBack
import Quartermaster.Proofs.Quantity.Shorthand
import Quartermaster.Proofs.Records
import Quartermaster.Proofs.SunTypes
