import DeviceRegistry.Text.Blank
import DeviceRegistry.Text.Digit
import DeviceRegistry.Text.Filled
import DeviceRegistry.Text.Word
import DeviceRegistry.Text.Quoted
import DeviceRegistry.Text.Pieces
import DeviceRegistry.Text.Like
import DeviceRegistry.Text.Line
import DeviceRegistry.Calendar.FactoryDate
import DeviceRegistry.Calendar.Week
import DeviceRegistry.Json.Reader
import DeviceRegistry.Json.Writer
import DeviceRegistry.Json.Display
import DeviceRegistry.Device.Record
import DeviceRegistry.Device.Request
import DeviceRegistry.Device.Identifier
import DeviceRegistry.Store.Associations
import DeviceRegistry.Store.Devices
import DeviceRegistry.Store.History
import DeviceRegistry.Store.Vins
import DeviceRegistry.Vehicle.Vehicles
import DeviceRegistry.Listing.Query
import DeviceRegistry.Listing.Statement
import DeviceRegistry.Listing.Devices
import DeviceRegistry.Lifecycle.Command
import DeviceRegistry.Payload.Requests
import DeviceRegistry.Payload.Settings
import DeviceRegistry.Payload.Answers
import DeviceRegistry.Http.Route
import DeviceRegistry.Proofs.Store.Statements
import DeviceRegistry.Proofs.Lifecycle.Operations
import DeviceRegistry.Proofs.Lifecycle.Transactions
import DeviceRegistry.Proofs.Lifecycle.Runs
import DeviceRegistry.Proofs.Lifecycle.Effects
import DeviceRegistry.Proofs.Lifecycle.Activation
import DeviceRegistry.Proofs.Lifecycle.Batches
import DeviceRegistry.Proofs.Device.States
import DeviceRegistry.Proofs.Device.Identifiers
import DeviceRegistry.Proofs.History.Trail
import DeviceRegistry.Proofs.History.AuditTrail
import DeviceRegistry.Proofs.History.Chronicle
import DeviceRegistry.Proofs.History.Tally
import DeviceRegistry.Proofs.Listing.StateCounts
import DeviceRegistry.Proofs.Listing.StateTotals
import DeviceRegistry.Proofs.Lifecycle.Overlay
import DeviceRegistry.Proofs.Lifecycle.Atomicity
import DeviceRegistry.Proofs.Vehicle.Ownership
import DeviceRegistry.Proofs.Vehicle.Requests
import DeviceRegistry.Proofs.Vehicle.Addressing
import DeviceRegistry.Proofs.Payload.Rows
import DeviceRegistry.Proofs.Store.References
import DeviceRegistry.Proofs.Store.Constraints
import DeviceRegistry.Proofs.Store.WellFormed
import DeviceRegistry.Proofs.History.Identity
import DeviceRegistry.Proofs.Vehicle.Calls
import DeviceRegistry.Proofs.Vehicle.Turns
import DeviceRegistry.Proofs.Vehicle.Sessions
import DeviceRegistry.Proofs.Vehicle.Faults
import DeviceRegistry.Proofs.Lifecycle.Interruptions
import DeviceRegistry.Proofs.Lifecycle.EffectOrder
import DeviceRegistry.Proofs.Lifecycle.Moves
import DeviceRegistry.Proofs.Lifecycle.Deletions
import DeviceRegistry.Proofs.Lifecycle.Creations
import DeviceRegistry.Proofs.Device.StoredForms
import DeviceRegistry.Proofs.Store.Indexes
import DeviceRegistry.Proofs.Lifecycle.Replacements
import DeviceRegistry.Proofs.Lifecycle.Reversals
import DeviceRegistry.Proofs.Lifecycle.Overrides
import DeviceRegistry.Proofs.Vehicle.Naming
import DeviceRegistry.Proofs.Listing.Queries
import DeviceRegistry.Proofs.Listing.Reference
import DeviceRegistry.Proofs.Text.Patterns
import DeviceRegistry.Proofs.Text.Numerals
import DeviceRegistry.Proofs.Calendar.Dates
import DeviceRegistry.Proofs.Calendar.Texts
import DeviceRegistry.Proofs.Store.Times
import DeviceRegistry.Proofs.Listing.Ranges
import DeviceRegistry.Proofs.Listing.Order
import DeviceRegistry.Proofs.Listing.Pages
import DeviceRegistry.Proofs.Listing.Refusals
import DeviceRegistry.Proofs.Listing.Details
import DeviceRegistry.Proofs.Listing.Wording
import DeviceRegistry.Proofs.Listing.Exact
import DeviceRegistry.Proofs.Listing.Agreement
import DeviceRegistry.Proofs.Calendar.Weeks
import DeviceRegistry.Proofs.Vehicle.ProductionWeeks
import DeviceRegistry.Proofs.Calendar.Readings
import DeviceRegistry.Proofs.History.Chronology
import DeviceRegistry.Proofs.Device.FactoryDates
import DeviceRegistry.Proofs.Text.Words
import DeviceRegistry.Proofs.Listing.Spelling
import DeviceRegistry.Proofs.Text.Escapes
import DeviceRegistry.Proofs.Listing.PageNumbers
