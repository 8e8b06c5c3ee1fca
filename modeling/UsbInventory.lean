import UsbInventory.Backend.Operation
import UsbInventory.Bridge.Action
import UsbInventory.Main
import UsbInventory.Settings.Exchange
import UsbInventory.Proofs.Pass.Candidates
import UsbInventory.Proofs.Pass.Counters
import UsbInventory.Proofs.Pass.Protocol
import UsbInventory.Proofs.Files.Names
import UsbInventory.Proofs.Path.Joining
import UsbInventory.Proofs.Path.Room
import UsbInventory.Proofs.Pass.Registration
import UsbInventory.Proofs.Bridge.Request
import UsbInventory.Proofs.Worker.Course
import UsbInventory.Proofs.Worker.Stream
import UsbInventory.Proofs.Pass.Survey
import UsbInventory.Proofs.Worker.Following
import UsbInventory.Proofs.Bridge.Ledger
import UsbInventory.Proofs.Bridge.Delivery
import UsbInventory.Proofs.Worker.Accounts
import UsbInventory.Proofs.Number.Decimal
import UsbInventory.Proofs.Pass.Naming
import UsbInventory.Proofs.Worker.Stopping
import UsbInventory.Proofs.Pass.Mirror
import UsbInventory.Proofs.Files.Locations
import UsbInventory.Proofs.DeviceTree.Properties
import UsbInventory.Proofs.Pattern.Matching
import UsbInventory.Proofs.Pattern.GroupName
import UsbInventory.Proofs.Pass.Layout
import UsbInventory.Proofs.Pass.Inspection
import UsbInventory.Proofs.Pass.Leniency
import UsbInventory.Proofs.Pass.WholePaths
import UsbInventory.Proofs.Pass.Reordering
import UsbInventory.Proofs.Path.Canonical
import UsbInventory.Proofs.Path.NodeNames
import UsbInventory.Proofs.Pass.NodePaths
import UsbInventory.Proofs.Number.Spelling
import UsbInventory.Proofs.DeviceTree.Listing
import UsbInventory.Proofs.Files.Descent
import UsbInventory.Proofs.DeviceTree.Stored
import UsbInventory.Proofs.Pass.Capacity
import UsbInventory.Proofs.Filter.Admission
import UsbInventory.Proofs.Filter.GroupIds
import UsbInventory.Proofs.Pass.Skipping
import UsbInventory.Proofs.Settings.Validation
import UsbInventory.Proofs.Json.Reading
import UsbInventory.Proofs.Json.Records
import UsbInventory.Proofs.Settings.Overlay
import UsbInventory.Proofs.Settings.Exchange
import UsbInventory.Proofs.Toml.Strings
import UsbInventory.Proofs.Toml.Values
import UsbInventory.Proofs.Toml.Documents
import UsbInventory.Proofs.Settings.Partial
import UsbInventory.Proofs.Files.Growth
import UsbInventory.Proofs.Files.Writing
import UsbInventory.Proofs.Settings.Saving
import UsbInventory.Proofs.Files.WorkingDirectory
import UsbInventory.Proofs.Settings.DevicesRoot
import UsbInventory.Proofs.Path.UnitAddress
import UsbInventory.Proofs.Pass.Outcomes
import UsbInventory.Proofs.Pass.Verdict
import UsbInventory.Proofs.Pass.Sessions
import UsbInventory.Proofs.Json.Visible
import UsbInventory.Proofs.CommandLine.Listing
import UsbInventory.Proofs.CommandLine.JsonListing
import UsbInventory.Proofs.CommandLine.TextListing
import UsbInventory.Proofs.Pass.LeafAddress
import UsbInventory.Proofs.Pass.ResolvedPaths
import UsbInventory.Proofs.Path.BoundedSteps
import UsbInventory.Proofs.Filter.Grammar
import UsbInventory.Proofs.DeviceTree.Values
import UsbInventory.Proofs.Files.Resolution
import UsbInventory.Proofs.Number.LeadingBytes
import UsbInventory.Proofs.Path.Definite
import UsbInventory.Proofs.Settings.Expansion
