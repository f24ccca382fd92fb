import SitePlan.Address.Cidr
import SitePlan.Address.Document
import SitePlan.Address.Error
import SitePlan.Address.Ipv4
import SitePlan.ApplicationNode
import SitePlan.Cabinet.Document
import SitePlan.Cabinet.Filter
import SitePlan.Cabinet.Group
import SitePlan.Cabling.Device
import SitePlan.Cabling.Error
import SitePlan.Cabling.Position
import SitePlan.Cabling.Row
import SitePlan.CommandLine.Arguments
import SitePlan.CommandLine.Run
import SitePlan.Document
import SitePlan.Hardware.Class
import SitePlan.Hardware.Document
import SitePlan.Hardware.Inventory
import SitePlan.Hardware.Record
import SitePlan.Hardware.Tag
import SitePlan.Json
import SitePlan.Json.Document
import SitePlan.Json.Printer
import SitePlan.Json.Reader
import SitePlan.Json.Token
import SitePlan.Layout.Basic
import SitePlan.Layout.Standard
import SitePlan.Main
import SitePlan.ManagementNode
import SitePlan.Network.Basic
import SitePlan.Network.Document
import SitePlan.Plan.Basic
import SitePlan.Plan.Document
import SitePlan.Plan.Files
import SitePlan.Plan.Generation
import SitePlan.Proofs.Address.Blocks
import SitePlan.Proofs.Address.Text
import SitePlan.Proofs.ApplicationNode
import SitePlan.Proofs.ApplicationNode.Checking
import SitePlan.Proofs.ApplicationNode.Normalizing
import SitePlan.Proofs.Cabinet.Populated
import SitePlan.Proofs.Cabinet.SettledGroups
import SitePlan.Proofs.Cabling.Locations
import SitePlan.Proofs.Cabling.Respelling
import SitePlan.Proofs.Cabling.SubRoles
import SitePlan.Proofs.Document
import SitePlan.Proofs.Hardware.Filing
import SitePlan.Proofs.Hardware.ReadingBack
import SitePlan.Proofs.Json.RoundTrip
import SitePlan.Proofs.Json.Tokens
import SitePlan.Proofs.Layout.Bootstrap
import SitePlan.Proofs.Layout.CabinetSubnets
import SitePlan.Proofs.Layout.Networks
import SitePlan.Proofs.Layout.RangeFaults
import SitePlan.Proofs.Layout.Soundness
import SitePlan.Proofs.Layout.Stages
import SitePlan.Proofs.Layout.Supernets
import SitePlan.Proofs.Layout.SwitchAddresses
import SitePlan.Proofs.Network.BiggestBlock
import SitePlan.Proofs.Network.CabinetOrder
import SitePlan.Proofs.Network.CabinetRoom
import SitePlan.Proofs.Network.CabinetRuns
import SitePlan.Proofs.Network.CabinetVlans
import SitePlan.Proofs.Network.Carving
import SitePlan.Proofs.Network.CarvingRuns
import SitePlan.Proofs.Network.ChosenBlocks
import SitePlan.Proofs.Network.FirstFit
import SitePlan.Proofs.Network.Growth
import SitePlan.Proofs.Network.Planned
import SitePlan.Proofs.Network.ReadingBack
import SitePlan.Proofs.Network.Sealing
import SitePlan.Proofs.Outcome
import SitePlan.Proofs.Plan.CabinetCoverage
import SitePlan.Proofs.Plan.DeclaredRacks
import SitePlan.Proofs.Plan.Files
import SitePlan.Proofs.Plan.GenerationFaults
import SitePlan.Proofs.Plan.ManagementNodes
import SitePlan.Proofs.Plan.PinnedCabinets
import SitePlan.Proofs.Plan.ReadingBack
import SitePlan.Proofs.SortedMap
import SitePlan.Proofs.Subnet.OnRequest
import SitePlan.Proofs.Subnet.RangeRuns
import SitePlan.Proofs.Subnet.Requests
import SitePlan.Proofs.Subnet.Reservations
import SitePlan.Proofs.Subnet.ReservingAgain
import SitePlan.Proofs.Subnet.ReservingRuns
import SitePlan.Proofs.Subnet.SwitchReservations
import SitePlan.Proofs.Subnet.UniqueNames
import SitePlan.Proofs.Subnet.UsableAddresses
import SitePlan.Proofs.Switch.Listing
import SitePlan.Proofs.Switch.Names
import SitePlan.Proofs.Synthesis.CabinetNodes
import SitePlan.Proofs.Synthesis.Connectors
import SitePlan.Proofs.Synthesis.DenseEnclosures
import SitePlan.Proofs.Synthesis.Enclosures
import SitePlan.Proofs.Synthesis.GivenNames
import SitePlan.Proofs.Synthesis.HostNames
import SitePlan.Proofs.Synthesis.InertRows
import SitePlan.Proofs.Synthesis.LiquidCooledRecords
import SitePlan.Proofs.Synthesis.ManagementHosts
import SitePlan.Proofs.Synthesis.ManagementNumbers
import SitePlan.Proofs.Synthesis.NodeIdentity
import SitePlan.Proofs.Synthesis.NodeNumbers
import SitePlan.Proofs.Synthesis.RackNodes
import SitePlan.Proofs.Synthesis.RackRecords
import SitePlan.Proofs.Synthesis.RecordFaults
import SitePlan.Proofs.Synthesis.RecordRuns
import SitePlan.Proofs.Synthesis.RecordSources
import SitePlan.Proofs.Synthesis.Respelling
import SitePlan.Proofs.Synthesis.RowOrder
import SitePlan.Proofs.Synthesis.RowPieces
import SitePlan.Proofs.Synthesis.RowRecords
import SitePlan.Proofs.Synthesis.SelfConsistency
import SitePlan.Proofs.Synthesis.SwitchRecords
import SitePlan.Proofs.Text.Digits
import SitePlan.Proofs.Text.LowerCase
import SitePlan.Proofs.Text.Padding
import SitePlan.Proofs.Text.Respelling
import SitePlan.Proofs.Xname.CabinetLists
import SitePlan.Proofs.Xname.CanonicalForm
import SitePlan.Proofs.Xname.Components
import SitePlan.Proofs.Xname.Order
import SitePlan.Proofs.Xname.Spelling
import SitePlan.Proofs.Xname.Templates
import SitePlan.Proofs.Yaml.Layout
import SitePlan.Proofs.Yaml.Parts
import SitePlan.Proofs.Yaml.Places
import SitePlan.Proofs.Yaml.PlainScalars
import SitePlan.Proofs.Yaml.QuotedScalars
import SitePlan.Proofs.Yaml.RoundTrip
import SitePlan.Proofs.Yaml.Scalars
import SitePlan.Proofs.Yaml.Steps
import SitePlan.Proofs.Yaml.Tokens
import SitePlan.Site.Basic
import SitePlan.Site.Directory
import SitePlan.SortedMap
import SitePlan.Sorting
import SitePlan.Subnet.Basic
import SitePlan.Subnet.Document
import SitePlan.Subnet.Groups
import SitePlan.Switch
import SitePlan.Switch.Listing
import SitePlan.Synthesis.Basic
import SitePlan.Synthesis.Cabinets
import SitePlan.Synthesis.Inventory
import SitePlan.Synthesis.LiquidCooled
import SitePlan.Synthesis.Rack
import SitePlan.Synthesis.Switches
import SitePlan.Text.Blank
import SitePlan.Text.Digit
import SitePlan.Text.LowerCase
import SitePlan.Text.LowerCase.Table
import SitePlan.Text.LowerCase.WordEnd
import SitePlan.Text.Quoted
import SitePlan.Text.Quoted.Unprinted
import SitePlan.Text.Split
import SitePlan.Xname.Canonical
import SitePlan.Xname.Component
import SitePlan.Xname.Error
import SitePlan.Xname.Grammar
import SitePlan.Xname.Kind
import SitePlan.Xname.Order
import SitePlan.Yaml
import SitePlan.Yaml.Document
import SitePlan.Yaml.Printer
import SitePlan.Yaml.Reader
import SitePlan.Yaml.Scalar
import SitePlan.Yaml.Token
