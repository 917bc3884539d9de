import Locator.Act
import Locator.Bootstrap
import Locator.CauseChain
import Locator.Client
import Locator.CommandLine
import Locator.Component
import Locator.Environment
import Locator.Event
import Locator.Handle
import Locator.Host
import Locator.HostSettings
import Locator.Loading
import Locator.Logging
import Locator.Main
import Locator.NameMap
import Locator.Naming
import Locator.Number.Decimal
import Locator.Number.Double
import Locator.Parameters
import Locator.Plan
import Locator.Publisher
import Locator.Registry
import Locator.Rehearsal
import Locator.Remote
import Locator.Repository
import Locator.Settings.Format
import Locator.Settings.Layers
import Locator.Settings.StaticFormat
import Locator.Settings.Tree
import Locator.Settings.VariableValue
import Locator.Shown
import Locator.StaticConnector
import Locator.StaticDirectory
import Locator.StaticSettings
import Locator.Text.CodePoints
import Locator.Text.Quoted
import Locator.Yaml.Node
import Locator.Yaml.Printer
import Locator.Yaml.Scalar
import Locator.Yaml.Source
import Locator.Yaml.Value
import Locator.Proofs.Alike.Act
import Locator.Proofs.Alike.Bootstrap
import Locator.Proofs.Bootstrap.Order
import Locator.Proofs.Bootstrap.Runs
import Locator.Proofs.Host.Secrecy
import Locator.Proofs.Partition
import Locator.Proofs.Publisher.History
import Locator.Proofs.Publisher.Runs
import Locator.Proofs.StaticDirectory.Access
import Locator.Proofs.StaticDirectory.Alike
import Locator.Proofs.Registry.Precedence
import Locator.Proofs.Partition.Lossless
import Locator.Proofs.StaticDirectory.Refinement
import Locator.Proofs.StaticDirectory.Build
import Locator.Proofs.Host.Runs
import Locator.Proofs.Host.Outcome
import Locator.Proofs.Settings.LoadsBack
import Locator.Proofs.StaticDirectory.Sessions
import Locator.Proofs.Client.Forwarding
import Locator.Proofs.Environment.Histories
import Locator.Proofs.Registry.Construct
import Locator.Proofs.Bootstrap.Enclosed
import Locator.Proofs.Bootstrap.Reports
import Locator.Proofs.Publisher.Reports
import Locator.Proofs.Bootstrap.Independence
import Locator.Proofs.Publisher.Independence
import Locator.Proofs.Settings.Abridged
import Locator.Proofs.Settings.Closed
import Locator.Proofs.Logging.Decision
import Locator.Proofs.Logging.Verbosity
import Locator.Proofs.Registry.Requests
import Locator.Proofs.StaticDirectory.Contents
import Locator.Proofs.Partition.Answers
import Locator.Proofs.CauseChain
import Locator.Proofs.Bootstrap.Causes
import Locator.Proofs.Text.Letters
import Locator.Proofs.Settings.Paths
import Locator.Proofs.Settings.Slots
import Locator.Proofs.Settings.Keys
import Locator.Proofs.Settings.VariableNames
import Locator.Proofs.Settings.VariableValues
import Locator.Proofs.Settings.Overrides
import Locator.Proofs.Settings.WithoutFile
import Locator.Proofs.Client.Logins
import Locator.Proofs.StaticDirectory.Views
import Locator.Proofs.CauseChain.Joined
import Locator.Proofs.CauseChain.Omissions
