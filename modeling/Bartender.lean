import Bartender.Plugins.StartOutcome
import Bartender.Plugins.Loader
import Bartender.Plugins.StopOutcome
import Bartender.Plugins.Restart
import Bartender.Plugins.StartOnce
import Bartender.Plugins.LiveRunners
import Bartender.Requests.Saved
import Bartender.Requests.Idempotence
import Bartender.Requests.Escapes
import Bartender.Requests.Bounds
import Bartender.Requests.DictionaryChoices
import Bartender.Plugins.Reload
import Bartender.Thrift.RemoveSystem
import Bartender.Plugins.StartRace
import Bartender.Plugins.StatusRace
import Bartender.Plugins.Heartbeats
import Bartender.Plugins.StopRace
import Bartender.Plugins.ShutdownRace
import Bartender.Plugins.HostVariables
import Bartender.Plugins.Expansion
import Bartender.Plugins.StartFailures
import Bartender.Plugins.LoadedConfig
import Bartender.Plugins.Recovery
import Bartender.Plugins.ScanIdentity
import Bartender.Plugins.ModuleCache
import Bartender.Plugins.RegistryMap
import Bartender.Thrift.ClearAll
import Bartender.Broker.Disconnect
import Bartender.Broker.ClearRace
import Bartender.Requests.DeclaredTypes
import Bartender.Python.Decimals
import Bartender.Requests.LargeIntegers
import Bartender.Pruning.MongoPruner
import Bartender.Pruning.Selection
import Bartender.Pruning.Retention
import Bartender.Plugins.VariableDetection
import Bartender.Plugins.RegistryRace
import Bartender.Thrift.Server
import Bartender.App.Supervision
import Bartender.App.Main
import Bartender.Plugins.Logging
import Bartender.Plugins.Output
import Bartender.Requests.Retries
import Bartender.Requests.Acceptance
import Bartender.Requests.KeyOrder
import Bartender.Thrift.QueueAccounts
import Bartender.Plugins.Lifecycle
import Bartender.Plugins.Startup
import Bartender.Plugins.Detector
