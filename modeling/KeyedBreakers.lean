import KeyedBreakers.Command.Run
import KeyedBreakers.Config.Load
import KeyedBreakers.Json.Reader
import KeyedBreakers.Main
import KeyedBreakers.Registry.Session
import KeyedBreakers.Proofs.Registry.Linearization
import KeyedBreakers.Proofs.Registry.Uniqueness
import KeyedBreakers.Proofs.Key.Partition
import KeyedBreakers.Proofs.Unicode.Lasting
import KeyedBreakers.Proofs.Url.Refusal
import KeyedBreakers.Proofs.Call.WrittenTarget
import KeyedBreakers.Proofs.Call.WrittenPort
import KeyedBreakers.Proofs.Registry.Balance
import KeyedBreakers.Proofs.Registry.Fleet
import KeyedBreakers.Proofs.Registry.Agenda
import KeyedBreakers.Proofs.Registry.Race
import KeyedBreakers.Proofs.Registry.Renumbering
import KeyedBreakers.Proofs.Registry.Locality
import KeyedBreakers.Proofs.Registry.Isolation
import KeyedBreakers.Proofs.Registry.Tasks
import KeyedBreakers.Proofs.Text.ByteOrder
import KeyedBreakers.Proofs.Registry.Alone
import KeyedBreakers.Proofs.Command.Report
import KeyedBreakers.Proofs.Command.Arguments
import KeyedBreakers.Proofs.Command.Interleavings
import KeyedBreakers.Proofs.Config.Verdict
import KeyedBreakers.Proofs.Registry.Reentrance
import KeyedBreakers.Proofs.Registry.TextKeys
import KeyedBreakers.Proofs.Registry.Separation
import KeyedBreakers.Proofs.Registry.Thinning
import KeyedBreakers.Proofs.Registry.Gauge
import KeyedBreakers.Proofs.Call.DenotedPort
import KeyedBreakers.Proofs.Call.IgnoredCharacters
import KeyedBreakers.Proofs.Text.Quoted
import KeyedBreakers.Proofs.Key.Shown
import KeyedBreakers.Proofs.Registry.Introspection
import KeyedBreakers.Proofs.Config.Records
import KeyedBreakers.Proofs.Config.Shapes
import KeyedBreakers.Proofs.Config.Decoding
import KeyedBreakers.Proofs.Call.NormalText
import KeyedBreakers.Proofs.Call.Rereading
import KeyedBreakers.Proofs.Call.TwoWays
import KeyedBreakers.Proofs.Url.Literals
import KeyedBreakers.Proofs.Key.Spelling
import KeyedBreakers.Proofs.Toml.Names
import KeyedBreakers.Proofs.Config.StrategyNames
import KeyedBreakers.Proofs.Call.LastWrites
