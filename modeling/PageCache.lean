import PageCache.Arguments
import PageCache.Arguments.Parser
import PageCache.Bytes
import PageCache.Command
import PageCache.Config
import PageCache.Config.Json
import PageCache.Config.Path
import PageCache.Config.Value
import PageCache.Decimal
import PageCache.Digest
import PageCache.Entry
import PageCache.Entry.Json
import PageCache.Failure
import PageCache.Files.Path
import PageCache.Files.Program
import PageCache.Files.Tree
import PageCache.FlightTable
import PageCache.Json
import PageCache.Json.Parser
import PageCache.Key
import PageCache.Lookup
import PageCache.Main
import PageCache.Metrics
import PageCache.Policy
import PageCache.Proofs.Run
import PageCache.Proofs.Scheduler.Progress
import PageCache.Proofs.Scheduler.Transition
import PageCache.Proofs.Store.Lawful
import PageCache.Proofs.Store.Memory
import PageCache.Proofs.TagIndex.Links
import PageCache.Render
import PageCache.Scheduler
import PageCache.Scheduler.Task
import PageCache.Settings
import PageCache.Settings.Reading
import PageCache.Settings.Sources
import PageCache.Simulation.Flights
import PageCache.Simulation.Script
import PageCache.Simulation.Step
import PageCache.Simulation.World
import PageCache.SortedMap
import PageCache.SortedSet
import PageCache.Store
import PageCache.Store.Backend
import PageCache.Store.Disk
import PageCache.Store.Memory
import PageCache.Store.Record
import PageCache.TagIndex
import PageCache.TagIndex.Sweep
import PageCache.Text.Hex
import PageCache.Text.Number
import PageCache.Text.Quoted
import PageCache.Text.Shapeless
import PageCache.Text.Utf8
import PageCache.Time
import PageCache.Time.Calendar
import PageCache.Toml.Parser
import PageCache.Toml.Scalar
import PageCache.Toml.Statement
import PageCache.Toml.Text
import PageCache.Toml.TimeTable
import PageCache.Proofs.Scheduler.Abandon
import PageCache.Proofs.Scheduler.Flying
import PageCache.Proofs.Scheduler.SingleFlight
import PageCache.Proofs.Scheduler.Contents
import PageCache.Proofs.Scheduler.Standing
import PageCache.Proofs.Scheduler.LinkedTags
import PageCache.Proofs.Scheduler.Sweeps
import PageCache.Proofs.Scheduler.PurgeStands
import PageCache.Proofs.Scheduler.RenderedOnce
import PageCache.Proofs.Scheduler.StaticEntry
import PageCache.Proofs.Scheduler.Maintenance
import PageCache.Proofs.Scheduler.ServedAnew
import PageCache.Proofs.Scheduler.Answers
import PageCache.Proofs.Scheduler.Moves
import PageCache.Proofs.TagIndex.OneKey
import PageCache.Proofs.Store.OneKey
import PageCache.Proofs.Scheduler.OneKey
import PageCache.Proofs.Scheduler.Apart
import PageCache.Proofs.Json.Octets
import PageCache.Proofs.Json.Strings
import PageCache.Proofs.Json.Numbers
import PageCache.Proofs.Json.RoundTrip
import PageCache.Proofs.Store.Record
import PageCache.Proofs.Files.Way
import PageCache.Proofs.Files.Folder
import PageCache.Proofs.Store.Names
import PageCache.Proofs.Files.Interruption
import PageCache.Proofs.Store.Layout
import PageCache.Proofs.Store.Disk
import PageCache.Proofs.Store.AllOrNothing
import PageCache.Proofs.Store.Agreement
import PageCache.Proofs.Store.Backend
import PageCache.Proofs.Scheduler.Cluster
import PageCache.Proofs.Scheduler.GenerationChain
import PageCache.Proofs.Scheduler.KeysApart
import PageCache.Proofs.Store.Shown
import PageCache.Proofs.Store.Removal
import PageCache.Proofs.TagIndex.Consistent
import PageCache.Proofs.Scheduler.Books
import PageCache.Proofs.Scheduler.Accounts
import PageCache.Proofs.Scheduler.Retries
import PageCache.Proofs.Scheduler.PurgeCount
import PageCache.Proofs.Freshness
import PageCache.Proofs.Store.Recency
import PageCache.Proofs.Scheduler.Rederivation
import PageCache.Proofs.Text.ByteOrder
import PageCache.Proofs.Files.Outside
import PageCache.Proofs.Store.Outside
import PageCache.Proofs.Command.Asked
import PageCache.Proofs.Command.PurgeTag
import PageCache.Proofs.TagIndex.Sweep
import PageCache.Proofs.TagIndex.InUse
import PageCache.Proofs.Store.Mode
import PageCache.Proofs.Key
import PageCache.Proofs.Scheduler.PagesApart
import PageCache.Proofs.Text.Encoded
import PageCache.Proofs.Settings.Files
import PageCache.Proofs.Settings.Layers
import PageCache.Proofs.Settings.Sources
