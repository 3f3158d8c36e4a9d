import Keyspace.Artifacts
import Keyspace.Artifacts.Writing
import Keyspace.Blueprint.Access
import Keyspace.Blueprint.Basic
import Keyspace.Blueprint.Build
import Keyspace.Blueprint.Json
import Keyspace.Blueprint.Names
import Keyspace.Change.Consumer
import Keyspace.Change.Event
import Keyspace.Change.Retry
import Keyspace.Change.Stream
import Keyspace.Code.Emit
import Keyspace.Code.Enums
import Keyspace.Code.FunctionPath
import Keyspace.Code.Handlers
import Keyspace.Code.Identifier
import Keyspace.Code.Models
import Keyspace.Code.StoreMethods
import Keyspace.Code.Text
import Keyspace.Code.Tokens
import Keyspace.CommandLine.Options
import Keyspace.CommandLine.Run
import Keyspace.Config.Basic
import Keyspace.Config.Reader
import Keyspace.Dict
import Keyspace.Environment
import Keyspace.Error
import Keyspace.Example.Orders
import Keyspace.Example.Shop
import Keyspace.Files.Path
import Keyspace.Files.Pattern
import Keyspace.Files.Search
import Keyspace.Files.System
import Keyspace.Files.Tree
import Keyspace.Json.Basic
import Keyspace.Json.Decode
import Keyspace.Json.Printer
import Keyspace.Json.Reader
import Keyspace.Main
import Keyspace.Number.Double
import Keyspace.Number.Power
import Keyspace.Number.Reading
import Keyspace.Number.Shortest
import Keyspace.Proofs.Action
import Keyspace.Proofs.Artifacts.FailedWrites
import Keyspace.Proofs.Artifacts.WrittenTwice
import Keyspace.Proofs.Blueprint.Accepted
import Keyspace.Proofs.Change.ConcurrentReduction
import Keyspace.Proofs.Change.ReducerRun
import Keyspace.Proofs.Change.SharedSummary
import Keyspace.Proofs.Dict
import Keyspace.Proofs.Example.OrderTotals
import Keyspace.Proofs.Number.IntegerText
import Keyspace.Proofs.Record.Image
import Keyspace.Proofs.Storage.Slots
import Keyspace.Proofs.Store.History
import Keyspace.Proofs.Store.Operation
import Keyspace.Proofs.Store.Requests
import Keyspace.Proofs.Template.Bindings
import Keyspace.Proofs.Template.CutText
import Keyspace.Proofs.Template.Forwarding
import Keyspace.Proofs.Template.FunctionStacks
import Keyspace.Proofs.Text.Marks
import Keyspace.Record.Basic
import Keyspace.Record.Json
import Keyspace.Record.Marshal
import Keyspace.Schema.Directive
import Keyspace.Schema.Document
import Keyspace.Schema.Duration
import Keyspace.Schema.Token
import Keyspace.Storage.Condition
import Keyspace.Storage.Faulty
import Keyspace.Storage.Memory
import Keyspace.Storage.Service
import Keyspace.Store
import Keyspace.Template.Basic
import Keyspace.Template.Check
import Keyspace.Template.Emit
import Keyspace.Template.Functions
import Keyspace.Template.Reference
import Keyspace.Template.Stacks
import Keyspace.Template.Tables
import Keyspace.Template.Wiring
import Keyspace.Text.Basic
import Keyspace.Text.Case
import Keyspace.Text.CharacterClass
import Keyspace.Text.Debug
import Keyspace.Text.Words
import Keyspace.Time.Calendar
import Keyspace.Time.Reading
import Keyspace.Time.Timestamp
import Keyspace.Wire.Attribute
import Keyspace.Wire.Columns
import Keyspace.Wire.Key
import Keyspace.Wire.Value
import Keyspace.Yaml.Basic
import Keyspace.Yaml.Printer
import Keyspace.Yaml.Reader
import Keyspace.Yaml.Token
import Keyspace.Proofs.Blueprint.Columns
import Keyspace.Proofs.Record.OwnKey
import Keyspace.Proofs.Template.Passes
import Keyspace.Proofs.Template.Consistency
import Keyspace.Proofs.Template.ClosedStacks
import Keyspace.Proofs.Template.RootNames
import Keyspace.Proofs.Blueprint.Handlers
import Keyspace.Proofs.Template.PublishedText
import Keyspace.Proofs.Template.Resolution
import Keyspace.Proofs.Template.SelfConsistent
import Keyspace.Proofs.Record.ReadBack
import Keyspace.Proofs.Store.CreateFind
import Keyspace.Proofs.Template.LocalizedText
import Keyspace.Proofs.Template.Meaning
import Keyspace.Proofs.Blueprint.Merging
import Keyspace.Proofs.Record.KeyTypes
import Keyspace.Proofs.Template.EventRules
import Keyspace.Proofs.Template.PublishedTables
import Keyspace.Proofs.Template.SpreadGlobals
import Keyspace.Proofs.Blueprint.DefinitionOrder
import Keyspace.Proofs.Blueprint.HandlerTables
import Keyspace.Proofs.Template.PublishedValues
import Keyspace.Proofs.Storage.KeyedItems
import Keyspace.Proofs.Store.Calls
import Keyspace.Proofs.Store.StaleUpdates
import Keyspace.Proofs.Store.FailedCalls
import Keyspace.Proofs.Store.SharedTables
import Keyspace.Proofs.Json.Members
import Keyspace.Proofs.Change.Delivery
import Keyspace.Proofs.Storage.Placeholders
import Keyspace.Proofs.Wire.PlainJson
import Keyspace.Proofs.Store.WrittenFound
import Keyspace.Proofs.Code.LegalNames
import Keyspace.Proofs.Code.DistinctNames
import Keyspace.Proofs.Change.Attempts
import Keyspace.Proofs.Change.Dispatching
import Keyspace.Proofs.Blueprint.Inlining
import Keyspace.Proofs.Store.ToldByKeys
import Keyspace.Proofs.Change.Upserts
import Keyspace.Proofs.Record.OwnColumns
import Keyspace.Proofs.Record.WrittenAgain
import Keyspace.Proofs.Code.FieldCoverage
import Keyspace.Proofs.Blueprint.KeyParts
import Keyspace.Proofs.Template.KeyAttributes
import Keyspace.Proofs.Blueprint.Expiry
import Keyspace.Proofs.Record.Expiry
import Keyspace.Proofs.Store.ExpiryDefaults
import Keyspace.Proofs.Overwriting
import Keyspace.Proofs.Template.WiredAgain
import Keyspace.Proofs.Template.StackFunctions
import Keyspace.Proofs.Template.TableAccess
import Keyspace.Proofs.Artifacts.OwnUnits
import Keyspace.Proofs.Artifacts.BuildOutputs
import Keyspace.Proofs.Schema.GivenArguments
import Keyspace.Proofs.Unpacking
import Keyspace.Proofs.Blueprint.WrittenForm
import Keyspace.Proofs.Schema.Durations
import Keyspace.Proofs.Template.VariableSearch
