import PathRouter.Request.Path
import PathRouter.Request.Method
import PathRouter.Pattern.Segment
import PathRouter.Unicode.Category
import PathRouter.Unicode.Script
import PathRouter.Unicode.ScriptExtension
import PathRouter.Unicode.Age
import PathRouter.Unicode.Binary
import PathRouter.Unicode.GraphemeBreak
import PathRouter.Unicode.WordBreak
import PathRouter.Unicode.SentenceBreak
import PathRouter.Unicode.CaseOrbit
import PathRouter.Unicode.Property
import PathRouter.Text.Consume
import PathRouter.Regex.Syntax
import PathRouter.Regex.Parser
import PathRouter.Regex.Meaning
import PathRouter.Regex.Size
import PathRouter.Regex.Search
import PathRouter.Regex.Basic
import PathRouter.Dictionary
import PathRouter.Pattern.TypeRegistry
import PathRouter.Pattern.Matcher
import PathRouter.Router.Edit
import PathRouter.Router.Match
import PathRouter.Router.Generate
import PathRouter.Router.Listing
import PathRouter.Decimal.Shortest
import PathRouter.Json.Number
import PathRouter.Json.Reading
import PathRouter.Json.Value
import PathRouter.Text.Quoted
import PathRouter.Table.Basic
import PathRouter.Table.Field
import PathRouter.Table.Json
import PathRouter.Yaml.Source
import PathRouter.Yaml.Scalar
import PathRouter.Yaml.Tag
import PathRouter.Yaml.Token
import PathRouter.Yaml.Node
import PathRouter.Table.Yaml
import PathRouter.Storage.Path
import PathRouter.Storage.Directory
import PathRouter.Table.Load
import PathRouter.Log.Level
import PathRouter.Log.Filter
import PathRouter.Log.Settings
import PathRouter.Log.Event
import PathRouter.Log.Journal
import PathRouter.CommandLine.Arguments
import PathRouter.CommandLine.Invocation
import PathRouter.CommandLine.Execution
import PathRouter.CommandLine.Program
import PathRouter.Main
import PathRouter.Text.Digit
import PathRouter.Proofs.Outcome
import PathRouter.Proofs.Text.Utf8
import PathRouter.Proofs.Dictionary
import PathRouter.Proofs.Request.Spelling
import PathRouter.Proofs.Regex.Machine
import PathRouter.Proofs.Regex.Backtracking
import PathRouter.Proofs.Regex.Building
import PathRouter.Proofs.Regex.Reading
import PathRouter.Proofs.Pattern.Scan
import PathRouter.Proofs.Pattern.ValueClass
import PathRouter.Proofs.Pattern.Source
import PathRouter.Proofs.Pattern.Split
import PathRouter.Proofs.Pattern.Meaning
import PathRouter.Proofs.Pattern.Compilation
import PathRouter.Proofs.Pattern.Exact
import PathRouter.Proofs.Pattern.Tags
import PathRouter.Proofs.Pattern.Separable
import PathRouter.Proofs.Router.Reachable
import PathRouter.Proofs.Router.Expansion
import PathRouter.Proofs.Router.Generation
import PathRouter.Proofs.Router.RoundTrip
import PathRouter.Proofs.Pattern.Canonical
import PathRouter.Proofs.Router.History
import PathRouter.Proofs.Router.WellFormed
import PathRouter.Proofs.Router.Reversible
import PathRouter.Proofs.Router.Retyping
import PathRouter.Proofs.Table.Building
import PathRouter.Proofs.Regex.Levels
import PathRouter.Proofs.Regex.Opening
import PathRouter.Proofs.Pattern.Head
import PathRouter.Proofs.Router.FirstMatch
import PathRouter.Proofs.Router.SpelledRequest
import PathRouter.Proofs.Regex.Lookahead
import PathRouter.Proofs.Regex.Turns
import PathRouter.Proofs.Regex.Enclosed
import PathRouter.Proofs.Regex.Groups
import PathRouter.Proofs.Regex.Closing
import PathRouter.Proofs.Router.Anchored
import PathRouter.Proofs.Pattern.Slots
import PathRouter.Proofs.Pattern.Fault
import PathRouter.Proofs.Pattern.Renaming
import PathRouter.Proofs.Regex.Alternatives
import PathRouter.Proofs.Unicode.CaseFolding
import PathRouter.Proofs.Router.MethodList
import PathRouter.Proofs.Json.RoundTrip
import PathRouter.Proofs.CommandLine.Execution
import PathRouter.Proofs.Request.BasePath
import PathRouter.Proofs.Pattern.RestOfPath
import PathRouter.Proofs.Router.LastValue
import PathRouter.Proofs.Json.Form
import PathRouter.Proofs.Table.JsonForm
import PathRouter.Proofs.Table.JsonObject
