import LineScript.Text.CodeSet
import LineScript.Text.Printable
import LineScript.Text.WordChar
import LineScript.Text.Identifier
import LineScript.Text.Digit
import LineScript.Text.LetterCase
import LineScript.Text.Blank
import LineScript.Text.Quoted
import LineScript.Text.Lines
import LineScript.Text.Utf8
import LineScript.Text.Base64
import LineScript.Text.Ansi
import LineScript.Numeral.Integer
import LineScript.Numeral.Binary64
import LineScript.Numeral.Shortest
import LineScript.Numeral.Duration
import LineScript.Path
import LineScript.Files.Refusal
import LineScript.Files.Tree
import LineScript.Files.Resolve
import LineScript.Files.Access
import LineScript.Files.Change
import LineScript.Script.Word
import LineScript.Script.Guard
import LineScript.Script.Line
import LineScript.Script.Print
import LineScript.Pattern.Defect
import LineScript.Fault
import LineScript.Table
import LineScript.Environment
import LineScript.Scopes
import LineScript.Pattern.CharTest
import LineScript.Pattern.Node
import LineScript.Pattern.Flag
import LineScript.Pattern.Reading
import LineScript.Pattern.Escape
import LineScript.Pattern.SetReading
import LineScript.Pattern.FlagReading
import LineScript.Pattern.TreeReading
import LineScript.Pattern.Matching
import LineScript.Pattern
import LineScript.Calendar
import LineScript.Value
import LineScript.Diagnostic
import LineScript.Presentation
import LineScript.Options
import LineScript.Process
import LineScript.Platform
import LineScript.Machine
import LineScript.Scene
import LineScript.Engine
import LineScript.Trace
import LineScript.Source
import LineScript.Execution
import LineScript.Listing
import LineScript.Builtin.Looking
import LineScript.Builtin.Searching
import LineScript.Builtin.Changing
import LineScript.Builtin.Programs
import LineScript.Builtin.Conditions
import LineScript.Builtin.Tables
import LineScript.Settings
import LineScript.SettingsFile
import LineScript.Report
import LineScript.Dialogue
import LineScript.CommandLine
import LineScript.Options.Reading
import LineScript.Shell.Source
import LineScript.Shell.State
import LineScript.Shell.Builtin
import LineScript.Shell.Running
import LineScript.Platform.Programs
import LineScript.Yaml.Cursor
import LineScript.Yaml.Token
import LineScript.Yaml.Plain
import LineScript.Yaml.Quoted
import LineScript.Yaml.Block
import LineScript.Yaml.Mark
import LineScript.Yaml.Tokens
import LineScript.Yaml.Number
import LineScript.Yaml.Stamp
import LineScript.Yaml.Kind
import LineScript.Yaml.Node
import LineScript.Yaml.Document
import LineScript.Text.CharName
import LineScript.Platform.Standard
import LineScript.Files.Standard
import LineScript.Main
import LineScript.Proofs.Guards
import LineScript.Proofs.Splitting
import LineScript.Proofs.Words
import LineScript.Proofs.References
import LineScript.Proofs.Arguments
import LineScript.Proofs.WrittenLines
import LineScript.Proofs.Steps
import LineScript.Proofs.Composition
import LineScript.Proofs.Collection
import LineScript.Proofs.MarkedLines
import LineScript.Proofs.Background
import LineScript.Proofs.Decoding
import LineScript.Proofs.Spellings
import LineScript.Proofs.Roles
import LineScript.Proofs.Moves
import LineScript.Proofs.Appending
import LineScript.Proofs.Leftovers
import LineScript.Proofs.Dialogues
import LineScript.Proofs.Journal
import LineScript.Proofs.Causes
import LineScript.Proofs.LastWait
import LineScript.Proofs.Clean
import LineScript.Proofs.Containment
import LineScript.Proofs.Reports
import LineScript.Proofs.Accounts
import LineScript.Proofs.ScopeTree
import LineScript.Proofs.ScopeHistory
import LineScript.Proofs.Cancellation
import LineScript.Proofs.Outcomes
import LineScript.Proofs.Checks
import LineScript.Proofs.Gating
import LineScript.Proofs.Insertion
import LineScript.Proofs.Location
import LineScript.Proofs.Interruption
import LineScript.Proofs.Searches
import LineScript.Proofs.CommandLines
import LineScript.Proofs.GivenSettings
import LineScript.Proofs.Paths
import LineScript.Proofs.Whereabouts
import LineScript.Proofs.Directories
import LineScript.Proofs.Exports
import LineScript.Proofs.SavedOutput
import LineScript.Proofs.SearchFlags
import LineScript.Proofs.ShownChannels
import LineScript.Proofs.Durations
