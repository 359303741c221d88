import SetupScript.Architecture
import SetupScript.Build
import SetupScript.Calendar
import SetupScript.CommandLine.Commands
import SetupScript.CommandLine.Options
import SetupScript.Configuration
import SetupScript.Configuration.Names
import SetupScript.Configuration.Resolve
import SetupScript.Descriptor
import SetupScript.Failure
import SetupScript.Files.Changes
import SetupScript.Files.Disk
import SetupScript.Files.Fault
import SetupScript.Files.Path
import SetupScript.Files.Tree
import SetupScript.Files.Walk
import SetupScript.Guid
import SetupScript.Icon
import SetupScript.Language
import SetupScript.Log.Record
import SetupScript.Log.Settings
import SetupScript.Log.Template
import SetupScript.Main
import SetupScript.Number.Arithmetic
import SetupScript.Number.Binary64
import SetupScript.Number.Numeral
import SetupScript.Number.Power
import SetupScript.Number.Shortest
import SetupScript.Privilege
import SetupScript.Program.Build
import SetupScript.Program.Demo
import SetupScript.Program.Survey
import SetupScript.Proofs.Build.Commuting
import SetupScript.Proofs.Build.Confinement
import SetupScript.Proofs.Build.Destinations
import SetupScript.Proofs.Build.Encodable
import SetupScript.Proofs.Build.Failures
import SetupScript.Proofs.Build.Libraries
import SetupScript.Proofs.Build.Listing
import SetupScript.Proofs.Build.Rebuild
import SetupScript.Proofs.Build.Remaining
import SetupScript.Proofs.Build.Runs
import SetupScript.Proofs.Build.Staging
import SetupScript.Proofs.Build.Steps
import SetupScript.Proofs.Build.Twins
import SetupScript.Proofs.Configuration.Checks
import SetupScript.Proofs.Configuration.Environment
import SetupScript.Proofs.Configuration.FirstFault
import SetupScript.Proofs.Configuration.Identity
import SetupScript.Proofs.Configuration.Languages
import SetupScript.Proofs.Configuration.Likeness
import SetupScript.Proofs.Configuration.LineBreaks
import SetupScript.Proofs.Configuration.Loading
import SetupScript.Proofs.Configuration.Overriding
import SetupScript.Proofs.Configuration.Resolved
import SetupScript.Proofs.Configuration.Resources
import SetupScript.Proofs.Configuration.Shadowing
import SetupScript.Proofs.Configuration.SignTool
import SetupScript.Proofs.Discreet
import SetupScript.Proofs.Doing
import SetupScript.Proofs.Files.Below
import SetupScript.Proofs.Files.Filling
import SetupScript.Proofs.Files.Growth
import SetupScript.Proofs.Files.Lookups
import SetupScript.Proofs.Files.NoLinks
import SetupScript.Proofs.Files.Questions
import SetupScript.Proofs.Files.Refusals
import SetupScript.Proofs.Files.Standing
import SetupScript.Proofs.Files.TwinDisks
import SetupScript.Proofs.Files.Twins
import SetupScript.Proofs.Files.Walks
import SetupScript.Proofs.Lasting
import SetupScript.Proofs.Outcome
import SetupScript.Proofs.Program.Effects
import SetupScript.Proofs.Program.LogSettings
import SetupScript.Proofs.Program.Logging
import SetupScript.Proofs.Program.Runs
import SetupScript.Proofs.Script.Characters
import SetupScript.Proofs.Script.ConstantArgument
import SetupScript.Proofs.Script.Encodable
import SetupScript.Proofs.Script.Expansion
import SetupScript.Proofs.Script.FileRows
import SetupScript.Proofs.Script.Launching
import SetupScript.Proofs.Script.Layout
import SetupScript.Proofs.Script.OneLine
import SetupScript.Proofs.Script.Parameters
import SetupScript.Proofs.Script.ReadBack
import SetupScript.Proofs.Script.Receiving
import SetupScript.Proofs.Script.Settings
import SetupScript.Proofs.Script.Signing
import SetupScript.Proofs.Session
import SetupScript.Proofs.SideBySide
import SetupScript.Proofs.Text.CodePoints
import SetupScript.Proofs.Text.Language
import SetupScript.Proofs.Text.Pieces
import SetupScript.Proofs.Text.Words
import SetupScript.Proofs.TwinSessions
import SetupScript.Proofs.Work
import SetupScript.Refusal
import SetupScript.Script.Arguments
import SetupScript.Script.Escape
import SetupScript.Script.Sections
import SetupScript.Session
import SetupScript.SignTool
import SetupScript.Staging
import SetupScript.Text.Alphanumeric
import SetupScript.Text.Base64
import SetupScript.Text.Blank
import SetupScript.Text.Case
import SetupScript.Text.CaseTable
import SetupScript.Text.CodePoints
import SetupScript.Text.Decimal
import SetupScript.Text.Lines
import SetupScript.Text.Pattern
import SetupScript.Text.Printable
import SetupScript.Text.Quoted
import SetupScript.Value
import SetupScript.Value.Scalars
import SetupScript.Value.Slots
import SetupScript.Value.Written
import SetupScript.Variant
import SetupScript.Version
import SetupScript.Yaml.Cursor
import SetupScript.Yaml.Document
import SetupScript.Yaml.Load
import SetupScript.Yaml.Meaning
import SetupScript.Yaml.Meaning.Draft
import SetupScript.Yaml.Meaning.Merge
import SetupScript.Yaml.Node
import SetupScript.Yaml.Readable
import SetupScript.Yaml.Scalar
import SetupScript.Yaml.Tag
import SetupScript.Yaml.Token
import SetupScript.Yaml.Token.Marks
import SetupScript.Yaml.Token.Stream
import SetupScript.Yaml.Token.Text
