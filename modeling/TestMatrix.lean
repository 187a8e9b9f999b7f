import TestMatrix.Arguments.Choice
import TestMatrix.Arguments.Fault
import TestMatrix.Arguments.Help
import TestMatrix.Arguments.Parameter
import TestMatrix.Arguments.Parsing
import TestMatrix.Convention
import TestMatrix.Deployment
import TestMatrix.Discovery
import TestMatrix.Failure
import TestMatrix.FileTree.Access
import TestMatrix.FileTree.Basic
import TestMatrix.FileTree.Walk
import TestMatrix.Invocation
import TestMatrix.Json.Layout
import TestMatrix.Json.Text
import TestMatrix.Json.Token
import TestMatrix.Json.Value
import TestMatrix.Level
import TestMatrix.Main
import TestMatrix.Manifest.Basic
import TestMatrix.Manifest.Reading
import TestMatrix.Manifest.Rendering
import TestMatrix.Notice
import TestMatrix.Path
import TestMatrix.Program
import TestMatrix.Proofs.FileTree.Entries
import TestMatrix.Proofs.FileTree.Places
import TestMatrix.Proofs.FileTree.Resolution
import TestMatrix.Proofs.Json.Scanning
import TestMatrix.Proofs.Json.ValueTokens
import TestMatrix.Proofs.Manifest.RoundTrip
import TestMatrix.Proofs.Path.Parts
import TestMatrix.Proofs.Script.Evaluation
import TestMatrix.Script
import TestMatrix.Settings
import TestMatrix.SettingsFile
import TestMatrix.SystemError
import TestMatrix.Target
import TestMatrix.Text.Affix
import TestMatrix.Text.Blank
import TestMatrix.Text.Lowercase
import TestMatrix.Text.Printable
import TestMatrix.Text.Quoted
import TestMatrix.Text.Terminal
import TestMatrix.Text.Utf8
import TestMatrix.Yaml.Block
import TestMatrix.Yaml.Cursor
import TestMatrix.Yaml.Fault
import TestMatrix.Yaml.Folding
import TestMatrix.Yaml.Grammar
import TestMatrix.Yaml.Lexer
import TestMatrix.Yaml.Markup
import TestMatrix.Yaml.Node
import TestMatrix.Yaml.Plain
import TestMatrix.Yaml.Quoted
import TestMatrix.Yaml.Token
import TestMatrix.Proofs.Discovery.Matching
import TestMatrix.Proofs.Discovery.Scanning
import TestMatrix.Proofs.Deployment.Course
import TestMatrix.Proofs.FileTree.Writing
import TestMatrix.Proofs.Deployment.Atomicity
import TestMatrix.Proofs.Program.Endings
import TestMatrix.Proofs.Arguments.Values
import TestMatrix.Proofs.Discovery.Naming
import TestMatrix.Proofs.Text.Encoding
import TestMatrix.Proofs.Path.Components
import TestMatrix.Proofs.Discovery.Placement
import TestMatrix.Proofs.Program.Artifact
import TestMatrix.Proofs.Arguments.Spelling
import TestMatrix.Proofs.Arguments.Acceptance
import TestMatrix.Proofs.FileTree.Refilling
import TestMatrix.Proofs.FileTree.Naming
import TestMatrix.Proofs.Script.Notices
import TestMatrix.Proofs.Deployment.Preview
import TestMatrix.Proofs.Program.Verbosity
import TestMatrix.Proofs.Deployment.Settling
import TestMatrix.Proofs.SettingsFile.Sketch
import TestMatrix.Proofs.Yaml.Blanks
import TestMatrix.Proofs.SettingsFile.Fields
import TestMatrix.Proofs.SettingsFile.Loading
import TestMatrix.Proofs.Discovery.Records
import TestMatrix.Proofs.Deployment.Layering
import TestMatrix.Proofs.Script.Copying
import TestMatrix.Proofs.Program.LogFile
import TestMatrix.Proofs.FileTree.Closing
import TestMatrix.Proofs.Discovery.Sources
import TestMatrix.Proofs.Json.Squeezing
import TestMatrix.Proofs.Manifest.Layouts
import TestMatrix.Proofs.Json.Numbers
import TestMatrix.Proofs.Json.Lexemes
import TestMatrix.Proofs.Json.Awaiting
import TestMatrix.Proofs.Json.Spelling
import TestMatrix.Proofs.Manifest.Members
import TestMatrix.Proofs.Manifest.Spelling
import TestMatrix.Proofs.Arguments.Clusters
import TestMatrix.Proofs.Arguments.Lines
import TestMatrix.Proofs.Arguments.Counting
import TestMatrix.Proofs.SettingsFile.Defaults
import TestMatrix.Proofs.Text.Lowercase
import TestMatrix.Proofs.Arguments.LevelWords
import TestMatrix.Proofs.Path.FileName
import TestMatrix.Proofs.Discovery.Filenames
import TestMatrix.Proofs.Arguments.Help
import TestMatrix.Proofs.Program.SettingUp
