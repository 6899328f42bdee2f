import GrammarStudio.Analysis.Decode
import GrammarStudio.Analysis.Outcome
import GrammarStudio.Analysis.Report
import GrammarStudio.Calendar.Written
import GrammarStudio.Check.Report
import GrammarStudio.Check.Run
import GrammarStudio.CommandLine.Level
import GrammarStudio.CommandLine.Options
import GrammarStudio.CommandLine.Parse
import GrammarStudio.Config.Basic
import GrammarStudio.Diagnostics.View
import GrammarStudio.Difference.Edit
import GrammarStudio.Digest.Basic
import GrammarStudio.Editor.Buffer
import GrammarStudio.Editor.Desk
import GrammarStudio.Engine.Program
import GrammarStudio.Engine.Request
import GrammarStudio.Files.Fault
import GrammarStudio.Files.Tree
import GrammarStudio.Format.Directive
import GrammarStudio.Format.Printf
import GrammarStudio.Highlight.Layout
import GrammarStudio.Highlight.Sections
import GrammarStudio.Instances
import GrammarStudio.Json.Reader
import GrammarStudio.Json.Token
import GrammarStudio.Json.Value
import GrammarStudio.Launch
import GrammarStudio.LineScript.Command
import GrammarStudio.LineScript.Reader
import GrammarStudio.LineScript.Run
import GrammarStudio.Log.Filter
import GrammarStudio.Log.Record
import GrammarStudio.Machine.Call
import GrammarStudio.Machine.Condition
import GrammarStudio.Machine.Disk
import GrammarStudio.Machine.Kernel
import GrammarStudio.Machine.Octets
import GrammarStudio.Machine.Run
import GrammarStudio.Machine.Serve
import GrammarStudio.Machine.Stream
import GrammarStudio.Main
import GrammarStudio.Number.Binary
import GrammarStudio.Number.Written
import GrammarStudio.ObjectScript.Calls
import GrammarStudio.ObjectScript.Collections
import GrammarStudio.ObjectScript.Construct
import GrammarStudio.ObjectScript.Courses
import GrammarStudio.ObjectScript.Expressions
import GrammarStudio.ObjectScript.Formatting
import GrammarStudio.ObjectScript.Functions
import GrammarStudio.ObjectScript.Generators
import GrammarStudio.ObjectScript.Glyphs
import GrammarStudio.ObjectScript.Items
import GrammarStudio.ObjectScript.Kinds
import GrammarStudio.ObjectScript.Library.Disk
import GrammarStudio.ObjectScript.Library.Json
import GrammarStudio.ObjectScript.Library.Paths
import GrammarStudio.ObjectScript.Library.Programs
import GrammarStudio.ObjectScript.Library.System
import GrammarStudio.ObjectScript.Members
import GrammarStudio.ObjectScript.Methods
import GrammarStudio.ObjectScript.Operators
import GrammarStudio.ObjectScript.Program
import GrammarStudio.ObjectScript.Reader
import GrammarStudio.ObjectScript.Reported
import GrammarStudio.ObjectScript.Run
import GrammarStudio.ObjectScript.Running
import GrammarStudio.ObjectScript.Shown
import GrammarStudio.ObjectScript.Sites
import GrammarStudio.ObjectScript.Statements
import GrammarStudio.ObjectScript.Streams
import GrammarStudio.ObjectScript.Texts
import GrammarStudio.ObjectScript.Token
import GrammarStudio.ObjectScript.Value
import GrammarStudio.ObjectScript.Written
import GrammarStudio.Proofs.Analysis.Decoding
import GrammarStudio.Proofs.Analysis.Leftovers
import GrammarStudio.Proofs.Analysis.Lists
import GrammarStudio.Proofs.Analysis.Members
import GrammarStudio.Proofs.Analysis.Spelling
import GrammarStudio.Proofs.Check.Agreement
import GrammarStudio.Proofs.Check.ReadingBack
import GrammarStudio.Proofs.CommandLine.Conflicts
import GrammarStudio.Proofs.CommandLine.Rows
import GrammarStudio.Proofs.CommandLine.Spelling
import GrammarStudio.Proofs.Diagnostics.Markup
import GrammarStudio.Proofs.Files.Tree
import GrammarStudio.Proofs.Json.Grammar
import GrammarStudio.Proofs.Json.Reading
import GrammarStudio.Proofs.Json.Scanning
import GrammarStudio.Proofs.Json.Soundness
import GrammarStudio.Proofs.Json.Tokens
import GrammarStudio.Proofs.Launch.Output
import GrammarStudio.Proofs.Session.Bursts
import GrammarStudio.Proofs.Session.Calls
import GrammarStudio.Proofs.Session.Display
import GrammarStudio.Proofs.Session.Documents
import GrammarStudio.Proofs.Session.Effects
import GrammarStudio.Proofs.Session.ExactTime
import GrammarStudio.Proofs.Session.Freshness
import GrammarStudio.Proofs.Session.Mirror
import GrammarStudio.Proofs.Session.Starts
import GrammarStudio.Proofs.Session.Storeless
import GrammarStudio.Proofs.Session.Unaltered
import GrammarStudio.Proofs.Session.Waking
import GrammarStudio.Proofs.Settings.Persistence
import GrammarStudio.Proofs.Store.Disk
import GrammarStudio.Proofs.Store.Lawful
import GrammarStudio.Proofs.Store.Quoted
import GrammarStudio.Proofs.Window.Frames
import GrammarStudio.Proofs.Window.Runs
import GrammarStudio.RecordScript.Command
import GrammarStudio.RecordScript.Parts
import GrammarStudio.RecordScript.Reader
import GrammarStudio.RecordScript.Run
import GrammarStudio.RecordScript.Running
import GrammarStudio.RecordScript.Table
import GrammarStudio.RecordScript.Token
import GrammarStudio.RecordScript.Value
import GrammarStudio.Regex.Basic
import GrammarStudio.Regex.Posix
import GrammarStudio.Regex.Search
import GrammarStudio.Session.Basic
import GrammarStudio.Session.Debounce
import GrammarStudio.Session.Transition
import GrammarStudio.Settings.Basic
import GrammarStudio.Settings.Persistence
import GrammarStudio.Shell.Arithmetic
import GrammarStudio.Shell.Builtin
import GrammarStudio.Shell.Command
import GrammarStudio.Shell.Expansion
import GrammarStudio.Shell.Interpreter
import GrammarStudio.Shell.Output
import GrammarStudio.Shell.Parse
import GrammarStudio.Shell.Pattern
import GrammarStudio.Shell.Reader
import GrammarStudio.Shell.Redirection
import GrammarStudio.Shell.Run
import GrammarStudio.Shell.Spawn
import GrammarStudio.Shell.State
import GrammarStudio.Store.Basic
import GrammarStudio.Store.Entries
import GrammarStudio.Store.File
import GrammarStudio.Store.Quoted
import GrammarStudio.Text.Blank
import GrammarStudio.Text.Casing
import GrammarStudio.Text.Letters
import GrammarStudio.Text.Position
import GrammarStudio.Text.Unprintable
import GrammarStudio.Text.Utf8
import GrammarStudio.Toml.Document
import GrammarStudio.Toml.Scalar
import GrammarStudio.Toml.Text
import GrammarStudio.Tools.Blocks
import GrammarStudio.Tools.Compare
import GrammarStudio.Tools.Console
import GrammarStudio.Tools.Count
import GrammarStudio.Tools.Dump
import GrammarStudio.Tools.Encoding
import GrammarStudio.Tools.Excerpt
import GrammarStudio.Tools.Finding
import GrammarStudio.Tools.Gathering
import GrammarStudio.Tools.Input
import GrammarStudio.Tools.Launching
import GrammarStudio.Tools.Layout
import GrammarStudio.Tools.Listing
import GrammarStudio.Tools.Making
import GrammarStudio.Tools.Matching
import GrammarStudio.Tools.Merging
import GrammarStudio.Tools.Mode
import GrammarStudio.Tools.Moving
import GrammarStudio.Tools.Options
import GrammarStudio.Tools.Order
import GrammarStudio.Tools.Paths
import GrammarStudio.Tools.Scripting
import GrammarStudio.Tools.Summing
import GrammarStudio.Tools.Table
import GrammarStudio.Tools.Translate
import GrammarStudio.Tools.Values
import GrammarStudio.Window.Basic
import GrammarStudio.Window.Screen
import GrammarStudio.Window.Stroke
import GrammarStudio.Proofs.Analysis.Shapes
import GrammarStudio.Proofs.Analysis.Checks
import GrammarStudio.Proofs.Text.Lines
import GrammarStudio.Proofs.Text.Offsets
import GrammarStudio.Proofs.Editor.Insertion
import GrammarStudio.Proofs.Diagnostics.Places
import GrammarStudio.Proofs.Session.Clicks
import GrammarStudio.Proofs.Highlight.Sections
import GrammarStudio.Proofs.Highlight.Quoted
import GrammarStudio.Proofs.Highlight.Layout
import GrammarStudio.Proofs.Highlight.Parentheses
import GrammarStudio.Proofs.Store.Failures
import GrammarStudio.Proofs.Session.Coalescing
import GrammarStudio.Proofs.Check.Verdict
import GrammarStudio.Proofs.Window.Gutter
import GrammarStudio.Proofs.Window.Cursors
