import CommentTags.CommandLine.Help
import CommentTags.CommandLine.Option
import CommentTags.CommandLine.Program
import CommentTags.CommandLine.Scan
import CommentTags.Comment.Classify
import CommentTags.Comment.Content
import CommentTags.Comment.Style
import CommentTags.Console.Action
import CommentTags.Console.Cells
import CommentTags.Console.Emoji
import CommentTags.Console.EmojiNames
import CommentTags.Console.Line
import CommentTags.Console.Markup
import CommentTags.Console.Style
import CommentTags.Console.Table
import CommentTags.Console.Wrap
import CommentTags.Decimal
import CommentTags.Expression
import CommentTags.Expression.Grammar
import CommentTags.Expression.Joined
import CommentTags.Expression.Parse
import CommentTags.Expression.Problem
import CommentTags.Expression.Rules
import CommentTags.Expression.Token
import CommentTags.Expression.Tree
import CommentTags.Expression.Value
import CommentTags.File.Access
import CommentTags.File.Disk
import CommentTags.File.Encoding
import CommentTags.File.Failure
import CommentTags.File.Local
import CommentTags.File.Memory
import CommentTags.Guard
import CommentTags.Halt
import CommentTags.Ignore.File
import CommentTags.Ignore.Glob
import CommentTags.Ignore.Pattern
import CommentTags.Journal
import CommentTags.Journal.Handlers
import CommentTags.Journal.Level
import CommentTags.Journal.Line
import CommentTags.Journal.Outlets
import CommentTags.Json
import CommentTags.Json.Reader
import CommentTags.Json.Writer
import CommentTags.Main
import CommentTags.Path
import CommentTags.Proofs.Comment.Lines
import CommentTags.Proofs.File.Folder
import CommentTags.Proofs.Ignore.Below
import CommentTags.Proofs.Path.Below
import CommentTags.Proofs.Tag.Extent
import CommentTags.Proofs.Tag.Origin
import CommentTags.Proofs.Text.Keyed
import CommentTags.Proofs.Text.Split
import CommentTags.Proofs.Text.Trim
import CommentTags.Proofs.Walk.Pruning
import CommentTags.Proofs.Walk.Result
import CommentTags.Proofs.Walk.Survivors
import CommentTags.Proofs.Walk.Visit
import CommentTags.Report
import CommentTags.Report.Table
import CommentTags.Session
import CommentTags.Settings
import CommentTags.Tag
import CommentTags.Tag.Assembly
import CommentTags.Text
import CommentTags.Text.CharacterName
import CommentTags.Text.CharacterNames
import CommentTags.Text.LetterCase
import CommentTags.Text.Letters
import CommentTags.Text.Lowercase
import CommentTags.Text.Printable
import CommentTags.Text.Quoted
import CommentTags.Text.Similarity
import CommentTags.Text.Uppercase
import CommentTags.Walk
import CommentTags.Proofs.Comment.Run
import CommentTags.Proofs.Tag.Boundary
import CommentTags.Proofs.Ignore.Pieces
import CommentTags.Proofs.Ignore.Reference
import CommentTags.Proofs.Walk.Failure
import CommentTags.Proofs.Ignore.Regex
import CommentTags.Proofs.Ignore.Matching
import CommentTags.Proofs.Walk.Patterns
import CommentTags.Proofs.Text.Digits
import CommentTags.Proofs.Json.Strings
import CommentTags.Proofs.Json.Numbers
import CommentTags.Proofs.Json.Documents
import CommentTags.Proofs.Json.Characters
import CommentTags.Proofs.Json.Lines
import CommentTags.Proofs.File.Utf8
import CommentTags.Proofs.Text.LineEnds
import CommentTags.Proofs.File.Writing
import CommentTags.Proofs.Report.Text
import CommentTags.Proofs.Report.Lines
import CommentTags.Proofs.Session.Actions
import CommentTags.Proofs.Console.Lines
import CommentTags.Proofs.CommandLine.Scan
import CommentTags.Proofs.CommandLine.Output
import CommentTags.Proofs.Json.Keys
import CommentTags.Proofs.Settings.Layers
import CommentTags.Proofs.Settings.Tolerance
import CommentTags.Proofs.Console.Escaped
import CommentTags.Proofs.File.Growth
import CommentTags.Proofs.Session.Sparing
import CommentTags.Proofs.CommandLine.Ending
import CommentTags.Proofs.CommandLine.Format
import CommentTags.Proofs.CommandLine.Saving
import CommentTags.Proofs.File.Names
import CommentTags.Proofs.File.Decoding
import CommentTags.Proofs.Walk.Errors
import CommentTags.Proofs.File.Links
import CommentTags.Proofs.Walk.Links
import CommentTags.Proofs.Journal.Handlers
import CommentTags.Proofs.File.Appending
import CommentTags.Proofs.Session.LogFile
import CommentTags.Proofs.Session.Logging
import CommentTags.Proofs.Json.Framing
import CommentTags.Proofs.Json.Stream
import CommentTags.Proofs.Journal.Lines
import CommentTags.Proofs.Session.Stream
import CommentTags.Proofs.Ignore.Reading
import CommentTags.Proofs.Ignore.Refusal
import CommentTags.Proofs.Ignore.Slashes
import CommentTags.Proofs.Ignore.Escaped
import CommentTags.Proofs.Tag.Layout
import CommentTags.Proofs.Session.Silence
import CommentTags.Proofs.Tag.Closing
import CommentTags.Proofs.Walk.Place
import CommentTags.Proofs.Walk.Reading
import CommentTags.Proofs.Report.Issues
import CommentTags.Proofs.Ignore.Spaces
import CommentTags.Proofs.File.Filling
import CommentTags.Proofs.Session.Guarding
import CommentTags.Proofs.Comment.Fields
