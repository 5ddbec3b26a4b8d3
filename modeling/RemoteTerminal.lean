import RemoteTerminal.Main
import RemoteTerminal.Widget.Script
import RemoteTerminal.Proofs.Session
import RemoteTerminal.Proofs.Markup.Escape
import RemoteTerminal.Proofs.Markup.Reading
import RemoteTerminal.Proofs.Transcript.Rows
import RemoteTerminal.Proofs.Transcript.Lines
import RemoteTerminal.Proofs.Widget.Operations
import RemoteTerminal.Proofs.Widget.Course
import RemoteTerminal.Proofs.Widget.Changes
import RemoteTerminal.Proofs.Widget.Completion
import RemoteTerminal.Proofs.Widget.Accounting
import RemoteTerminal.Proofs.Host.Loop
import RemoteTerminal.Proofs.Host.Order
import RemoteTerminal.Proofs.Host.Changes
import RemoteTerminal.Proofs.Host.Independence
import RemoteTerminal.Proofs.Widget.Settling
import RemoteTerminal.Proofs.Widget.Input
import RemoteTerminal.Proofs.Console.Prompt
import RemoteTerminal.Proofs.Console.Screen
import RemoteTerminal.Proofs.Console.View
import RemoteTerminal.Proofs.Console.Sitting
import RemoteTerminal.Proofs.Surface
import RemoteTerminal.Proofs.Transcript.Projections
import RemoteTerminal.Proofs.Document.Layout
import RemoteTerminal.Proofs.Document.Skeleton
import RemoteTerminal.Proofs.Host.Patience
import RemoteTerminal.Proofs.Console.Piped
import RemoteTerminal.Proofs.Text.Digits
import RemoteTerminal.Proofs.Files
import RemoteTerminal.Proofs.Config.Environment
import RemoteTerminal.Proofs.Config.Search
import RemoteTerminal.Proofs.Options.Layers
import RemoteTerminal.Proofs.Program.Start
import RemoteTerminal.Proofs.Text.Pieces
import RemoteTerminal.Proofs.Text.Utf8
import RemoteTerminal.Proofs.Text.Percent
import RemoteTerminal.Proofs.Http.Form
import RemoteTerminal.Proofs.Http.Call
import RemoteTerminal.Proofs.Host.Deafness
import RemoteTerminal.Proofs.Session.Submission
import RemoteTerminal.Proofs.Files.Writing
import RemoteTerminal.Proofs.Config.Placing
import RemoteTerminal.Proofs.Program.Effects
import RemoteTerminal.Proofs.Markup.Decoding
import RemoteTerminal.Proofs.Console.Styling
import RemoteTerminal.Proofs.Document.Content
import RemoteTerminal.Proofs.Options.Projection
import RemoteTerminal.Proofs.Json.Leaves
import RemoteTerminal.Proofs.Tree.Records
import RemoteTerminal.Proofs.Json.Grammar
import RemoteTerminal.Proofs.Options.Members
import RemoteTerminal.Proofs.Options.Height
import RemoteTerminal.Proofs.Http.Answer
import RemoteTerminal.Proofs.Http.Written
import RemoteTerminal.Proofs.CommandLine.Items
import RemoteTerminal.Proofs.CommandLine.Posts
import RemoteTerminal.Proofs.Host.Requests
import RemoteTerminal.Proofs.Program.Posts
import RemoteTerminal.Proofs.CommandLine.Completeness
