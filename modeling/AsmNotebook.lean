import AsmNotebook.App.Basic
import AsmNotebook.App.Loop
import AsmNotebook.App.Run
import AsmNotebook.Assistant.Basic
import AsmNotebook.Assistant.Chat
import AsmNotebook.Calendar
import AsmNotebook.Cell.Basic
import AsmNotebook.Cell.Format
import AsmNotebook.Command
import AsmNotebook.CommandLine
import AsmNotebook.Decimal.Binary64
import AsmNotebook.Decimal.Shortest
import AsmNotebook.Dialogue
import AsmNotebook.Documentation
import AsmNotebook.Files.Basic
import AsmNotebook.Files.Tree
import AsmNotebook.Json.Basic
import AsmNotebook.Json.Fault
import AsmNotebook.Json.Format
import AsmNotebook.Json.Printer
import AsmNotebook.Json.Reader
import AsmNotebook.Json.Skip
import AsmNotebook.Launch
import AsmNotebook.Main
import AsmNotebook.Notebook.Basic
import AsmNotebook.Notebook.Edit
import AsmNotebook.Output
import AsmNotebook.Output.Format
import AsmNotebook.Processor.Basic
import AsmNotebook.Prompt.Command
import AsmNotebook.Prompt.Loop
import AsmNotebook.Proofs.Alongside
import AsmNotebook.Proofs.AtRest
import AsmNotebook.Proofs.Batch
import AsmNotebook.Proofs.Dispatch
import AsmNotebook.Proofs.Documentation
import AsmNotebook.Proofs.Ends
import AsmNotebook.Proofs.Grammar
import AsmNotebook.Proofs.Interleaving.Attribution
import AsmNotebook.Proofs.Interleaving.Autosave
import AsmNotebook.Proofs.Interleaving.Basic
import AsmNotebook.Proofs.Interleaving.Calls
import AsmNotebook.Proofs.Interleaving.Conservation
import AsmNotebook.Proofs.Interleaving.Counting
import AsmNotebook.Proofs.Interleaving.Crash
import AsmNotebook.Proofs.Interleaving.Explanation
import AsmNotebook.Proofs.Interleaving.Flags
import AsmNotebook.Proofs.Interleaving.Mirror
import AsmNotebook.Proofs.Interleaving.News
import AsmNotebook.Proofs.Interleaving.OneLoop
import AsmNotebook.Proofs.Interleaving.OneThread
import AsmNotebook.Proofs.Interleaving.Order
import AsmNotebook.Proofs.Interleaving.Progress
import AsmNotebook.Proofs.Interleaving.Published
import AsmNotebook.Proofs.Interleaving.RunAll
import AsmNotebook.Proofs.Interleaving.Runnable
import AsmNotebook.Proofs.Interleaving.Story
import AsmNotebook.Proofs.Interleaving.Suspension
import AsmNotebook.Proofs.Interleaving.Tickets
import AsmNotebook.Proofs.Interleaving.Together
import AsmNotebook.Proofs.Interleaving.Turns
import AsmNotebook.Proofs.Interleaving.Undisturbed
import AsmNotebook.Proofs.Interleaving.Waiting
import AsmNotebook.Proofs.Json.Bounds
import AsmNotebook.Proofs.Json.Canonical
import AsmNotebook.Proofs.Json.Finds
import AsmNotebook.Proofs.Json.Scalars
import AsmNotebook.Proofs.Json.Tree
import AsmNotebook.Proofs.Lockstep
import AsmNotebook.Proofs.Notebook.Foremost
import AsmNotebook.Proofs.Notebook.Identity
import AsmNotebook.Proofs.Notebook.Integrity
import AsmNotebook.Proofs.Notebook.Kept
import AsmNotebook.Proofs.Notebook.Kinds
import AsmNotebook.Proofs.Notebook.Numbering
import AsmNotebook.Proofs.Notebook.Reachable
import AsmNotebook.Proofs.Notebook.Running
import AsmNotebook.Proofs.Notebook.Twins
import AsmNotebook.Proofs.Prompt.Alongside
import AsmNotebook.Proofs.Prompt.Blocks
import AsmNotebook.Proofs.Prompt.Commands
import AsmNotebook.Proofs.Prompt.Ending
import AsmNotebook.Proofs.Prompt.Numbered
import AsmNotebook.Proofs.Prompt.Numerals
import AsmNotebook.Proofs.Prompt.Reading
import AsmNotebook.Proofs.Prompt.Restart
import AsmNotebook.Proofs.Sequential
import AsmNotebook.Proofs.Session.Acceptance
import AsmNotebook.Proofs.Session.Import
import AsmNotebook.Proofs.Session.RoundTrip
import AsmNotebook.Proofs.Settings
import AsmNotebook.Proofs.Simulator.Denial
import AsmNotebook.Proofs.Simulator.Execution
import AsmNotebook.Proofs.Simulator.Listing
import AsmNotebook.Proofs.Simulator.Memory
import AsmNotebook.Proofs.Simulator.Numerals
import AsmNotebook.Proofs.Simulator.Report
import AsmNotebook.Proofs.SortedMap
import AsmNotebook.Proofs.Text.Decoding
import AsmNotebook.Proofs.Text.Hexadecimal
import AsmNotebook.Proofs.Text.Trim
import AsmNotebook.Proofs.Upshot
import AsmNotebook.Queue
import AsmNotebook.Render.Cell
import AsmNotebook.Render.Output
import AsmNotebook.Render.Table
import AsmNotebook.Router
import AsmNotebook.Services
import AsmNotebook.Session.Autosaver
import AsmNotebook.Session.Document
import AsmNotebook.Session.Export
import AsmNotebook.Settings
import AsmNotebook.Simulator.Answer
import AsmNotebook.Simulator.Client
import AsmNotebook.SortedMap
import AsmNotebook.Text.Blank
import AsmNotebook.Text.CharClass
import AsmNotebook.Text.LetterCase
import AsmNotebook.Text.Lines
import AsmNotebook.Text.Quoted
import AsmNotebook.Text.Utf8
import AsmNotebook.Text.Width
import AsmNotebook.Web.Exchange
import AsmNotebook.Web.Host
import AsmNotebook.Web.Percent
import AsmNotebook.Web.Punycode
import AsmNotebook.Web.Url
import AsmNotebook.Web.Wire
import AsmNotebook.World
