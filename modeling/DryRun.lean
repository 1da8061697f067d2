import DryRun.Main
import DryRun.Proofs.Agenda.Heap
import DryRun.Proofs.Agenda.Tasks
import DryRun.Proofs.Desk.Step
import DryRun.Proofs.Desk.Effects
import DryRun.Proofs.Desk.Run
import DryRun.Proofs.Reading.Place
import DryRun.Proofs.Desk.Phase
import DryRun.Proofs.Desk.Grading
import DryRun.Proofs.Desk.Ledger
import DryRun.Proofs.Agenda.Clock
import DryRun.Proofs.Desk.Announcement
import DryRun.Proofs.Desk.Rejection
import DryRun.Proofs.Reading.Rounding
import DryRun.Proofs.Language.Catalogue
import DryRun.Proofs.Desk.TaskOrder
import DryRun.Proofs.Desk.Depth
import DryRun.Proofs.Desk.Drive
import DryRun.Proofs.Desk.Conservation
import DryRun.Proofs.Text.Pieces
import DryRun.Proofs.Text.Context
import DryRun.Proofs.Source.Bindings
import DryRun.Proofs.Language.OutputForm
import DryRun.Proofs.Source.Idiom
import DryRun.Proofs.Source.RoundTrip
import DryRun.Proofs.Source.LineEnd
import DryRun.Proofs.Source.Literal
import DryRun.Proofs.Reading.Zero
import DryRun.Proofs.Agenda.Line
import DryRun.Proofs.Desk.Ending
import DryRun.Proofs.Desk.Idle
import DryRun.Proofs.Desk.View
import DryRun.Proofs.Desk.CalmDrive
import DryRun.Proofs.Desk.Isolation
import DryRun.Proofs.Query.Sorting
import DryRun.Proofs.Query.Search
import DryRun.Proofs.Query.Spelling
import DryRun.Proofs.Query.Form
import DryRun.Proofs.Query.Reading
import DryRun.Proofs.Query.Comparing
import DryRun.Proofs.Query.Answer
import DryRun.Proofs.Query.Quotation
import DryRun.Proofs.Query.Inert
import DryRun.Proofs.Query.Command
import DryRun.Proofs.Query.Failure
import DryRun.Proofs.Query.Signs
import DryRun.Proofs.Query.Survivors
import DryRun.Proofs.Query.Grid
import DryRun.Proofs.Reading.Difference
import DryRun.Proofs.Plan.Agenda
import DryRun.Proofs.Plan.Drive
import DryRun.Proofs.Plan.Window
import DryRun.Proofs.Plan.Pace
import DryRun.Proofs.Desk.Audience
import DryRun.Proofs.Desk.Copies
import DryRun.Proofs.Desk.Handing
import DryRun.Proofs.Agenda.Relabel
import DryRun.Proofs.Desk.Hush
import DryRun.Proofs.Desk.Raising
import DryRun.Proofs.Source.Sides
import DryRun.Proofs.Text.Regex
import DryRun.Proofs.Source.Heads
import DryRun.Proofs.Source.AssignmentPatterns
import DryRun.Proofs.Source.CallRest
import DryRun.Proofs.Source.Comparison
import DryRun.Proofs.Source.Expression
import DryRun.Proofs.CommandLine.Run
import DryRun.Proofs.Desk.Dated
import DryRun.Proofs.Desk.Noted
import DryRun.Proofs.Desk.Cleared
import DryRun.Proofs.Plan.Sound
import DryRun.Proofs.Plan.Emptied
import DryRun.Proofs.Verdict.Noise
import DryRun.Proofs.Text.Pattern
import DryRun.Proofs.Source.Search
import DryRun.Proofs.Source.Concatenation
import DryRun.Proofs.Language.TagWords
import DryRun.Proofs.Query.Lines
import DryRun.Proofs.Desk.LogLines
