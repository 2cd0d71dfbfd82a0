import SafeRerun.Command.Arguments
import SafeRerun.Command.Program
import SafeRerun.Decimal.Binary
import SafeRerun.Decimal.Shortest
import SafeRerun.Failure
import SafeRerun.Main
import SafeRerun.Notice
import SafeRerun.Pattern.Basic
import SafeRerun.Pattern.Search
import SafeRerun.Project.Path
import SafeRerun.Project.Selection
import SafeRerun.Project.Tree
import SafeRerun.Proofs.Pass.Accounting
import SafeRerun.Proofs.Pass.Bounds
import SafeRerun.Proofs.Pass.Convergence
import SafeRerun.Proofs.Pass.Gathering
import SafeRerun.Proofs.Pass.Layout
import SafeRerun.Proofs.Pass.Locality
import SafeRerun.Proofs.Pass.Lookback
import SafeRerun.Proofs.Pass.Notices
import SafeRerun.Proofs.Pass.Position
import SafeRerun.Proofs.Pass.Reading
import SafeRerun.Proofs.Pass.Resolved
import SafeRerun.Proofs.Pass.Returns
import SafeRerun.Proofs.Pass.SecondPass
import SafeRerun.Proofs.Pass.Settled
import SafeRerun.Proofs.Pass.Step
import SafeRerun.Proofs.Pass.Target
import SafeRerun.Proofs.Pattern.Alike
import SafeRerun.Proofs.Pattern.Arrival
import SafeRerun.Proofs.Pattern.Escape
import SafeRerun.Proofs.Pattern.Reach
import SafeRerun.Proofs.Pattern.Twins
import SafeRerun.Proofs.Project.Around
import SafeRerun.Proofs.Project.Below
import SafeRerun.Proofs.Project.Exclusion
import SafeRerun.Proofs.Project.Listing
import SafeRerun.Proofs.Project.Name
import SafeRerun.Proofs.Project.Place
import SafeRerun.Proofs.Project.Position
import SafeRerun.Proofs.Project.Search
import SafeRerun.Proofs.Project.Segment
import SafeRerun.Proofs.Project.Selection
import SafeRerun.Proofs.Project.Shape
import SafeRerun.Proofs.Project.Spelling
import SafeRerun.Proofs.Project.Writing
import SafeRerun.Proofs.Rerun.Denotation
import SafeRerun.Proofs.Rerun.Execution
import SafeRerun.Proofs.Rerun.Safety
import SafeRerun.Proofs.Rerun.Statement
import SafeRerun.Proofs.Run.Ending
import SafeRerun.Proofs.Run.FirstRun
import SafeRerun.Proofs.Run.Indifference
import SafeRerun.Proofs.Run.Interruption
import SafeRerun.Proofs.Run.Passed
import SafeRerun.Proofs.Run.Prediction
import SafeRerun.Proofs.Run.Progress
import SafeRerun.Proofs.Run.Resolution
import SafeRerun.Proofs.Run.RoundTrip
import SafeRerun.Proofs.Script.Choice
import SafeRerun.Proofs.Script.Declaration
import SafeRerun.Proofs.Script.Guard
import SafeRerun.Proofs.Script.LineEnd
import SafeRerun.Proofs.Script.Occurrence
import SafeRerun.Proofs.Script.Phrase
import SafeRerun.Proofs.Script.Quoted
import SafeRerun.Proofs.Script.Row
import SafeRerun.Proofs.Script.Start
import SafeRerun.Proofs.Text.Character
import SafeRerun.Proofs.Text.Line
import SafeRerun.Proofs.Text.Lowercase
import SafeRerun.Proofs.Text.Returns
import SafeRerun.Proofs.Text.Run
import SafeRerun.Proofs.Text.Trim
import SafeRerun.Proofs.Text.Words
import SafeRerun.Run.Configuration
import SafeRerun.Run.Report
import SafeRerun.Run.Scan
import SafeRerun.Script.Declaration
import SafeRerun.Script.Guard
import SafeRerun.Script.Pass
import SafeRerun.Script.Phrase
import SafeRerun.Script.Reading
import SafeRerun.Settings.Basic
import SafeRerun.Settings.Document
import SafeRerun.Text.Basic
import SafeRerun.Text.Blank
import SafeRerun.Text.Line
import SafeRerun.Text.Lowercase
import SafeRerun.Text.Quoted
import SafeRerun.Text.Word
import SafeRerun.Yaml.Cursor
import SafeRerun.Yaml.Document
import SafeRerun.Yaml.Event
import SafeRerun.Yaml.Lexer
import SafeRerun.Yaml.Scalar
import SafeRerun.Yaml.Token
import SafeRerun.Yaml.Value
