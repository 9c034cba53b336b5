import RobotScript.Action.Normal
import RobotScript.Files
import RobotScript.Main
import RobotScript.Proofs.Action.Counting
import RobotScript.Proofs.Action.Interpreter
import RobotScript.Proofs.Action.Pending
import RobotScript.Proofs.Action.Printing
import RobotScript.Proofs.Action.Rendering
import RobotScript.Proofs.Blocks.Balance
import RobotScript.Proofs.Blocks.Offence
import RobotScript.Proofs.Blocks.Openings
import RobotScript.Proofs.Blocks.Written
import RobotScript.Proofs.Output.Document
import RobotScript.Proofs.Output.History
import RobotScript.Proofs.Output.Process
import RobotScript.Proofs.Output.Reprint
import RobotScript.Proofs.Output.Sink
import RobotScript.Proofs.Output.Unambiguous
import RobotScript.Proofs.Parser.Bounds
import RobotScript.Proofs.Parser.Closing
import RobotScript.Proofs.Parser.Extension
import RobotScript.Proofs.Parser.FirstError
import RobotScript.Proofs.Parser.Grammar
import RobotScript.Proofs.Parser.Round
import RobotScript.Proofs.Parser.Spans
import RobotScript.Proofs.Program.Concatenation
import RobotScript.Proofs.Program.Depth
import RobotScript.Proofs.Program.Layout
import RobotScript.Proofs.Program.Location
import RobotScript.Proofs.Program.Reparse
import RobotScript.Proofs.Run.Selection
import RobotScript.Proofs.Text.Layout
import RobotScript.Proofs.Text.Pieces
import RobotScript.Proofs.Token.Classification
import RobotScript.Proofs.Token.Coverage
import RobotScript.Proofs.Token.Grouping
import RobotScript.Proofs.Token.Place
import RobotScript.Robot
