import Lunette.Lexeme
import Lunette.Token.Scan
import Lunette.Token.Closed
import Lunette.Text.DecimalDigit
import Lunette.Tree.Dump
import Lunette.Tree.Exchange
import Lunette.Ast.Node
import Lunette.Program
import Lunette.Diagnostic
import Lunette.Reader
import Lunette.Session
import Lunette.Text.Utf8
import Lunette.Text.LineEndings
import Lunette.Command.Run
import Lunette.Command.Options
import Lunette.Command.Outcome
import Lunette.Main
import Lunette.Grammar.Nesting
import Lunette.Proofs.Grammar.Acceptance
import Lunette.Proofs.Program.RoundTrip
import Lunette.Proofs.Session.Account
import Lunette.Proofs.Token.Munch
import Lunette.Proofs.Place.Counted
import Lunette.Proofs.Reading.Demand
import Lunette.Proofs.Token.Tiling
import Lunette.Proofs.Reading.Demand.Expression
import Lunette.Proofs.Grammar.Viable
import Lunette.Proofs.Lexeme.Fusion
import Lunette.Proofs.Program.Concatenation
import Lunette.Proofs.Program.Position
import Lunette.Proofs.Reading.Lookahead
import Lunette.Proofs.Reading.Lookahead.Expression
import Lunette.Proofs.Reading.Lookahead.Statement
import Lunette.Proofs.Session.Report
import Lunette.Proofs.Tree.Dump
import Lunette.Proofs.Tree.Exchange
import Lunette.Proofs.Session.Run
import Lunette.Proofs.Grammar.Reference
import Lunette.Proofs.Token.Boundary
import Lunette.Proofs.Command.Supply
import Lunette.Proofs.Command.Status
import Lunette.Proofs.Indexed.Program
import Lunette.Proofs.Token.Separation
import Lunette.Proofs.Program.Kinds
import Lunette.Proofs.Session.Dependence
import Lunette.Proofs.Program.LineEndings
import Lunette.Proofs.Session.Leftover
import Lunette.Proofs.Token.Persistence
import Lunette.Proofs.Command.Listing
import Lunette.Proofs.Reader.Run
import Lunette.Proofs.Session.Progress
