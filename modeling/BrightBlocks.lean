import BrightBlocks.Block.Body
import BrightBlocks.Block.Branch
import BrightBlocks.Block.Cursor
import BrightBlocks.Block.Header
import BrightBlocks.Block.Kind
import BrightBlocks.Block.Notice
import BrightBlocks.Block.Recovery
import BrightBlocks.Block.Session
import BrightBlocks.Block.Terminator
import BrightBlocks.Block.Tree
import BrightBlocks.Block.Vocabulary
import BrightBlocks.Command.Arguments
import BrightBlocks.Command.Disk
import BrightBlocks.Command.Execution
import BrightBlocks.Command.Flag
import BrightBlocks.Command.Store
import BrightBlocks.Command.Usage
import BrightBlocks.Main
import BrightBlocks.Outline.Closing
import BrightBlocks.Outline.Declaration
import BrightBlocks.Outline.Fold
import BrightBlocks.Outline.Highlight
import BrightBlocks.Outline.Name
import BrightBlocks.Outline.Pattern
import BrightBlocks.Proofs.Block.Conservation
import BrightBlocks.Proofs.Block.Ending
import BrightBlocks.Proofs.Block.Layout
import BrightBlocks.Proofs.Block.Lookahead
import BrightBlocks.Proofs.Block.Machine
import BrightBlocks.Proofs.Block.BodyRules
import BrightBlocks.Proofs.Block.Movement
import BrightBlocks.Proofs.Block.Place
import BrightBlocks.Proofs.Block.Placement
import BrightBlocks.Proofs.Block.Reading
import BrightBlocks.Proofs.Block.LineRecognition
import BrightBlocks.Proofs.Block.Recognition
import BrightBlocks.Proofs.Block.MachineCursor
import BrightBlocks.Proofs.Block.HeaderSimulation
import BrightBlocks.Proofs.Block.Simulation
import BrightBlocks.Proofs.Token.Reader
import BrightBlocks.Proofs.Token.Stepwise
import BrightBlocks.Proofs.Token.Tiling
import BrightBlocks.Report.Document
import BrightBlocks.Report.Dump
import BrightBlocks.Report.Json
import BrightBlocks.Report.Listing
import BrightBlocks.Text.Basic
import BrightBlocks.Text.Blank
import BrightBlocks.Text.Decimal
import BrightBlocks.Text.Hexadecimal
import BrightBlocks.Text.Integer
import BrightBlocks.Text.Interval
import BrightBlocks.Text.Letter
import BrightBlocks.Text.Lowercase
import BrightBlocks.Text.Newline
import BrightBlocks.Text.Numeric
import BrightBlocks.Text.Printable
import BrightBlocks.Text.Quoted
import BrightBlocks.Text.Utf8
import BrightBlocks.Token.Basic
import BrightBlocks.Token.Kind
import BrightBlocks.Token.Reader
import BrightBlocks.Token.Scan
import BrightBlocks.Token.Vocabulary
import BrightBlocks.Proofs.Block.Openers
import BrightBlocks.Proofs.Text.SmallLetters
import BrightBlocks.Proofs.Text.CharacterClasses
import BrightBlocks.Proofs.Text.Utf8
import BrightBlocks.Proofs.Token.Reach
import BrightBlocks.Proofs.Token.Rule
import BrightBlocks.Proofs.Token.Cut
import BrightBlocks.Proofs.Token.CutShape
import BrightBlocks.Proofs.Token.Piece
import BrightBlocks.Proofs.Block.ClosedFlag
import BrightBlocks.Proofs.Block.Feeding
import BrightBlocks.Proofs.Block.Likeness
import BrightBlocks.Proofs.Block.Composition
import BrightBlocks.Proofs.Block.Comments
import BrightBlocks.Proofs.Block.Depth
import BrightBlocks.Proofs.Block.Causality
import BrightBlocks.Proofs.Block.Calls
import BrightBlocks.Proofs.Block.Answered
import BrightBlocks.Proofs.Block.Flatness
import BrightBlocks.Proofs.Block.Steadiness
import BrightBlocks.Proofs.Block.Poise
import BrightBlocks.Proofs.Block.BodyPoise
import BrightBlocks.Proofs.Block.HeaderPoise
import BrightBlocks.Proofs.Block.NestingLimit
import BrightBlocks.Proofs.Block.Above
import BrightBlocks.Proofs.Block.Nested
import BrightBlocks.Proofs.Token.Stretch
import BrightBlocks.Proofs.Block.Standalone
import BrightBlocks.Proofs.Block.OutOfContext
import BrightBlocks.Proofs.Token.Locality
import BrightBlocks.Proofs.Block.Abstraction
import BrightBlocks.Proofs.Text.LetterCase
import BrightBlocks.Proofs.Token.LetterCase
import BrightBlocks.Proofs.Block.LetterCase
import BrightBlocks.Proofs.Token.MaximalMunch
import BrightBlocks.Proofs.Token.Remark
import BrightBlocks.Proofs.Block.Siblings
import BrightBlocks.Proofs.Block.Store
import BrightBlocks.Proofs.Block.StoreGrowth
import BrightBlocks.Proofs.Block.StoreReturn
import BrightBlocks.Proofs.Block.Workbench
import BrightBlocks.Proofs.Block.Bookkeeping
import BrightBlocks.Proofs.Block.Account
import BrightBlocks.Proofs.Block.Checked
import BrightBlocks.Proofs.Block.Progress
import BrightBlocks.Proofs.Block.Headed
import BrightBlocks.Proofs.Block.Ranges
import BrightBlocks.Proofs.Block.HeaderLine
import BrightBlocks.Proofs.Block.SingleLine
import BrightBlocks.Proofs.Block.Program
import BrightBlocks.Proofs.Block.ProgramLine
import BrightBlocks.Proofs.Block.ProgramPlaces
import BrightBlocks.Proofs.Block.OneLiners
import BrightBlocks.Proofs.Block.Reachable
import BrightBlocks.Proofs.Block.Attempt
import BrightBlocks.Proofs.Block.LeftOpen
import BrightBlocks.Proofs.Block.Intake
import BrightBlocks.Proofs.Block.IntakeCursor
import BrightBlocks.Proofs.Block.IntakeKeeps
import BrightBlocks.Proofs.Block.OnDemand
import BrightBlocks.Proofs.Block.Answers
import BrightBlocks.Proofs.Block.RecoveryOnDemand
import BrightBlocks.Proofs.Block.Window
import BrightBlocks.Proofs.Block.StreamEnd
import BrightBlocks.Proofs.Outline.Pattern
import BrightBlocks.Proofs.Outline.Name
import BrightBlocks.Proofs.Report.Faithful
import BrightBlocks.Proofs.Command.Lossless
import BrightBlocks.Proofs.Command.Store
import BrightBlocks.Proofs.Command.Trace
