import BrightBlocks.Command.Arguments
import BrightBlocks.Command.Disk
import BrightBlocks.Report.Document
import BrightBlocks.Report.Dump
import BrightBlocks.Report.Listing
import BrightBlocks.Text.Newline
import BrightBlocks.Text.Utf8

/-!
# Running the command

A run gets the source, renders it and delivers the result, to a file or to the
standard output. Everything that can fail comes before the delivery, and a file
that cannot be written is left as it is, so a run that fails shows no result
anywhere.
-/

namespace BrightBlocks.Command

/-- Why a run fails. -/
inductive Fault
  | unknownMode (name : Text)
  | unsupportedFile
  | disk (fault : DiskFault)
  | undecodable (fault : Utf8.Fault)
  | limit (fault : Block.LimitFault)
  deriving DecidableEq, Repr

/-- The words for a run that fails. -/
def Fault.message : Fault → Text
  | unknownMode name => "Unknown output mode: ".toList ++ name
  | unsupportedFile => "Only .brs files are supported.".toList
  | disk fault => fault.message
  | undecodable fault => fault.message
  | limit fault => fault.message

/-- A line of the log. -/
inductive LogLine
  | decision (notice : Block.Notice)
  | parsed (characters blocks : Nat)
  | wrote (path : Text)
  deriving DecidableEq, Repr

/-- The text of a line of the log. -/
def LogLine.render : LogLine → Text
  | decision notice => "DEBUG brs.brs_parser: ".toList ++ notice.message
  | parsed characters blocks =>
    "INFO brs.brs_cli: Parsed ".toList ++ Text.ofInt characters ++ " characters into ".toList ++
      Text.ofInt blocks ++ " top-level blocks".toList
  | wrote path => "INFO brs.brs_cli: Wrote ".toList ++ path

/-- The mode with a name. -/
def Mode.ofName (name : Text) : Except Fault Mode :=
  if name = "tree".toList then .ok .tree
  else if name = "tokens".toList then .ok .tokens
  else if name = "json".toList then .ok .json
  else .error (.unknownMode name)

/-- Whether a path names a source file, by its ending in any case. -/
def isSourcePath (path : Text) : Bool :=
  Text.endsWith path.lowercase ".brs".toList

/-- The text of a source file, with its line ends unified. -/
def decodeSource (content : List UInt8) : Except Fault Text :=
  ((Utf8.decode content).map Text.unifyNewlines).mapError .undecodable

/-- A rendered source, and the log of what led to it. -/
structure Rendering where
  output : Text
  log : List LogLine
  deriving DecidableEq, Repr

/-- Renders a source. The nesting limit counts only where blocks are recovered. -/
def render (source : Text) (mode : Mode) (limit : Int) : Except Fault Rendering :=
  match mode with
  | .tokens => .ok ⟨Report.tokenList source (Token.tokenize source), []⟩
  | .tree | .json => do
    let limit ← (Block.checkLimit limit).mapError .limit
    let (file, cursor) := Block.recover source limit (Token.tokenize source)
    let output :=
      if mode = .json then (Report.fileDocument (some source) file).render 0
      else Report.dump source 0 (.file file)
    let blocks := (Forest.blocks file.children).length
    return ⟨output, cursor.log.map .decision ++ [.parsed source.length blocks]⟩

/-- What a run leaves behind, its files apart. -/
structure Run where
  log : List LogLine
  result : Except Fault Text
  printed : Text

/-- A run that fails. -/
def Run.failed (log : List LogLine) (fault : Fault) : Run :=
  ⟨log, .error fault, []⟩

section

variable {m : Type → Type} [Monad m]

/-- Gets the source that a request is about. -/
def fetch (disk : Disk m) (source : Text) (literal : Bool) : m (Except Fault Text) :=
  if literal then return .ok source
  else if isSourcePath source then do
    match ← disk.read source with
    | .ok content => return decodeSource content
    | .error fault => return .error (.disk fault)
  else return .error .unsupportedFile

/-- Delivers a rendering, to a file if `out` names one. -/
def deliver (disk : Disk m) (out : Option Text) (rendering : Rendering) : m Run := do
  let line := rendering.output ++ ['\n']
  match out.filter (· ≠ []) with
  | none => return ⟨rendering.log, .ok rendering.output, line⟩
  | some path =>
    match ← disk.write path (Utf8.encode line) with
    | .ok () => return ⟨rendering.log ++ [.wrote path], .ok rendering.output, []⟩
    | .error fault => return .failed rendering.log (.disk fault)

/-- Gets a source, renders it and delivers the result. -/
def run (disk : Disk m) (source : Text) (literal : Bool) (mode : Mode) (out : Option Text)
    (limit : Int) : m Run := do
  match ← fetch disk source literal with
  | .error fault => return .failed [] fault
  | .ok text =>
    match render text mode limit with
    | .error fault => return .failed [] fault
    | .ok rendering => deliver disk out rendering

/-- What the command leaves behind, its files apart. -/
structure Exit where
  code : UInt32
  stdout : Text
  stderr : Text
  deriving DecidableEq, Repr

/-- What the command leaves behind after a run. The log is shown only on demand. -/
def Run.exit (run : Run) (verbose : Bool) : Exit :=
  let log := if verbose then run.log.flatMap (·.render ++ ['\n']) else []
  match run.result with
  | .ok _ => ⟨0, run.printed, log⟩
  | .error fault => ⟨1, run.printed, log ++ "brs: ".toList ++ fault.message ++ ['\n']⟩

/-- Runs the command with its arguments. -/
def execute (disk : Disk m) (arguments : List Text) : m Exit := do
  match readArguments arguments with
  | .error .help => return ⟨0, helpText, []⟩
  | .error (.refused fault) => return ⟨2, [], fault.report⟩
  | .error .noLimit => return ⟨1, [], noLimitText ++ ['\n']⟩
  | .ok request =>
    let run ← run disk request.source request.literal request.mode request.out request.limit
    return run.exit request.verbose

end

end BrightBlocks.Command
