import BrightBlocks.Block.Recovery
import BrightBlocks.Command.Usage
import BrightBlocks.Text.Integer

/-!
# Reading arguments

Arguments are read in two passes. The first tells flags from plain arguments,
each on its own, up to a double dash, after which all arguments are plain. The
second goes through them from left to right: a flag takes the value that it
needs, the first plain argument is the source, and what is left over is
collected. A refusal found in the first pass comes before any of the second, and
missing or surplus arguments come last.

Two conventions are those of older readers of arguments, which later ones have
given up. A double dash that is attached to a flag is no value: `--out=--` takes
back the file of an earlier flag, and `--max-depth=--` takes back the limit
without putting another in its place, where a later reader takes the double dash
for the value. And behind flags that are written together an equals sign belongs
to the value: `-so=x` names the file `=x`, where a later reader drops the sign.
-/

namespace BrightBlocks.Command

/-- The form in which the blocks of a source are shown. -/
inductive Mode
  | tree
  | tokens
  | json
  deriving DecidableEq, Repr

/-- What the command is asked to do. -/
structure Request where
  /-- The path of a source file, or the source itself. -/
  source : Text
  /-- Whether `source` is the source itself. -/
  literal : Bool
  mode : Mode
  out : Option Text
  limit : Int
  verbose : Bool
  deriving DecidableEq, Repr

/-! ## Telling flags from plain arguments -/

/-- What an argument is. A text is attached to a flag directly or after an equals sign. -/
inductive Item
  | plain (argument : Text)
  | separator
  | short (flag : Flag) (attached : Option Text)
  | long (flag : Flag) (attached : Option Text)
  | unknown (argument : Text)
  deriving DecidableEq, Repr

/-- Splits at the first equals sign. -/
def splitAtEquals (argument : Text) : Text × Option Text :=
  match argument.dropWhile (· ≠ '=') with
  | [] => (argument, none)
  | _ :: value => (argument.takeWhile (· ≠ '='), some value)

/-- Whether a text is made of decimal digits, of which there has to be one. -/
def isDigits (text : Text) : Bool :=
  !text.isEmpty && text.all Text.isDecimal

/-- Whether an argument looks like a negative number, a line break at its end not counted. -/
def looksNegative : Text → Bool
  | '-' :: rest =>
    let body := if rest.getLast? = some '\n' then rest.dropLast else rest
    let fraction := body.dropWhile Text.isDecimal
    isDigits body ||
      match fraction with
      | '.' :: digits => isDigits digits
      | _ => false
  | _ => false

/-- The item for a flag with a given spelling. -/
def flagItem (spelling : Text) (flag : Flag) (attached : Option Text) : Item :=
  if Text.startsWith spelling "--".toList then .long flag attached else .short flag attached

/-- The flags that an argument may mean although it does not spell one out. -/
def candidates (argument : Text) : List (Text × Item) :=
  if Text.startsWith argument "--".toList then
    let (lead, attached) := splitAtEquals argument
    (Flag.table.filter (Text.startsWith ·.1 lead)).map fun (spelling, flag) =>
      (spelling, .long flag attached)
  else
    match argument with
    | dash :: letter :: rest =>
      match Flag.ofSpelling? [dash, letter] with
      | some flag => [([dash, letter], .short flag (some rest))]
      | none => []
    | _ => []

/-- What an argument before the double dash is. -/
def classify (argument : Text) : Except UsageFault Item :=
  if ¬ Text.startsWith argument ['-'] ∨ argument = ['-'] then .ok (.plain argument)
  else
    match Flag.ofSpelling? argument with
    | some flag => .ok (flagItem argument flag none)
    | none =>
      let (spelling, attached) := splitAtEquals argument
      match attached.bind fun _ => Flag.ofSpelling? spelling with
      | some flag => .ok (flagItem spelling flag attached)
      | none =>
        match candidates argument with
        | [] =>
          if looksNegative argument ∨ ' ' ∈ argument then .ok (.plain argument)
          else .ok (.unknown argument)
        | [(_, item)] => .ok item
        | several => .error (.ambiguous argument (several.map (·.1)))

/-- What the arguments are. After the double dash all are plain. -/
def classifyAll : List Text → Except UsageFault (List Item)
  | [] => .ok []
  | argument :: rest =>
    if argument = "--".toList then .ok (.separator :: rest.map .plain)
    else do return (← classify argument) :: (← classifyAll rest)

/-! ## Flags written together -/

/-- What follows the flags of an argument that take no value. -/
inductive GroupEnd
  | complete
  | value (flag : Flag) (value : Text)
  | needsValue (flag : Flag)
  deriving DecidableEq, Repr

/-- The flags that are written together in one argument. -/
structure Group where
  flags : List Flag
  last : GroupEnd
  deriving DecidableEq, Repr

/-- Puts a flag in front of a group. -/
def Group.prepend (flag : Flag) (group : Group) : Group :=
  { group with flags := flag :: group.flags }

/-- A flag without anything attached to it. -/
def bareFlag (flag : Flag) : Group :=
  if flag.takesValue then ⟨[], .needsValue flag⟩ else ⟨[flag], .complete⟩

/--
A short flag with a text attached: the value of the flag, or, for a flag without a
value, the letters of more flags, the last of which may have its value behind it.
-/
def shortGroup (flag : Flag) : Text → Except UsageFault Group
  | [] => if flag.takesValue then .ok ⟨[], .value flag []⟩ else .error (.unwantedValue flag [])
  | letter :: rest =>
    if flag.takesValue then .ok ⟨[], .value flag (letter :: rest)⟩
    else
      match Flag.ofLetter? letter with
      | none => .error (.unwantedValue flag (letter :: rest))
      | some next =>
        if rest = [] then .ok ((bareFlag next).prepend flag)
        else (shortGroup next rest).map (·.prepend flag)

/-- A long flag with a value attached to it. -/
def longGroup (flag : Flag) (value : Text) : Except UsageFault Group :=
  if flag.takesValue then .ok ⟨[], .value flag value⟩ else .error (.unwantedValue flag value)

/-! ## Going through the items -/

/-- What has been read so far. -/
structure Reading where
  source : Option Text
  literal : Bool
  mode : Option Mode
  out : Option Text
  limit : Option Int
  verbose : Bool
  /-- The arguments that nothing took, in order. -/
  surplus : List Text
  deriving DecidableEq, Repr

/-- Nothing has been read yet. -/
def Reading.start : Reading :=
  ⟨none, false, none, none, some Block.defaultLimit, false, []⟩

/-- Why reading the arguments ends without a request. -/
inductive Interruption
  | help
  | refused (fault : UsageFault)
  /-- The limit has been taken back, so there is no number that could be checked. -/
  | noLimit
  deriving DecidableEq, Repr

namespace Reading

/-- Keeps an argument that nothing takes. -/
def keep (reading : Reading) (argument : Text) : Reading :=
  { reading with surplus := reading.surplus ++ [argument] }

/-- Selects a mode, unless the flag of the other one has been given. -/
def select (reading : Reading) (flag : Flag) (mode : Mode) (other : Flag × Mode) :
    Except Interruption Reading :=
  if reading.mode = some other.2 then .error (.refused (.conflict flag other.1))
  else .ok { reading with mode := some mode }

/-- Applies a flag that has no value. -/
def applyFlag (reading : Reading) : Flag → Except Interruption Reading
  | .help => .error .help
  | .literal => .ok { reading with literal := true }
  | .tokens => reading.select .tokens .tokens (.json, .json)
  | .json => reading.select .json .json (.tokens, .tokens)
  | .verbose => .ok { reading with verbose := true }
  | .out | .limit => .ok reading

/-- Takes back what an earlier flag has set, for a flag that a value belongs to. -/
def takeBack (reading : Reading) : Flag → Reading
  | .out => { reading with out := none }
  | .limit => { reading with limit := none }
  | _ => reading

/-- Applies a flag with its value. A double dash, which can only be attached, is none. -/
def applyValue (reading : Reading) (flag : Flag) (value : Text) : Except Interruption Reading :=
  if value = "--".toList then .ok (reading.takeBack flag)
  else
    match flag with
    | .out => .ok { reading with out := some value }
    | .limit =>
      match Text.integer? value with
      | some limit => .ok { reading with limit := some limit }
      | none => .error (.refused (.notAnInteger flag value))
    | _ => .ok reading

/-- Applies flags one after the other. -/
def applyFlags (reading : Reading) (flags : List Flag) : Except Interruption Reading :=
  flags.foldlM applyFlag reading

/-- Takes a plain argument: the first is the source. -/
def takePlain (reading : Reading) (argument : Text) : Reading :=
  match reading.source with
  | none => { reading with source := some argument }
  | some _ => reading.keep argument

end Reading

/-- The flags of an argument, nothing for an argument without flags. -/
def Item.group? : Item → Option (Except UsageFault Group)
  | .short flag (some attached) => some (shortGroup flag attached)
  | .long flag (some attached) => some (longGroup flag attached)
  | .short flag none | .long flag none => some (.ok (bareFlag flag))
  | .plain _ | .separator | .unknown _ => none

/-- The flags of an argument the last of which still needs its value. -/
structure Awaiting where
  flags : List Flag
  flag : Flag
  deriving DecidableEq, Repr

/-- Goes through the items. The double dash is dropped where it stands next to the source. -/
def consume (reading : Reading) :
    Option Awaiting → List Item → Except Interruption Reading
  | some awaiting, .plain value :: rest => do
    let applied ← reading.applyFlags awaiting.flags
    consume (← applied.applyValue awaiting.flag value) none rest
  | some awaiting, _ => .error (.refused (.missingValue awaiting.flag))
  | none, [] => .ok reading
  | none, .plain argument :: .separator :: rest =>
    match reading.source with
    | none => consume (reading.takePlain argument) none rest
    | some _ => consume ((reading.keep argument).keep "--".toList) none rest
  | none, .plain argument :: rest => consume (reading.takePlain argument) none rest
  | none, .separator :: rest =>
    if reading.source = none ∧ rest ≠ [] then consume reading none rest
    else consume (reading.keep "--".toList) none rest
  | none, .unknown argument :: rest => consume (reading.keep argument) none rest
  | none, item :: rest =>
    match item.group? with
    | none => consume reading none rest
    | some (.error fault) => .error (.refused fault)
    | some (.ok group) =>
      match group.last with
      | .complete => do consume (← reading.applyFlags group.flags) none rest
      | .value flag value => do
        let applied ← reading.applyFlags group.flags
        consume (← applied.applyValue flag value) none rest
      | .needsValue flag => consume reading (some ⟨group.flags, flag⟩) rest

/-- The request that has been read, if nothing is missing, left over or out of range. -/
def Reading.finish (reading : Reading) : Except Interruption Request :=
  match reading.source with
  | none => .error (.refused .missingSource)
  | some source =>
    if reading.surplus ≠ [] then .error (.refused (.unrecognized reading.surplus))
    else
      match reading.limit with
      | none => .error .noLimit
      | some limit =>
        if limit < 1 then .error (.refused .limitTooSmall)
        else
          .ok
            { source
              literal := reading.literal
              mode := reading.mode.getD .tree
              out := reading.out
              limit
              verbose := reading.verbose }

/--
Reads the arguments of the command, by the older conventions on `--out=--`, `--max-depth=--` and
`-so=x` that the head of this module describes.
-/
def readArguments (arguments : List Text) : Except Interruption Request := do
  let items ← (classifyAll arguments).mapError .refused
  let reading ← consume .start none items
  reading.finish

end BrightBlocks.Command
