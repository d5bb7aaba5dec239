import TraceScope.Config

/-!
# Command-line arguments

Two files are named by position; the rest is told by options. An option may be shortened as long as
it stays distinct, and takes its value from the same argument or the next. After two dashes every
argument counts by position, and so do numbers below zero and arguments with a blank. Two dashes
are taken out of what a setting gets; a setting that gets nothing else is an empty list.
-/

namespace TraceScope

namespace CommandLine

inductive Flag
  | help
  | output
  | maxLength
  | thresholds
  deriving DecidableEq, Repr

def flags : List (Text × Flag) :=
  [("-h", .help), ("--help", .help), ("-o", .output), ("--output", .output),
    ("--max-slow-sql-length", .maxLength), ("--slow-db-threshold", .thresholds)]

inductive Argument
  | positional (text : Text)
  | separator
  | option (flag : Flag) (byLetter : Bool) (value : Option Text)
  | unknown
  | ambiguous

structure Settings where
  positional : List Value := []
  output : Value := .text "segment_analysis.json"
  maxLength : Value := Config.standardLimit
  thresholds : Value := .text Thresholds.standard

inductive Parsed
  | settings (inventory segments : Value) (s : Settings)
  | help
  | misused

def separatorText : Text := "--"

def flagNamed? (name : List Letter) : Option Flag :=
  (flags.find? fun f => f.1.letters = name).map (·.2)

/-- Whether a name is that of a letter: a dash and the letter. -/
def isLetterName (name : List Letter) : Bool := name.length == 2

/-- A number below zero, with or without a point. A line may end after it. -/
def isNegativeNumber (ls : List Letter) : Bool :=
  match ls with
  | .char '-' :: ds =>
    let digit := Letter.isIn fun c => (Text.digitValue? c).isSome
    let ds := if ds.getLast? = some (.char '\n') then ds.dropLast else ds
    match splitAtFirst (.char '.') ds with
    | none => !ds.isEmpty && ds.all digit
    | some (whole, fraction) => whole.all digit && !fraction.isEmpty && fraction.all digit
  | _ => false

def abbreviated (ls : List Letter) : Option Argument :=
  let (name, value) : List Letter × Option Text := match splitAtFirst (.char '=') ls with
    | some (name, value) => (name, some ⟨value⟩)
    | none => (ls, none)
  match flags.filter fun f => name.isPrefixOf f.1.letters with
  | [] => none
  | [f] => some (.option f.2 false value)
  | _ => some .ambiguous

def attached (ls : List Letter) : Option Argument :=
  (flagNamed? (ls.take 2)).map fun f => .option f true (some ⟨ls.drop 2⟩)

def assigned (ls : List Letter) : Option Argument := do
  let (name, value) ← splitAtFirst (.char '=') ls
  let flag ← flagNamed? name
  return .option flag (isLetterName name) (some ⟨value⟩)

def classify (arg : Text) : Argument :=
  match arg.letters with
  | .char '-' :: l :: _ =>
    match flagNamed? arg.letters with
    | some f => .option f (isLetterName arg.letters) none
    | none =>
      let named := (assigned arg.letters).or <|
        if l = .char '-' then abbreviated arg.letters else attached arg.letters
      match named with
      | some a => a
      | none =>
        if isNegativeNumber arg.letters || arg.letters.contains (.char ' ') then .positional arg
        else .unknown
  | _ => .positional arg

def classifyAll : List Text → List Argument
  | [] => []
  | arg :: rest =>
    if arg = separatorText then .separator :: rest.map .positional
    else classify arg :: classifyAll rest

def valueOf (t : Text) : Value := if t = separatorText then .list [] else .text t

def Settings.set (s : Settings) (flag : Flag) (t : Text) : Option Settings :=
  match flag, valueOf t with
  | .help, _ => none
  | .output, value => some { s with output := value }
  | .maxLength, .text t =>
    match Integer.read t with
    | .ok n => some { s with maxLength := .int n }
    | .error _ => none
  | .maxLength, value => some { s with maxLength := value }
  | .thresholds, value => some { s with thresholds := value }

/-- The end of the arguments: two files must have been named, and nothing else. -/
def Settings.finish (s : Settings) (superfluous : Bool) : Parsed :=
  match s.positional with
  | [inventory, segments] =>
    if superfluous then .misused else .settings inventory segments s
  | _ => .misused

def Settings.addPositional (s : Settings) (value : Value) : Settings × Bool :=
  if s.positional.length < 2 then ({ s with positional := s.positional ++ [value] }, false)
  else (s, true)

/-- Whether the letters attached to a one-letter request for help are well formed. They are options
in turn; one that takes a value finds it in the letters after it or in the next argument. -/
def lettersHold (next : Option Argument) : List Letter → Bool
  | [.char 'h'] => true
  | .char 'h' :: ls => lettersHold next ls
  | [.char 'o'] => match next with
    | some (.positional _) => true
    | _ => false
  | .char 'o' :: _ => true
  | _ => false

/-- Takes the arguments in order. A separator belongs to the file before or after it, which it
leaves as it is. -/
def take (s : Settings) (superfluous : Bool) : List Argument → Parsed
  | [] => s.finish superfluous
  | .positional text :: .separator :: rest =>
    let (s, extra) := s.addPositional (.text text)
    take s (superfluous || extra) rest
  | .positional text :: rest =>
    let (s, extra) := s.addPositional (valueOf text)
    take s (superfluous || extra) rest
  | .separator :: .positional text :: rest =>
    let (s, extra) := s.addPositional (.text text)
    take s (superfluous || extra) rest
  | .separator :: rest => take s true rest
  | .unknown :: rest => take s true rest
  | .ambiguous :: _ => .misused
  | .option .help _ none :: _ => .help
  | .option .help byLetter (some value) :: rest =>
    if byLetter && lettersHold rest.head? value.letters then .help else .misused
  | .option flag _ (some value) :: rest =>
    match s.set flag value with
    | some s => take s superfluous rest
    | none => .misused
  | .option flag _ none :: .positional value :: rest =>
    match s.set flag value with
    | some s => take s superfluous rest
    | none => .misused
  | .option _ _ none :: _ => .misused

/-- Reads the arguments. An ambiguous option spoils them all, wherever it stands. -/
def parse (args : List Text) : Parsed :=
  let arguments := classifyAll args
  if arguments.any fun a => match a with | .ambiguous => true | _ => false then .misused
  else take {} false arguments

end CommandLine

end TraceScope
