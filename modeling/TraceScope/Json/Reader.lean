import TraceScope.Json.Machine
import TraceScope.Stack

/-!
# JSON documents

Documents are read as a whole. Numerals with a point or an exponent are binary floating-point
numbers, which may also be written as words when they are infinite or undefined.
-/

namespace TraceScope.Json

def joinSurrogates (high low : Nat) : Char :=
  Char.ofNat (0x10000 + (high - 0xd800) * 0x400 + (low - 0xdc00))

/-- The letters that are spelt; `before` holds, in reverse, what was read already. Two halves of a
pair of surrogates are joined if both are told by their numbers. -/
def lettersAfter (before : List Letter) : List Spelling → List Letter
  | .unit high :: .unit low :: rest =>
    if isHighSurrogate high && isLowSurrogate low then
      lettersAfter (.char (joinSurrogates high low) :: before) rest
    else lettersAfter (.ofCode high :: before) (.unit low :: rest)
  | .unit n :: rest => lettersAfter (.ofCode n :: before) rest
  | .letter l :: rest => lettersAfter (l :: before) rest
  | [] => before.reverse

def stringText (raw : List Letter) : Text := ⟨lettersAfter [] (spellings raw)⟩

/-- The value of a numeral in a document. Integers may be limited in length. -/
def documentNumber (limited : Bool) (n : Numeral) : Except Fault Value :=
  if n.isWhole then
    if limited && Integer.maxDigits < n.whole.length then .error (.longNumeral n.whole.length)
    else .ok (.int n.toInt)
  else .ok (.double (.ofDecimal n.negative n.coefficient n.power))

/-- How documents are read, with or without limits on the digits of an integer and on the number of
lists and objects inside one another. -/
def Dialect.document (limited : Bool) (maxDepth : Option Nat) : Dialect where
  isBlank c := c = ' ' || c = '\t' || c = '\n' || c = '\r'
  words := standardWords ++
    [("NaN", .double (.nan 0)), ("Infinity", .double (.infinite false)),
      ("-Infinity", .double (.infinite true))]
  strictNumerals := false
  numeral := documentNumber limited
  unescape raw := .ok (stringText raw)
  maxDepth

def malformed (ls : List Letter) (left : Nat) : Fault :=
  let read := ls.take (ls.length - left)
  .malformedJson (read.count (.char '\n') + 1)
    ((read.reverse.takeWhile (· ≠ .char '\n')).length + 1) read.length

def readText (limited : Bool) (maxDepth : Option Nat) (t : Text) : Except Fault Value :=
  match Machine.run (.document limited maxDepth) {} 0 t.letters with
  | (m, none) => .ok m.result
  | (_, some (.malformed left)) => .error (malformed t.letters left)
  | (_, some (.failed f)) => .error f

def readUnlimited (s : String) : Except Fault Value := readText false none s

def read (stack : Stack) (s : String) : Except Fault Value := readText true stack.reading s

def readBytes (stack : Stack) (bytes : ByteArray) : Except Fault Value := do
  readText true stack.reading ⟨← (Text.decode bytes).mapError .misencoded⟩

end TraceScope.Json
