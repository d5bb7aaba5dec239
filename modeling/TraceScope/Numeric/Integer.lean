import TraceScope.Text.Blank
import TraceScope.Text.Digit

/-!
# Integers in text

An integer is read from a sign and digits of any script, with single underscores between digits
and blanks at either end. At most 4300 digits are read or written.
-/

namespace TraceScope.Integer

/-- The number of digits beyond which integers are neither read nor written. -/
def maxDigits : Nat := 4300

/-- The smallest natural number with too many digits. -/
def writableBound : Nat := Nat.pow 10 maxDigits

def isWritable (n : Int) : Bool := decide (n.natAbs < writableBound)

theorem isWritable_of_lt {n : Int} (small : n.natAbs < 10) : isWritable n = true := by
  have grows : ∀ digits, 1 ≤ digits → 10 ≤ Nat.pow 10 digits := by
    intro digits some
    have power : 10 ^ 1 ≤ 10 ^ digits := Nat.pow_le_pow_right (by decide) some
    exact power
  have many : 1 ≤ maxDigits := by decide
  unfold isWritable writableBound
  apply decide_eq_true
  exact Nat.lt_of_lt_of_le small (grows maxDigits many)

inductive Misread
  | notNumeral
  | tooLong (digits : Nat)
  deriving DecidableEq, Repr

/-- Blanks that may surround a numeral once its characters are ASCII. -/
def isAsciiBlank (c : Char) : Bool := c = ' ' || (9 ≤ c.toNat && c.toNat ≤ 13)

/-- The ASCII character that a letter counts as: blanks and digits of other scripts have
counterparts in ASCII. -/
def asciiOf : Letter → Char
  | .char c =>
    if c.toNat < 127 then c
    else if Text.isBlank c then ' '
    else match Text.digitValue? c with
      | some d => Char.ofNat (48 + d)
      | none => '?'
  | .half _ => '?'

/-- The characters that the letters of a text count as. A text in ASCII alone is left as it is. -/
def toAscii (t : Text) : List Char :=
  if t.letters.all (·.code < 128) then t.letters.map Letter.shown else t.letters.map asciiOf

/-- Splits a sign off; true stands for minus. -/
def splitSign : List Char → Bool × List Char
  | '-' :: cs => (true, cs)
  | '+' :: cs => (false, cs)
  | cs => (false, cs)

/-- Digits and underscores from the left: the digits, whether the last character read was an
underscore, and the rest. Two underscores in a row end the numeral badly. -/
def spanDigits : Bool → List Char → Option (List Char × Bool × List Char)
  | under, [] => some ([], under, [])
  | under, c :: cs =>
    if c = '_' then
      if under then none else spanDigits true cs
    else if c.isDigit then
      (spanDigits false cs).map fun r => (c :: r.1, r.2)
    else some ([], under, c :: cs)

def ofDigits (cs : List Char) : Nat := cs.foldl (fun n c => 10 * n + (c.toNat - 48)) 0

def readUnsigned (cs : List Char) : Except Misread Nat :=
  match cs with
  | '_' :: _ => .error .notNumeral
  | _ =>
    match spanDigits false cs with
    | none => .error .notNumeral
    | some (ds, under, rest) =>
      if under || ds.isEmpty then .error .notNumeral
      else if maxDigits < ds.length then .error (.tooLong ds.length)
      else if rest.all isAsciiBlank then .ok (ofDigits ds)
      else .error .notNumeral

def read (t : Text) : Except Misread Int :=
  let (negative, cs) := splitSign ((toAscii t).dropWhile isAsciiBlank)
  match readUnsigned cs with
  | .error e => .error e
  | .ok n => .ok (if negative then -(n : Int) else n)

def text (n : Int) : String :=
  let ds := Nat.toDigits 10 n.natAbs
  String.ofList (if n < 0 then '-' :: ds else ds)

end TraceScope.Integer
