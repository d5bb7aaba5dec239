import TraceScope.Fault

/-!
# Lexemes of JSON

A JSON text is a sequence of marks, words, numerals and strings. Numerals and strings keep the
letters they were written with; what they stand for is decided by whoever reads them. Halves of
pairs of surrogates may stand in strings alone.
-/

namespace TraceScope.Json

structure Exponent where
  sign : List Char
  digits : List Char
  deriving DecidableEq, Repr

def Exponent.toInt (e : Exponent) : Int :=
  if e.sign = ['-'] then -(Integer.ofDigits e.digits : Int) else Integer.ofDigits e.digits

structure Numeral where
  negative : Bool
  whole : List Char
  fraction : Option (List Char) := none
  exponent : Option Exponent := none
  deriving DecidableEq, Repr

namespace Numeral

def isWhole (n : Numeral) : Bool := n.fraction.isNone && n.exponent.isNone

def coefficient (n : Numeral) : Nat := Integer.ofDigits (n.whole ++ n.fraction.getD [])

def power (n : Numeral) : Int :=
  (n.exponent.map Exponent.toInt).getD 0 - (n.fraction.getD []).length

def toInt (n : Numeral) : Int :=
  if n.negative then -(Integer.ofDigits n.whole : Int) else Integer.ofDigits n.whole

def width (n : Numeral) : Nat :=
  (if n.negative then 1 else 0) + n.whole.length +
    (n.fraction.map fun ds => 1 + ds.length).getD 0 +
    (n.exponent.map fun e => 1 + e.sign.length + e.digits.length).getD 0

end Numeral

/-- A lexeme. A word stands for a value; a string is kept with its escapes. -/
inductive Token
  | openList
  | closeList
  | openObject
  | closeObject
  | colon
  | comma
  | word (v : Value)
  | numeral (n : Numeral)
  | string (raw : List Letter)

def spanDigits (cs : List Char) : List Char × List Char :=
  (cs.takeWhile Char.isDigit, cs.dropWhile Char.isDigit)

/-- The point and the digits after it, if there are any. A point without digits is left alone, or
spoils the numeral if `strict`. -/
def spanFraction (strict : Bool) (cs : List Char) : Option (Option (List Char) × List Char) :=
  match cs with
  | '.' :: rest =>
    match spanDigits rest with
    | ([], _) => if strict then none else some (none, cs)
    | (ds, rest) => some (some ds, rest)
  | _ => some (none, cs)

def spanSign : List Char → List Char × List Char
  | '-' :: cs => (['-'], cs)
  | '+' :: cs => (['+'], cs)
  | cs => ([], cs)

/-- An exponent, if there is one. An exponent without digits is left alone, or spoils the numeral
if `strict`. -/
def spanExponent (strict : Bool) (cs : List Char) : Option (Option Exponent × List Char) :=
  match cs with
  | c :: rest =>
    if c = 'e' ∨ c = 'E' then
      let (sign, digits) := spanSign rest
      match spanDigits digits with
      | ([], _) => if strict then none else some (none, cs)
      | (ds, rest) => some (some { sign, digits := ds }, rest)
    else some (none, cs)
  | [] => some (none, cs)

/-- The digits before the point: a single zero, or digits that do not start with zero. -/
def spanWhole (cs : List Char) : Option (List Char × List Char) :=
  match cs with
  | '0' :: rest => some (['0'], rest)
  | cs =>
    match spanDigits cs with
    | ([], _) => none
    | r => some r

def spanNumeral (strict : Bool) (cs : List Char) : Option (Numeral × List Char) := do
  let (negative, cs) := match cs with
    | '-' :: rest => (true, rest)
    | cs => (false, cs)
  let (whole, cs) ← spanWhole cs
  let (fraction, cs) ← spanFraction strict cs
  let (exponent, cs) ← spanExponent strict cs
  return ({ negative, whole, fraction, exponent }, cs)

/-- The characters that stand for themselves or for a control character after a backslash. -/
def simpleEscape? (c : Char) : Option Char :=
  if c = Text.quotationMark ∨ c = '\\' ∨ c = '/' then some c
  else if c = 'b' then some (Char.ofNat 8)
  else if c = 'f' then some (Char.ofNat 12)
  else if c = 'n' then some '\n'
  else if c = 'r' then some '\r'
  else if c = 't' then some '\t'
  else none

def isHexDigit (l : Letter) : Bool := l.isIn fun c => (Text.hexValue? c).isSome

def startsEscape (ls : List Letter) : Bool :=
  match ls with
  | .char 'u' :: ls => decide (4 ≤ ls.length) && (ls.take 4).all isHexDigit
  | .char c :: _ => (simpleEscape? c).isSome
  | _ => false

def isQuote (l : Letter) : Bool := l = .char Text.quotationMark

/-- The letters of a string before the closing quote. `before` holds, in reverse, what was read
already, and `escaped` tells whether a backslash came last. -/
def spanString (before : List Letter) (escaped : Bool) : List Letter → Option (List Letter)
  | [] => none
  | l :: ls =>
    if escaped then
      if startsEscape (l :: ls.take 4) then spanString (l :: before) false ls else none
    else if isQuote l then some before.reverse
    else if l = .char '\\' then spanString (l :: before) true ls
    else if l.code < 32 then none
    else spanString (l :: before) false ls

/-- Whether a string goes on beyond these letters. `escaped` tells whether a backslash came before
them. -/
def stringGoesOn (escaped : Bool) : List Letter → Bool
  | [] => !escaped
  | l :: ls =>
    if escaped then startsEscape (l :: ls.take 4) && stringGoesOn false ls
    else if l = .char '\\' then stringGoesOn true ls
    else !isQuote l && 32 ≤ l.code && stringGoesOn false ls

def isOpenString : List Letter → Bool
  | [] => false
  | l :: ls => isQuote l && stringGoesOn false ls

def isPlainChar (c : Char) : Bool := c.isAlphanum || c = '+' || c = '-' || c = '.'

def spanPlain : List Letter → List Char
  | .char c :: ls => if isPlainChar c then c :: spanPlain ls else []
  | _ => []

def word? (words : List (String × Value)) (cs : List Char) : Option (Token × Nat) :=
  (words.find? fun w => w.1.toList.isPrefixOf cs).map fun w => (.word w.2, w.1.length)

def plain? (words : List (String × Value)) (strict : Bool) (cs : List Char) :
    Option (Token × Nat) :=
  match word? words cs with
  | some w => some w
  | none => (spanNumeral strict cs).map fun r => (.numeral r.1, r.1.width)

def mark? (l : Letter) : Option Token :=
  if l = .char '[' then some .openList
  else if l = .char ']' then some .closeList
  else if l = .char (Char.ofNat 0x7b) then some .openObject
  else if l = .char (Char.ofNat 0x7d) then some .closeObject
  else if l = .char ':' then some .colon
  else if l = .char ',' then some .comma
  else none

def token? (words : List (String × Value)) (strict : Bool) (ls : List Letter) :
    Option (Token × Nat) :=
  match ls with
  | [] => none
  | l :: rest =>
    match mark? l with
    | some t => some (t, 1)
    | none =>
      if isQuote l then (spanString [] false rest).map fun raw => (.string raw, raw.length + 2)
      else plain? words strict (spanPlain ls)

/-! ### Strings -/

/-- What a string spells: a letter, or a code unit by its number. -/
inductive Spelling
  | letter (l : Letter)
  | unit (n : Nat)
  deriving DecidableEq, Repr

def hexDigit (l : Letter) : Nat :=
  match l with
  | .char c => (Text.hexValue? c).getD 0
  | .half _ => 0

def codeUnit (a b c d : Letter) : Nat := [a, b, c, d].foldl (fun n l => 16 * n + hexDigit l) 0

/-- What a string spells, letter by letter; `before` holds, in reverse, what was read already. -/
def spellingsAfter (before : List Spelling) : List Letter → List Spelling
  | .char '\\' :: .char 'u' :: a :: b :: c :: d :: rest =>
    spellingsAfter (.unit (codeUnit a b c d) :: before) rest
  | .char '\\' :: .char c :: rest =>
    spellingsAfter (.letter (.char ((simpleEscape? c).getD c)) :: before) rest
  | l :: rest => spellingsAfter (.letter l :: before) rest
  | [] => before.reverse

def spellings (raw : List Letter) : List Spelling := spellingsAfter [] raw

def isHighSurrogate (n : Nat) : Bool := 0xd800 ≤ n && n ≤ 0xdbff

def isLowSurrogate (n : Nat) : Bool := 0xdc00 ≤ n && n ≤ 0xdfff

end TraceScope.Json
