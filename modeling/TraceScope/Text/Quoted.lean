import TraceScope.Text
import TraceScope.Text.Printable

/-!
# Quoted texts

A text is quoted with single quotes, or with double quotes when it holds single quotes only.
Backslashes, the quote itself and letters that cannot be printed are escaped.
-/

namespace TraceScope.Text

def apostrophe : Char := Char.ofNat 39

def quotationMark : Char := Char.ofNat 34

/-- `n` in base 16 with at least `width` digits. -/
def hexDigits (width n : Nat) : List Char :=
  let ds := Nat.toDigits 16 n
  List.replicate (width - ds.length) '0' ++ ds

/-- An escape with the fewest of two, four or eight digits that hold the code point. -/
def escapeCode (n : Nat) : List Char :=
  if n < 0x100 then '\\' :: 'x' :: hexDigits 2 n
  else if n < 0x10000 then '\\' :: 'u' :: hexDigits 4 n
  else '\\' :: 'U' :: hexDigits 8 n

def escapeChar (quote c : Char) : List Char :=
  if c = quote ∨ c = '\\' then ['\\', c]
  else if c = '\t' then ['\\', 't']
  else if c = '\n' then ['\\', 'n']
  else if c = '\r' then ['\\', 'r']
  else if isPrintable c then [c]
  else escapeCode c.toNat

/-- A letter as it stands between quotes. Halves of pairs cannot be printed. -/
def escapeLetter (quote : Char) : Letter → List Char
  | .char c => escapeChar quote c
  | .half n => escapeCode (Letter.half n).code

def quoteFor (t : Text) : Char :=
  if t.letters.contains (apostrophe : Letter) && !t.letters.contains (quotationMark : Letter) then
    quotationMark
  else apostrophe

def quoted (t : Text) : Text :=
  let quote := quoteFor t
  ofChars (quote :: t.letters.flatMap (escapeLetter quote) ++ [quote])

end TraceScope.Text
