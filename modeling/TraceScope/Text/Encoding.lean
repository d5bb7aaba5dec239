import TraceScope.Text.Quoted

/-!
# Encodings

A text arrives as bytes. A mark in front of it, or else the zeros among its first bytes, tell how
wide its units are and in which order their bytes come. Halves of pairs of surrogates that stand
alone may be taken as they are.
-/

namespace TraceScope

inductive Encoding
  | utf8
  | utf16 (bigEndian : Bool)
  | utf32 (bigEndian : Bool)
  deriving DecidableEq, Repr

inductive Misencoding.Reason
  | badStart
  | badContinuation
  | cutOff
  | truncated
  | outOfRange
  deriving DecidableEq, Repr

/-- Bytes that tell no character, from the first to the last position. `byte` is the first one. -/
structure Misencoding where
  encoding : Encoding
  first : Nat
  last : Nat
  byte : Nat
  reason : Misencoding.Reason
  deriving DecidableEq, Repr

namespace Encoding

def name : Encoding → String
  | utf8 => "utf-8"
  | utf16 big => if big then "utf-16-be" else "utf-16-le"
  | utf32 big => if big then "utf-32-be" else "utf-32-le"

/-- The encoding of a text that starts with these bytes, and the length of its mark. -/
def marked? : List Nat → Option (Encoding × Nat)
  | 0 :: 0 :: 0xfe :: 0xff :: _ => some (utf32 true, 4)
  | 0xff :: 0xfe :: 0 :: 0 :: _ => some (utf32 false, 4)
  | 0xfe :: 0xff :: _ => some (utf16 true, 2)
  | 0xff :: 0xfe :: _ => some (utf16 false, 2)
  | 0xef :: 0xbb :: 0xbf :: _ => some (utf8, 3)
  | _ => none

/-- The encoding of a text without a mark that starts with these bytes. -/
def detect : List Nat → Encoding
  | [0, _, _] | [_, 0, _] => utf8
  | [0, _] => utf16 true
  | [_, 0] => utf16 false
  | 0 :: 0 :: _ => utf32 true
  | 0 :: _ :: _ :: _ => utf16 true
  | _ :: 0 :: 0 :: 0 :: _ => utf32 false
  | _ :: 0 :: _ :: _ :: _ => utf16 false
  | _ => utf8

end Encoding

namespace Misencoding

def Reason.text : Reason → String
  | badStart => "invalid start byte"
  | badContinuation => "invalid continuation byte"
  | cutOff => "unexpected end of data"
  | truncated => "truncated data"
  | outOfRange => "code point not in range(0x110000)"

def text (e : Misencoding) : String :=
  let number := fun n : Nat => String.ofList (Nat.toDigits 10 n)
  let place :=
    if e.first = e.last then
      "byte 0x" ++ String.ofList (Text.hexDigits 2 e.byte) ++ " in position " ++ number e.first
    else "bytes in position " ++ number e.first ++ "-" ++ number e.last
  "'" ++ e.encoding.name ++ "' codec can't decode " ++ place ++ ": " ++ e.reason.text

end Misencoding

namespace Text

/-- The number that bytes are, the most significant one first if `big`. -/
def unitOf (big : Bool) (bytes : List Nat) : Nat :=
  (if big then bytes else bytes.reverse).foldl (fun n b => 256 * n + b) 0

/-- The letters of code units of 16 bits: two halves in a row are a pair. -/
def lettersOfUnits : List Nat → List Letter
  | high :: low :: rest =>
    if 0xd800 ≤ high ∧ high < 0xdc00 ∧ 0xdc00 ≤ low ∧ low < 0xe000 then
      .char (Char.ofNat (0x10000 + (high - 0xd800) * 0x400 + (low - 0xdc00))) ::
        lettersOfUnits rest
    else .ofCode high :: lettersOfUnits (low :: rest)
  | [unit] => [.ofCode unit]
  | [] => []

def units16 (big : Bool) (position : Nat) : List Nat → Except Misencoding (List Nat)
  | a :: b :: rest => (units16 big (position + 2) rest).map (unitOf big [a, b] :: ·)
  | [a] => .error ⟨.utf16 big, position, position, a, .truncated⟩
  | [] => .ok []

def units32 (big : Bool) (position : Nat) : List Nat → Except Misencoding (List Nat)
  | a :: b :: c :: d :: rest =>
    let unit := unitOf big [a, b, c, d]
    if unit < 0x110000 then (units32 big (position + 4) rest).map (unit :: ·)
    else .error ⟨.utf32 big, position, position + 3, a, .outOfRange⟩
  | a :: rest => .error ⟨.utf32 big, position, position + rest.length, a, .truncated⟩
  | [] => .ok []

/-- What the first byte of a character asks for: its own share of the code point, and for each byte
to come the least and the greatest value. -/
def leadOf? (b : Nat) : Option (Nat × List (Nat × Nat)) :=
  let tail := (0x80, 0xbf)
  if b < 0x80 then some (b, [])
  else if 0xc2 ≤ b ∧ b ≤ 0xdf then some (b - 0xc0, [tail])
  else if b = 0xe0 then some (0, [(0xa0, 0xbf), tail])
  else if b = 0xed then some (0xd, [(0x80, 0x9f), tail])
  else if 0xe1 ≤ b ∧ b ≤ 0xef then some (b - 0xe0, [tail, tail])
  else if b = 0xf0 then some (0, [(0x90, 0xbf), tail, tail])
  else if 0xf1 ≤ b ∧ b ≤ 0xf3 then some (b - 0xf0, [tail, tail, tail])
  else if b = 0xf4 then some (4, [(0x80, 0x8f), tail, tail])
  else none

/-- A character of which some bytes are read: where it starts and with which byte, the last byte that
agrees with a character, what is known of its code point and what is asked of the bytes to come. -/
structure OpenChar where
  first : Nat
  last : Nat
  byte : Nat
  code : Nat
  asked : List (Nat × Nat)

namespace OpenChar

/-- A character that starts with a byte. If halves pass, what follows the byte that they start with
may be theirs. -/
def start? (halves : Bool) (position b : Nat) : Option OpenChar :=
  (leadOf? b).map fun (code, asked) =>
    let asked := if halves && b = 0xed then [(0x80, 0xbf), (0x80, 0xbf)] else asked
    { first := position, last := position, byte := b, code, asked }

/-- The bytes of a half agree with no character from the second one on. -/
def next (c : OpenChar) (position b : Nat) (asked : List (Nat × Nat)) : OpenChar :=
  { c with
    last := if c.byte = 0xed ∧ 0xa0 ≤ b then c.last else position
    code := c.code * 64 + b % 64
    asked }

def fault (c : OpenChar) (reason : Misencoding.Reason) : Misencoding :=
  ⟨.utf8, c.first, c.last, c.byte, reason⟩

end OpenChar

/-- The letters of bytes in UTF-8 from a position on. -/
def lettersOfUtf8 (halves : Bool) (position : Nat) (c : Option OpenChar) :
    List Nat → Except Misencoding (List Letter)
  | [] => match c with
    | none => .ok []
    | some c => .error (c.fault .cutOff)
  | b :: rest =>
    let taken : Except Misencoding OpenChar := match c with
      | none => match OpenChar.start? halves position b with
        | some c => .ok c
        | none => .error ⟨.utf8, position, position, b, .badStart⟩
      | some c => match c.asked with
        | (low, high) :: asked =>
          if low ≤ b ∧ b ≤ high then .ok (c.next position b asked)
          else .error (c.fault .badContinuation)
        | [] => .ok c
    match taken with
    | .error e => .error e
    | .ok c =>
      if c.asked.isEmpty then
        (lettersOfUtf8 halves (position + 1) none rest).map (.ofCode c.code :: ·)
      else lettersOfUtf8 halves (position + 1) (some c) rest

def numbersOf (bytes : ByteArray) : List Nat := bytes.data.toList.map UInt8.toNat

def ofUtf8 (bytes : ByteArray) : Except Misencoding String :=
  (lettersOfUtf8 false 0 none (numbersOf bytes)).map fun ls => String.ofList (ls.map Letter.shown)

/-- The letters of bytes in an encoding that they tell themselves. Halves of pairs pass, and a mark in
front is left out. -/
def decode (bytes : ByteArray) : Except Misencoding (List Letter) :=
  let bytes := numbersOf bytes
  let (encoding, mark) := (Encoding.marked? bytes).getD (Encoding.detect bytes, 0)
  match encoding with
  | .utf8 => lettersOfUtf8 true 0 none (bytes.drop mark)
  | .utf16 big => (units16 big mark (bytes.drop mark)).map lettersOfUnits
  | .utf32 big => (units32 big mark (bytes.drop mark)).map (·.map .ofCode)

end Text

end TraceScope
