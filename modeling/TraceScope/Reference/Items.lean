import TraceScope.Host
import TraceScope.Json.Reader

/-!
# Items of a file

A reader for files of segments. The items below the member `segments` are taken one by one as they
are completed, so that those before a fault are not lost. Numerals with a point or an exponent are
exact decimals.
-/

namespace TraceScope.Reference

open Json

/-- The names of the places that lead to a value, from the outermost on: those of members, and
`item` in each list. -/
def steps (opened : List Opened) : List Text :=
  opened.reverse.map fun
    | .list _ => "item"
    | .object _ name => name

def place (opened : List Opened) : Text := Text.intercalate "." (steps opened)

def segmentPlace : Text := "segments.item"

/-- Whether a value below these lists and objects is a segment. More than two names are joined by
more than one point. -/
def isSegmentPlace (opened : List Opened) : Bool :=
  (opened.drop 2).isEmpty && decide (place opened = segmentPlace)

/-- The character that escapes of two code units stand for, whatever the second one is. -/
def joinUnits (high low : Nat) : Char :=
  Char.ofNat ((high / 64 % 16 + 1) * 65536 + high % 64 * 1024 + low % 1024)

def halfFault (before : List Char) : Fault :=
  let position := before.foldl (fun n c => n + c.utf8Size) 0
  .misencoded ⟨.utf8, position, position, 0xed, .badContinuation⟩

/-- The characters that are spelt; `before` holds, in reverse, what was read already. A first half
of a pair of surrogates is joined with the code unit after it, and becomes a question mark if there
is none; a second half that stands alone spoils the text. -/
def charsAfter (before : List Char) : List Spelling → Except Fault (List Char)
  | .unit n :: .unit low :: rest =>
    if isHighSurrogate n then charsAfter (joinUnits n low :: before) rest
    else if isLowSurrogate n then .error (halfFault before)
    else charsAfter (Char.ofNat n :: before) (.unit low :: rest)
  | .unit n :: rest =>
    if isHighSurrogate n then charsAfter ('?' :: before) rest
    else if isLowSurrogate n then .error (halfFault before)
    else charsAfter (Char.ofNat n :: before) rest
  | .letter l :: rest => charsAfter (l.shown :: before) rest
  | [] => .ok before.reverse

def streamText (raw : List Letter) : Except Fault Text :=
  (charsAfter [] (spellings raw)).map Text.ofChars

def streamNumber (n : Numeral) : Except Fault Value :=
  if n.isWhole then
    if Integer.maxDigits < n.whole.length then .error (.longNumeral n.whole.length)
    else .ok (.int n.toInt)
  else
    let x : Decimal := ⟨n.negative, n.coefficient, n.power⟩
    if x.inRange then .ok (.decimal x) else .error .decimalOutOfRange

def dialect : Dialect where
  isBlank c := c = ' ' || (9 ≤ c.toNat && c.toNat ≤ 13)
  words := standardWords
  strictNumerals := true
  numeral := streamNumber
  unescape := streamText
  mayRemain := isOpenString
  collects := isSegmentPlace

/-- The string of the bytes up to the first that tells no character, and whether there is none. -/
def readable (bytes : ByteArray) : String × Bool :=
  match Text.ofUtf8 bytes with
  | .ok text => (text, true)
  | .error e => (((Text.ofUtf8 (bytes.extract 0 e.first)).toOption).getD "", false)

/-- Bytes that are no text are malformed where the text before them is not. -/
def ending (readable : Bool) : Option Misread → Ending
  | none => if readable then .whole else .malformed
  | some (.malformed _) => .malformed
  | some (.failed f) => .failed f

def items (bytes : ByteArray) : ItemStream :=
  let (text, whole) := readable bytes
  let (m, misread) := Machine.run dialect {} 0 (Text.ofString text).letters
  { items := m.collected.reverse, ending := ending whole misread }

end TraceScope.Reference
