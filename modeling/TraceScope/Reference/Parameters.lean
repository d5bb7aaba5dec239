import TraceScope.Table
import TraceScope.Text.Blank
import TraceScope.Text.Case
import TraceScope.Text.Digit
import TraceScope.Text.Encoding
import TraceScope.Text.Split

/-!
# Parameters of headers

The value of a header may be followed by parameters, which semicolons part. A parameter is a key and
a token or a quoted text. A star after the key says that the value is percent-encoded and may name
its encoding; a number between a star and the end of the key says that the value of an option is
spread over several parameters.
-/

namespace TraceScope.Reference

/-! ### Bytes -/

def bytesOf (cs : List Char) : List Nat := (cs.flatMap String.utf8EncodeChar).map UInt8.toNat

def replacement : Char := Char.ofNat 0xfffd

/-- The characters of bytes. `code` is what is known of a character that is still asking for bytes
of these ranges. A byte out of range ends it and starts anew. -/
def decodeLossy (code : Nat) : List (Nat × Nat) → List Nat → List Char
  | [], [] => []
  | _ :: _, [] => [replacement]
  | asked, b :: rest =>
    let fresh := match Text.leadOf? b with
      | some (n, []) => Char.ofNat n :: decodeLossy 0 [] rest
      | some (n, ranges) => decodeLossy n ranges rest
      | none => replacement :: decodeLossy 0 [] rest
    match asked with
    | [] => fresh
    | (low, high) :: ranges =>
      if low ≤ b ∧ b ≤ high then
        let code := code * 64 + b % 64
        if ranges.isEmpty then Char.ofNat code :: decodeLossy 0 [] rest
        else decodeLossy code ranges rest
      else replacement :: fresh

def ofUtf8 (bytes : List Nat) : List Char := decodeLossy 0 [] bytes

structure Parameter where
  key : List Char
  value : List Char

def lowered (cs : List Char) : List Char := cs.flatMap Text.lowerChar

namespace Parameter

/-! ### Reading -/

/-- The characters that keys and values may have outside quotes. -/
def isTokenChar (c : Char) : Bool :=
  c.isAlphanum || "_!#$%&*+-.^|~".toList.contains c || c = Text.apostrophe || c = Char.ofNat 0x60

/-- The number of characters up to the end of a quotation; a backslash takes the next one along. -/
def quotationLength : List Char → Option Nat
  | '\\' :: _ :: rest => (quotationLength rest).map (· + 2)
  | c :: rest => if c = Text.quotationMark then some 1 else (quotationLength rest).map (· + 1)
  | [] => none

/-- A parameter, if a text starts with one, and the number of characters that were passed. Nothing
is told of a text whose quotation does not end. -/
def lead? (cs : List Char) : Option (Option Parameter × Nat) :=
  let key := cs.takeWhile isTokenChar
  match key, cs.drop key.length with
  | [], _ => some (none, 0)
  | key, '=' :: value =>
    match value.takeWhile isTokenChar, value with
    | [], c :: rest =>
      if c = Text.quotationMark then
        (quotationLength rest).map fun n =>
          (some ⟨lowered key, c :: rest.take n⟩, key.length + n + 2)
      else some (none, key.length + 1)
    | [], [] => some (none, key.length + 1)
    | token, _ => some (some ⟨lowered key, token⟩, key.length + 1)
  | _, _ => some (none, 0)

def listOf (cs : List Char) : List Parameter :=
  match lead? cs with
  | none => []
  | some (found, passed) =>
    match _split : splitAtFirst ';' (cs.drop passed) with
    | some (_, next) => found.toList ++ listOf (next.dropWhile Text.isInlineBlank)
    | none => found.toList
termination_by cs.length
decreasing_by
  have hs := congrArg List.length (eq_append_of_splitAtFirst _split)
  have hd := (next.dropWhile_sublist Text.isInlineBlank).length_le
  simp only [List.length_drop, List.length_append, List.length_cons] at hs
  omega

/-! ### Values -/

/-- A quoted text as it was meant: a backslash stands before a character that means itself. -/
def unescape : List Char → List Char
  | '\\' :: c :: rest => c :: unescape rest
  | c :: rest => c :: unescape rest
  | [] => []

def unescapeQuotes : List Char → List Char
  | '%' :: '2' :: '2' :: rest => Text.quotationMark :: unescapeQuotes rest
  | c :: rest => c :: unescapeQuotes rest
  | [] => []

/-- A value as it was meant, without the quotes around it. -/
def plainValue (value : List Char) : List Char :=
  unescapeQuotes <|
    if value.head? = some Text.quotationMark then unescape (value.drop 1).dropLast else value

/-- The bytes of a text in which some are written as two hexadecimal digits after a percent sign. -/
def percentBytes : List Char → List Nat
  | '%' :: a :: b :: rest =>
    match Text.hexNumber? [a, b] with
    | some n => n :: percentBytes rest
    | none => '%'.toNat :: percentBytes (a :: b :: rest)
  | c :: rest => c.toNat :: percentBytes rest
  | [] => []

/-- The characters of bytes in an encoding that goes by this name, if it is one of a few. -/
def decodeAs? (charset : List Char) (bytes : List Nat) : Option (List Char) :=
  let narrow := fun limit => bytes.map fun b => if b < limit then Char.ofNat b else replacement
  match String.ofList charset with
  | "utf-8" => some (ofUtf8 bytes)
  | "ascii" | "us-ascii" => some (narrow 128)
  | "iso-8859-1" => some (narrow 256)
  | _ => none

def isAscii (c : Char) : Bool := c.toNat < 128

/-- A percent-encoded text as it was meant. Characters beyond ASCII stand for themselves, and so
does everything if the encoding is unknown. -/
def percentDecode (charset value : List Char) : List Char :=
  (value.splitBy fun a b => isAscii a == isAscii b).flatMap fun run =>
    if run.all isAscii then (decodeAs? charset (percentBytes run)).getD run else run

/-- The name of an encoding and the value in it, if a value tells them: two apostrophes, with the
name of a language between them, part the one from the other. -/
def charsetValue? (value : List Char) : Option (List Char × List Char) :=
  match splitAtFirst Text.apostrophe value with
  | none => none
  | some (charset, rest) =>
    match splitAtFirst Text.apostrophe rest with
    | none => none
    | some (language, rest) =>
      let value := rest.takeWhile isTokenChar
      if charset.all isTokenChar && language.all isTokenChar && !value.isEmpty then
        some (lowered charset, value)
      else none

/-- The encoding of a percent-encoded value and what was meant by it. One that names no encoding is
in the encoding of the value that it continues. -/
def encodedValue (continued value : List Char) : List Char × List Char :=
  let (named, value) := (charsetValue? value).getD ([], value)
  let charset := if named.isEmpty then continued else named
  (charset, percentDecode charset value)

end Parameter

/-! ### Options -/

/-- The options that parameters make up. The parameter that comes next may continue the value of the
last one, which is in the encoding `charset` as far as it is percent-encoded. -/
structure HeaderOptions where
  table : Table (List Char) (List Char) := {}
  continued : Option (List Char) := none
  charset : List Char := []

namespace HeaderOptions

/-- The key of the option that a parameter belongs to, and whether it is one of several that make up
its value. -/
def keyOf (key : List Char) : List Char × Bool :=
  let number := key.reverse.takeWhile Char.isDigit
  match number, key.reverse.drop number.length with
  | _ :: _, '*' :: rest => (rest.reverse, true)
  | _, _ => (key, false)

/-- Takes a parameter. Its value is put to that of the parameter before if that one was numbered
too and belongs to the same option; otherwise it takes the place of any other value. -/
def add (o : HeaderOptions) (p : Parameter) : HeaderOptions :=
  let starred := p.key.getLast? = some '*'
  let (key, numbered) := keyOf (if starred then p.key.dropLast else p.key)
  let continues := numbered && o.continued = some key
  let former := if continues then (o.table.get? key).getD [] else []
  let charset := if continues then o.charset else []
  let (charset, value) :=
    if starred then Parameter.encodedValue charset p.value
    else (charset, Parameter.plainValue p.value)
  { table := o.table.insert key (former ++ value)
    continued := if numbered then some key else none
    charset }

/-- The options of a header value. One that has nothing before its parameters is not taken. -/
def ofHeader (value : List Char) : HeaderOptions :=
  match splitAtFirst ';' value with
  | some (main, rest) =>
    if (Text.trimInline main).isEmpty then {}
    else (Parameter.listOf (Text.trimInline rest)).foldl add {}
  | none => {}

def get? (o : HeaderOptions) (name : String) : Option (List Char) := o.table.get? name.toList

end HeaderOptions

end TraceScope.Reference
