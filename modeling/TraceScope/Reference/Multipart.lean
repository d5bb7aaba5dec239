import TraceScope.Reference.Parameters

/-!
# Multipart messages

The files and form fields of a request travel as the parts of one message. A part starts with header
lines, which a blank line ends. The first header names the part, and its file if it has one. Names
are put between quotes as they are, so one with quotes, backslashes or line breaks may arrive as
something else: as another name, as no file, or as part of the content.
-/

namespace TraceScope.Reference

structure Part where
  name : String
  fileName : Option String := none
  content : String

/-- A part as it arrives, with the number of bytes that its content travelled as. A name that cannot
be made out is missing, and a part without a name for its file is a form field. -/
structure Arrival where
  name : Option String
  fileName : Option String
  content : String
  byteCount : Nat

namespace Multipart

def lineEnd : List Char := ['\r', '\n']

/-! ### Sending -/

def parameterText (key value : String) : String :=
  "; " ++ key ++ "=" ++ String.ofList [Text.quotationMark] ++ value ++
    String.ofList [Text.quotationMark]

def headerText (p : Part) : String :=
  "Content-Disposition: form-data" ++ parameterText "name" p.name ++
    match p.fileName with
    | some name =>
      parameterText "filename" name ++ "\r\n" ++ "Content-Type: application/octet-stream\r\n"
    | none => "\r\n"

/-- A part as it travels, up to the end of its last line. The blank line before an empty content is
that end. -/
def wireText (p : Part) : List Char :=
  (headerText p).toList ++
    (if p.content.isEmpty then [] else lineEnd ++ p.content.toList) ++ lineEnd

/-! ### Lines -/

/-- What stands before the first blank line, and the rest from the second of the two line ends that
make it. -/
def splitBlankLine : List Char → Option (List Char × List Char)
  | '\r' :: '\n' :: '\r' :: '\n' :: rest => some ([], '\r' :: '\n' :: rest)
  | '\r' :: '\r' :: rest => some ([], '\r' :: rest)
  | '\n' :: '\n' :: rest => some ([], '\n' :: rest)
  | c :: rest => (splitBlankLine rest).map fun r => (c :: r.1, r.2)
  | [] => none

def dropLineEnd : List Char → List Char
  | '\r' :: '\n' :: rest | '\r' :: rest | '\n' :: rest => rest
  | cs => cs

/-- The text with continued headers on one line. A header continues where a line starts with a
blank. -/
def unfoldLines : List Char → List Char
  | '\r' :: '\n' :: c :: rest =>
    if Text.isInlineBlank c then ' ' :: unfoldLines rest
    else '\r' :: '\n' :: unfoldLines (c :: rest)
  | a :: c :: rest =>
    if (a = '\r' ∨ a = '\n') ∧ Text.isInlineBlank c then ' ' :: unfoldLines rest
    else a :: unfoldLines (c :: rest)
  | cs => cs

/-- The lines of a text. An empty line between the two characters of a line end does no harm. -/
def linesOf (cs : List Char) : List (List Char) :=
  (splitAtEach '\n' cs).flatMap (splitAtEach '\r')

/-- The name of a header in lower case, and its value. -/
def headerOf (line : List Char) : List Char × List Char :=
  match splitAtFirst ':' line with
  | some (name, value) => (lowered (Text.trimInline name), Text.trimInline value)
  | none => (lowered (Text.trimInline line), [])

def header? (name : String) (headers : List (List Char × List Char)) : Option (List Char) :=
  (headers.find? fun h => h.1 = name.toList).map (·.2)

/-! ### Arriving -/

/-- A form field in the encoding that its header names, if it is one of a few, or else in UTF-8. -/
def fieldText (headers : List (List Char × List Char)) (bytes : List Nat) : List Char :=
  let named := (header? "content-type" headers).bind fun value =>
    (HeaderOptions.ofHeader value).get? "charset"
  (named.bind fun charset => Parameter.decodeAs? (lowered charset) bytes).getD (ofUtf8 bytes)

end Multipart

def Part.arrive (p : Part) : Arrival :=
  let (head, rest) := (Multipart.splitBlankLine (Multipart.wireText p)).getD ([], [])
  let headers := (Multipart.linesOf (Multipart.unfoldLines head)).map Multipart.headerOf
  let body := Multipart.dropLineEnd rest
  let content := body.take (body.length - Multipart.lineEnd.length)
  let bytes := bytesOf content
  let options := HeaderOptions.ofHeader ((Multipart.header? "content-disposition" headers).getD [])
  let fileName := (options.get? "filename").map String.ofList
  { name := (options.get? "name").map String.ofList
    fileName
    content := String.ofList <|
      if fileName.isSome then content else Multipart.fieldText headers bytes
    byteCount := bytes.length }

end TraceScope.Reference
