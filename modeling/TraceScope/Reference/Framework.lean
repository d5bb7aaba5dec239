import TraceScope.Reference.Items
import TraceScope.Reference.Multipart
import TraceScope.Reference.PlainName
import TraceScope.Web.Segments
import TraceScope.Web.Upload

/-!
# A framework

One framework to try the surfaces with: how requests arrive as they were sent, and how answers are
presented.
-/

namespace TraceScope

namespace Value

mutual

def decimalsAsText : Value → Value
  | decimal x => text x.text
  | list items => list (itemsAsText items)
  | object members => object (membersAsText members)
  | v => v

def itemsAsText : List Value → List Value
  | [] => []
  | v :: rest => decimalsAsText v :: itemsAsText rest

def membersAsText : List (Text × Value) → List (Text × Value)
  | [] => []
  | (name, v) :: rest => (name, decimalsAsText v) :: membersAsText rest

end

end Value

namespace Reference

/-- Presents a value as JSON, decimals as texts. -/
def jsonify (v : Value) : Except Fault Value :=
  if v.isWritable then .ok v.decimalsAsText else .error .longInteger

def server (stack : Stack) : Server := { stack, items, jsonify, plainName }

/-! ### Posted documents -/

/-- The media type of a content type: what stands before the parameters, without the blanks around
it, in lower case. -/
def mediaType (contentType : String) : Text :=
  (Text.ofChars (Text.trimInline (contentType.toList.takeWhile (· ≠ ';')))).lower

/-- Whether a content type is JSON: the media type itself, or an application type that ends in
it. -/
def isJsonType (contentType : String) : Bool :=
  let media := mediaType contentType
  media = "application/json" ||
    ((Text.ofString "application/").letters.isPrefixOf media.letters &&
      (Text.ofString "+json").letters.isSuffixOf media.letters)

/-- What is not JSON counts as null, but one that is nested too deeply is not dealt with. -/
def payload (stack : Stack) (contentType body : String) : Received Value :=
  if isJsonType contentType then
    match Json.readBytes stack body.toUTF8 with
    | .ok payload => .handed payload
    | .error (.tooDeep _) => .refused 500
    | .error _ => .handed .null
  else .handed .null

/-- Sends a text with its content type. What is not JSON is not read. A line end in the content type
would end its header, so nothing is sent then. -/
def posting (stack : Stack) (contentType body : String) : Except Fault (Incoming Value) :=
  if contentType.toList.any fun c => c = '\r' || c = '\n' then .error .lineEndInHeader
  else .ok {
    contentLength := if isJsonType contentType then body.utf8ByteSize else 0
    received := payload stack contentType body }

/-! ### Forms -/

def partLimit : Nat := 1000

def fieldLimit : Nat := 500000

def isTooLarge (arrivals : List Arrival) : Bool :=
  partLimit < arrivals.length ||
    arrivals.any fun a => a.fileName.isNone && fieldLimit < a.byteCount

def formOf (arrivals : List Arrival) : Form where
  files := arrivals.filterMap fun a =>
    match a.name, a.fileName with
    | some name, some fileName => some (name, ⟨fileName, a.content.toUTF8⟩)
    | _, _ => none
  fields := arrivals.filterMap fun a =>
    match a.name, a.fileName with
    | some name, none => some (name, a.content)
    | _, _ => none

def form (parts : List Part) : Incoming Form :=
  let arrivals := parts.map Part.arrive
  { contentLength := parts.foldl (fun n p => n + (Multipart.wireText p).length) 0
    received := if isTooLarge arrivals then .refused 413 else .handed (formOf arrivals) }

end Reference

end TraceScope
