import TraceScope.Edge.Column
import TraceScope.Text.Encoding
import TraceScope.Value.Printer

/-!
# Faults

Everything that can go wrong, by cause. A fault carries what its message tells; the wording is in
`Fault.detail` alone. Faults fall into kinds, and the kind decides who handles them: a value that
is missing, of the wrong shape or out of its domain makes a document malformed, while other
kinds pass through.
-/

namespace TraceScope

/-- A search in the inventory, with the key it was made with. -/
inductive Lookup
  | service (id : Value)
  | serviceAt (address : Value)
  | serviceInstance (id : Value)
  | serviceInstanceAt (service address : Value)
  | endpoint (id : Value)

namespace Lookup

def scope : Lookup → String
  | service _ => "service"
  | serviceAt _ => "service for network address"
  | serviceInstance _ => "service instance"
  | serviceInstanceAt _ _ => "service instance for (service, network address)"
  | endpoint _ => "endpoint"

def key : Lookup → Text
  | service id | serviceAt id | serviceInstance id | endpoint id => id.quoted
  | serviceInstanceAt id address => "(" ++ id.quoted ++ ", " ++ address.quoted ++ ")"

def keyParts : Lookup → List Value
  | service id | serviceAt id | serviceInstance id | endpoint id => [id]
  | serviceInstanceAt id address => [id, address]

end Lookup

inductive Document
  | segments
  | inventory
  deriving DecidableEq, Repr

def Document.title : Document → String
  | segments => "Segment"
  | inventory => "Inventory"

/-- What is done with a value that does not allow it. -/
inductive Request
  | get
  | strip
  | items
  deriving DecidableEq, Repr

def Request.name : Request → String
  | get => "get"
  | strip => "strip"
  | items => "items"

inductive Fault
  -- A value is asked for something it does not have.
  | missing (name : Text)
  | notKeyed (kind : String)
  | unsupported (kind : String) (request : Request)
  | notIterable (kind : String)
  | notNumeric (kind : String)
  | badNumeral (literal : Text)
  | longNumeral (digits : Nat)
  | longInteger
  | undefinedInteger
  | infiniteInteger
  | outOfMemory
  | notOneOf (value : Value) (choice : String)
  | tooDeepToTell
  | tooDeepToReport
  | tooDeepToWrite
  | notOrdered (relation left right : String)
  | noLength (kind : String)
  | fractionalCut
  | uncuttable
  | unhashable (kind : String)
  | notWritable (kind : String)
  | notPath (kind : String)
  -- A time lies outside what can be told.
  | undefinedTime
  | unreachableTime
  | unknownDate
  | yearOutOfRange (year : Int)
  | integerTooLarge
  | quotientTooLarge
  -- A text is no document.
  | notJson (document : Document) (file : Text)
  | malformedJson (line column offset : Nat)
  | tooDeep (list : Bool)
  | misencoded (e : Misencoding)
  | decimalOutOfRange
  -- A document is malformed.
  | malformedSegment (cause : Fault)
  | malformedSpan (id : Value) (cause : Fault)
  | malformedEntry (cause : Fault)
  | inventoryNotObject
  -- A configuration is refused.
  | thresholdWithoutColon (entry : Text)
  | thresholdNotNumeric (entry : Text)
  | negativeThreshold (key : Text)
  | lengthNotPositive
  -- Analysis fails.
  | unresolved (lookup : Lookup)
  | incomplete (columns : List Column)
  | notHandled (listener event : String)
  | raised (detail : Text)
  -- A request cannot be sent.
  | lineEndInHeader
  -- Files.
  | noFile (path : Text)
  | isDirectory (path : Text)
  | notDirectory (path : Text)
  | nameTooLong (path : Text)
  | tooManyLinks (path : Text)
  | system (detail : Text)
  | nullInPath
  | halvesInPath (code first last : Nat)

namespace Fault

inductive Kind
  | missingKey
  | wrongType
  | badValue
  | format
  | noAttribute
  | overflow
  | unicode
  | decimal
  | lookup
  | incomplete
  | runtime
  | memory
  | recursion
  | noFile
  | isDirectory
  | notDirectory
  | system
  deriving DecidableEq, Repr

/-- The word that a report puts before the detail of a fault. -/
def Kind.label : Kind → String
  | missingKey => "KeyError"
  | wrongType => "TypeError"
  | badValue => "ValueError"
  | format => "SegmentFormatError"
  | noAttribute => "AttributeError"
  | overflow => "OverflowError"
  | unicode => "UnicodeDecodeError"
  | decimal => "InvalidOperation"
  | lookup => "InventoryLookupError"
  | incomplete => "IncompleteSourceError"
  | runtime => "RuntimeError"
  | memory => "MemoryError"
  | recursion => "RecursionError"
  | noFile => "FileNotFoundError"
  | isDirectory => "IsADirectoryError"
  | notDirectory => "NotADirectoryError"
  | system => "OSError"

def kind : Fault → Kind
  | missing _ => .missingKey
  | notKeyed _ | notIterable _ | notNumeric _ | notOrdered .. | noLength _ | fractionalCut
  | uncuttable | unhashable _ | notWritable _ | notPath _ => .wrongType
  | unsupported .. => .noAttribute
  | badNumeral _ | longNumeral _ | longInteger | undefinedInteger | notOneOf .. | undefinedTime
  | yearOutOfRange _ | malformedJson .. | thresholdWithoutColon _ | thresholdNotNumeric _
  | negativeThreshold _ | lengthNotPositive | notHandled .. | lineEndInHeader | nullInPath
  | halvesInPath .. => .badValue
  | infiniteInteger | unreachableTime | integerTooLarge | quotientTooLarge => .overflow
  | outOfMemory => .memory
  | tooDeep _ | tooDeepToTell | tooDeepToReport | tooDeepToWrite => .recursion
  | unknownDate | nameTooLong _ | tooManyLinks _ | system _ => .system
  | misencoded _ => .unicode
  | decimalOutOfRange => .decimal
  | notJson .. | malformedSegment _ | malformedSpan .. | malformedEntry _ | inventoryNotObject =>
    .format
  | unresolved _ => .lookup
  | incomplete _ => .incomplete
  | raised _ => .runtime
  | noFile _ => .noFile
  | isDirectory _ => .isDirectory
  | notDirectory _ => .notDirectory

def isValueFault (f : Fault) : Bool :=
  match f.kind with
  | .missingKey | .wrongType | .badValue => true
  | _ => false

def digitLimitText (more : String) : String :=
  "Exceeds the limit (4300 digits) for integer string conversion" ++ more ++
    "; use sys.set_int_max_str_digits() to increase the limit"

/-- A detail as running text: a missing name is quoted. -/
def Kind.message (kind : Kind) (detail : Text) : Text :=
  if kind = .missingKey then detail.quoted else detail

/-- A detail with its kind, as it is quoted inside another message. -/
def Kind.report (kind : Kind) (detail : Text) : Text :=
  kind.label ++ "(" ++ detail.quoted ++ ")"

def detail : Fault → Text
  | missing name => name
  | notKeyed "str" => "string indices must be integers, not 'str'"
  | notKeyed "list" => "list indices must be integers or slices, not str"
  | notKeyed kind => "'" ++ kind ++ "' object is not subscriptable"
  | unsupported kind request => "'" ++ kind ++ "' object has no attribute '" ++ request.name ++ "'"
  | notIterable kind => "'" ++ kind ++ "' object is not iterable"
  | notNumeric kind =>
    "int() argument must be a string, a bytes-like object or a real number, not '" ++ kind ++ "'"
  | badNumeral literal =>
    "invalid literal for int() with base 10: " ++ (⟨literal.quoted.letters.take 200⟩ : Text)
  | longNumeral digits => digitLimitText (": value has " ++ Integer.text digits ++ " digits")
  | longInteger => digitLimitText ""
  | undefinedInteger => "cannot convert float NaN to integer"
  | infiniteInteger => "cannot convert float infinity to integer"
  | outOfMemory => ""
  | notOneOf value choice => value.quoted ++ " is not a valid " ++ choice
  | tooDeepToTell => "maximum recursion depth exceeded while getting the repr of an object"
  | tooDeepToReport | tooDeepToWrite => "maximum recursion depth exceeded"
  | notOrdered relation left right =>
    "'" ++ relation ++ "' not supported between instances of '" ++ left ++ "' and '" ++ right ++ "'"
  | noLength kind => "object of type '" ++ kind ++ "' has no len()"
  | fractionalCut => "slice indices must be integers or None or have an __index__ method"
  | uncuttable => "unhashable type: 'slice'"
  | unhashable kind => "unhashable type: '" ++ kind ++ "'"
  | notWritable kind => "Object of type " ++ kind ++ " is not JSON serializable"
  | notPath kind => "expected str, bytes or os.PathLike object, not " ++ kind
  | undefinedTime => "Invalid value NaN (not a number)"
  | unreachableTime => "timestamp out of range for platform time_t"
  | unknownDate => "[Errno 75] Value too large for defined data type"
  | yearOutOfRange year => "year " ++ Integer.text year ++ " is out of range"
  | integerTooLarge => "int too large to convert to float"
  | quotientTooLarge => "integer division result too large for a float"
  | notJson document file => document.title ++ " file '" ++ file ++ "' is not valid JSON"
  | malformedJson line column offset =>
    "Malformed JSON: line " ++ Integer.text line ++ " column " ++ Integer.text column ++
      " (char " ++ Integer.text offset ++ ")"
  | tooDeep list =>
    "maximum recursion depth exceeded while decoding a JSON " ++
      (if list then "array" else "object") ++ " from a unicode string"
  | misencoded e => e.text
  | decimalOutOfRange => "[<class 'decimal.InvalidOperation'>]"
  | malformedSegment cause => "Invalid segment: " ++ cause.kind.report cause.detail
  | malformedSpan id cause =>
    "Invalid span " ++ id.quoted ++ ": " ++ cause.kind.message cause.detail
  | malformedEntry cause => "Invalid inventory entry: " ++ cause.kind.message cause.detail
  | inventoryNotObject => "Inventory document must be a JSON object"
  | thresholdWithoutColon entry =>
    "Invalid threshold entry '" ++ entry ++ "'. Expected 'type:millis'"
  | thresholdNotNumeric entry => "Invalid threshold value in entry '" ++ entry ++ "'"
  | negativeThreshold key => "Threshold for '" ++ key ++ "' must not be negative"
  | lengthNotPositive => "max_slow_sql_length must be positive"
  | unresolved lookup => "No " ++ lookup.scope ++ " registered for " ++ lookup.key
  | incomplete columns =>
    "Source builder is missing " ++ Text.intercalate ", " (columns.map fun c => (c.name : Text)) ++
      " and cannot be converted"
  | notHandled listener event => listener ++ " does not handle " ++ event ++ " events"
  | raised detail => detail
  | lineEndInHeader => "Header values must not contain newline characters."
  | noFile path => "[Errno 2] No such file or directory: " ++ path.quoted
  | isDirectory path => "[Errno 21] Is a directory: " ++ path.quoted
  | notDirectory path => "[Errno 20] Not a directory: " ++ path.quoted
  | nameTooLong path => "[Errno 36] File name too long: " ++ path.quoted
  | tooManyLinks path => "[Errno 40] Too many levels of symbolic links: " ++ path.quoted
  | system detail => detail
  | nullInPath => "embedded null byte"
  | halvesInPath code first last =>
    let place :=
      if first = last then
        "character '" ++ String.ofList (Text.escapeCode code) ++ "' in position " ++
          Integer.text first
      else "characters in position " ++ Integer.text first ++ "-" ++ Integer.text last
    "'utf-8' codec can't encode " ++ place ++ ": surrogates not allowed"

def message (f : Fault) : Text := f.kind.message f.detail

end Fault

end TraceScope
