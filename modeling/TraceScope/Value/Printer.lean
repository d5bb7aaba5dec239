import TraceScope.Value
import TraceScope.Numeric.Integer
import TraceScope.Numeric.Shortest
import TraceScope.Text.Quoted

/-!
# Values in messages

`quoted` writes a value so that its shape shows: texts stand between quotes, decimals are marked
as such. `display` writes a text as it is and everything else quoted.
-/

namespace TraceScope.Value

mutual

def quoted : Value → Text
  | null => "None"
  | bool b => (if b then "True" else "False" : String)
  | int n => Integer.text n
  | double x => x.text
  | decimal x => "Decimal('" ++ x.text ++ "')"
  | text t => t.quoted
  | list items => "[" ++ quotedItems items ++ "]"
  | object members => "\x7b" ++ quotedMembers members ++ "\x7d"

def quotedItems : List Value → Text
  | [] => ""
  | [v] => quoted v
  | v :: rest => quoted v ++ (", " ++ quotedItems rest)

def quotedMembers : List (Text × Value) → Text
  | [] => ""
  | [(name, v)] => name.quoted ++ ": " ++ quoted v
  | (name, v) :: rest => name.quoted ++ ": " ++ (quoted v ++ (", " ++ quotedMembers rest))

end

def display : Value → Text
  | text t => t
  | decimal x => x.text
  | v => quoted v

@[simp] theorem display_text (t : Text) : display (text t) = t := rfl

end TraceScope.Value
