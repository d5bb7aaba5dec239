/-!
# Texts

A text is a sequence of letters. A letter is a character, or half of a pair of surrogates that
stands alone: documents can spell such halves with escapes, and a text keeps them.
-/

namespace TraceScope

/-- A character, or half of a pair of surrogates, counted from the first one. -/
inductive Letter
  | char (c : Char)
  | half (n : Fin 0x800)
  deriving DecidableEq, Repr, Inhabited

namespace Letter

instance : Coe Char Letter := ⟨char⟩

/-- The code point of the first half of a pair. -/
def firstHalf : Nat := 0xd800

def code : Letter → Nat
  | char c => c.toNat
  | half n => firstHalf + n

def ofCode (n : Nat) : Letter :=
  if h : firstHalf ≤ n ∧ n < firstHalf + 0x800 then half ⟨n - firstHalf, by omega⟩
  else char (Char.ofNat n)

/-- Whether a letter is a character of a class. Halves of pairs belong to none. -/
def isIn (p : Char → Bool) : Letter → Bool
  | char c => p c
  | half _ => false

/-- The character that is shown for a letter where only characters can be. -/
def shown : Letter → Char
  | char c => c
  | half _ => Char.ofNat 0xfffd

@[simp] theorem code_char (c : Char) : (char c).code = c.toNat := rfl

@[simp] theorem isIn_char (p : Char → Bool) (c : Char) : (char c).isIn p = p c := rfl

/-- Each letter is that of its code point. -/
theorem ofCode_code (l : Letter) : ofCode l.code = l := by
  cases l with
  | char c =>
    have h : ¬(firstHalf ≤ c.toNat ∧ c.toNat < firstHalf + 0x800) := by
      have := c.valid
      simp only [UInt32.isValidChar, Nat.isValidChar] at this
      simp only [firstHalf, Char.toNat]
      omega
    simp [ofCode, h]
  | half n => simp [ofCode, code]

end Letter

/-- A sequence of letters. -/
structure Text where
  letters : List Letter := []
  deriving DecidableEq, Repr, Inhabited

namespace Text

def ofChars (cs : List Char) : Text := ⟨cs.map .char⟩

def ofString (s : String) : Text := ofChars s.toList

instance : Coe String Text := ⟨ofString⟩

instance : Append Text := ⟨fun a b => ⟨a.letters ++ b.letters⟩⟩

def length (t : Text) : Nat := t.letters.length

/-- Whether there are no letters. -/
def isEmpty (t : Text) : Bool := t.letters.isEmpty

def intercalate (separator : Text) (parts : List Text) : Text :=
  ⟨separator.letters.intercalate (parts.map letters)⟩

/-- The text as a string, where halves of pairs cannot be told apart. -/
def shown (t : Text) : String := String.ofList (t.letters.map Letter.shown)

@[simp] theorem letters_append (a b : Text) : (a ++ b).letters = a.letters ++ b.letters := rfl

theorem append_assoc (a b c : Text) : a ++ b ++ c = a ++ (b ++ c) := by
  simp only [HAppend.hAppend, Append.append]
  exact congrArg Text.mk (List.append_assoc ..)

/-- Characters are shown as they are. -/
theorem shown_ofChars (cs : List Char) : (ofChars cs).shown = String.ofList cs := by
  simp [shown, ofChars, Function.comp_def, Letter.shown]

/-- A string is shown as it is. -/
theorem shown_ofString (s : String) : (ofString s).shown = s := by
  rw [ofString, shown_ofChars, String.ofList_toList]

end Text

end TraceScope
