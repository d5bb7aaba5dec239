import TraceScope.Text

/-!
# Blanks

The characters that count as white space at the ends of a text.
-/

namespace TraceScope.Text

/-- White space, including the separators of lines, files and groups. -/
def isBlank (c : Char) : Bool :=
  let n := c.toNat
  (9 ≤ n && n ≤ 13) || (28 ≤ n && n ≤ 32) || n = 0x85 || n = 0xa0 || n = 0x1680 ||
    (0x2000 ≤ n && n ≤ 0x200a) || n = 0x2028 || n = 0x2029 || n = 0x202f || n = 0x205f || n = 0x3000

/-- The blanks that may stand within a line of a message. -/
def isInlineBlank (c : Char) : Bool := c = ' ' || c = '\t'

def trimInline (cs : List Char) : List Char :=
  ((cs.dropWhile isInlineBlank).reverse.dropWhile isInlineBlank).reverse

def trimLetters (ls : List Letter) : List Letter :=
  let blank := Letter.isIn isBlank
  ((ls.dropWhile blank).reverse.dropWhile blank).reverse

def trim (t : Text) : Text := ⟨trimLetters t.letters⟩

end TraceScope.Text
