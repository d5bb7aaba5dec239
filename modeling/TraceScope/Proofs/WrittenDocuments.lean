import TraceScope.Proofs.Plain
import TraceScope.Proofs.WrittenNumbers
import TraceScope.Proofs.WrittenTexts

/-!
# Documents as they are written

A value that is written to its end is one document, which is read back as that value. A value that
is cut off where something in it cannot be written leaves a list or an object open: what there is of
it is no document.
-/

namespace TraceScope

namespace Value

/-- A text as it is read where it was written. -/
def rereadText (t : Text) : Text := ⟨Json.joined t.letters⟩

mutual

/-- A value as it is read where it was written: two halves of a pair are joined, undefined numbers
are not told apart, and of members with one name the last is taken. -/
def reread : Value → Value
  | double x => double x.reread
  | text t => text (rereadText t)
  | list items => list (rereadItems items)
  | object members => object (Table.ofList (rereadMembers members)).entries
  | v => v

def rereadItems : List Value → List Value
  | [] => []
  | v :: rest => reread v :: rereadItems rest

def rereadMembers : List (Text × Value) → List (Text × Value)
  | [] => []
  | (name, v) :: rest => (rereadText name, reread v) :: rereadMembers rest

end

end Value

namespace Json

variable {m m₁ m₂ : Machine} {c : Char} {cs ds : List Char} {t : Token} {v : Value}

abbrev asWritten : Dialect := .document false none

/-! ### Plain characters -/

/-- Nothing follows that a word or a numeral could go on with. -/
def Ends (ls : List Letter) : Prop := spanPlain ls = []

theorem ends_nil : Ends [] := rfl

theorem ends_cons (other : isPlainChar c = false) (ls : List Letter) : Ends (.char c :: ls) := by
  unfold Ends spanPlain
  rw [if_neg (Bool.eq_false_iff.mp other)]

/-- A word or a numeral does not go on with these characters, nor after them if there are none. -/
def Stops (cs : List Char) : Prop := ∀ rest, Ends rest → Ends (cs.map .char ++ rest)

theorem stops_nil : Stops [] := fun _ ends => ends

theorem stops_cons (other : isPlainChar c = false) (cs : List Char) : Stops (c :: cs) :=
  fun _ _ => ends_cons other _

theorem spanPlain_chars (plain : ∀ c ∈ cs, isPlainChar c = true) {rest : List Letter}
    (ends : Ends rest) : spanPlain (cs.map .char ++ rest) = cs := by
  induction cs with
  | nil => exact ends
  | cons c cs ih =>
    rw [List.map_cons, List.cons_append, spanPlain, if_pos (plain c List.mem_cons_self),
      ih fun d member => plain d (List.mem_cons_of_mem c member)]

theorem ne_of_plain {d : Char} (plain : isPlainChar c = true) (other : isPlainChar d = false) :
    c ≠ d := by
  rintro rfl
  rw [plain] at other
  cases other

theorem letter_ne_of_plain {d : Char} (plain : isPlainChar c = true)
    (other : isPlainChar d = false) : (Letter.char c) ≠ .char d :=
  fun same => ne_of_plain plain other (Letter.char.inj same)

theorem token?_plain (words : List (String × Value)) (strict : Bool) (some : cs ≠ [])
    (plain : ∀ c ∈ cs, isPlainChar c = true) {rest : List Letter} (ends : Ends rest) :
    token? words strict (cs.map .char ++ rest) = plain? words strict cs := by
  have spanned := spanPlain_chars plain ends
  obtain ⟨c, cs, rfl⟩ := List.exists_cons_of_ne_nil some
  have first := plain c List.mem_cons_self
  have noMark : mark? (.char c) = none := by
    unfold mark?
    rw [if_neg (letter_ne_of_plain first rfl), if_neg (letter_ne_of_plain first rfl),
      if_neg (letter_ne_of_plain first rfl), if_neg (letter_ne_of_plain first rfl),
      if_neg (letter_ne_of_plain first rfl), if_neg (letter_ne_of_plain first rfl)]
  have noQuote : isQuote (.char c) = false := decide_eq_false (letter_ne_of_plain first rfl)
  rw [List.map_cons, List.cons_append] at spanned ⊢
  unfold token?
  dsimp only
  rw [noMark, noQuote, spanned]
  rfl

/-! ### Lexemes -/

namespace Machine

/-- Whatever follows, these characters take a machine from one state to another. -/
def Takes (m : Machine) (cs : List Char) (m' : Machine) : Prop :=
  ∀ rest, run asWritten m 0 (cs.map .char ++ rest) = run asWritten m' 0 rest

/-- These characters do so if nothing follows that a word or a numeral could go on with. -/
def TakesLast (m : Machine) (cs : List Char) (m' : Machine) : Prop :=
  ∀ rest, Ends rest →
    run asWritten m 0 (cs.map .char ++ rest) = run asWritten m' 0 rest

/-- These characters end while more is expected. -/
def Breaks (m : Machine) (cs : List Char) : Prop :=
  ∃ m' : Machine, m'.expects ≠ .nothing ∧
    run asWritten m 0 (cs.map .char) = run asWritten m' 0 []

theorem Takes.last (takes : m.Takes cs m₁) : m.TakesLast cs m₁ := fun rest _ => takes rest

theorem takes_nil (m : Machine) : m.Takes [] m := fun _ => rfl

theorem Takes.then (first : m.Takes cs m₁) (second : m₁.Takes ds m₂) : m.Takes (cs ++ ds) m₂ := by
  intro rest
  rw [List.map_append, List.append_assoc, first, second]

theorem Takes.thenLast (first : m.Takes cs m₁) (second : m₁.TakesLast ds m₂) :
    m.TakesLast (cs ++ ds) m₂ := by
  intro rest ends
  rw [List.map_append, List.append_assoc, first, second rest ends]

theorem TakesLast.then (first : m.TakesLast cs m₁) (second : m₁.TakesLast ds m₂)
    (stops : Stops ds) : m.TakesLast (cs ++ ds) m₂ := by
  intro rest ends
  rw [List.map_append, List.append_assoc, first _ (stops rest ends), second rest ends]

theorem breaks_nil (more : m.expects ≠ .nothing) : m.Breaks [] := ⟨m, more, rfl⟩

theorem Takes.breaks (first : m.Takes cs m₁) (second : m₁.Breaks ds) : m.Breaks (cs ++ ds) := by
  obtain ⟨m', more, same⟩ := second
  exact ⟨m', more, by rw [List.map_append, first, same]⟩

theorem TakesLast.breaks (first : m.TakesLast cs m₁) (second : m₁.Breaks ds) (stops : Stops ds) :
    m.Breaks (cs ++ ds) := by
  obtain ⟨m', more, same⟩ := second
  have ends := stops [] ends_nil
  rw [List.append_nil] at ends
  exact ⟨m', more, by rw [List.map_append, first _ ends, same]⟩

theorem run_skip (d : Dialect) (m : Machine) (ls rest : List Letter) :
    run d m ls.length (ls ++ rest) = run d m 0 rest := by
  induction ls with
  | nil => rfl
  | cons l ls ih =>
    rw [List.length_cons, List.cons_append, run.eq_def]
    exact ih

theorem run_token {rest : List Letter} (inked : asWritten.isBlank c = false)
    (known : token? asWritten.words false ((c :: cs).map .char ++ rest) =
      some (t, (c :: cs).length))
    (taken : m.step asWritten t = .ok m₁) :
    run asWritten m 0 ((c :: cs).map .char ++ rest) = run asWritten m₁ 0 rest := by
  have blank : ¬(Letter.char c).isIn asWritten.isBlank = true := by
    rw [Letter.isIn_char, inked]
    exact Bool.false_ne_true
  rw [List.map_cons, List.cons_append] at known ⊢
  rw [run, if_neg blank]
  have stays : (asWritten.mayRemain (.char c :: (cs.map .char ++ rest))) = false := rfl
  rw [stays, Bool.and_false, if_neg Bool.false_ne_true]
  have known : token? asWritten.words asWritten.strictNumerals
      (.char c :: (cs.map .char ++ rest)) = some (t, (c :: cs).length) := known
  rw [known]
  dsimp only
  rw [taken]
  dsimp only
  rw [List.length_cons, Nat.add_sub_cancel, ← List.length_map Letter.char]
  exact run_skip _ _ _ _

theorem takes_blanks (blank : ∀ c ∈ cs, asWritten.isBlank c = true) (m : Machine) :
    m.Takes cs m := by
  intro rest
  induction cs with
  | nil => rfl
  | cons c cs ih =>
    have here : (Letter.char c).isIn asWritten.isBlank = true :=
      blank c List.mem_cons_self
    rw [List.map_cons, List.cons_append, run, if_pos here]
    exact ih fun d member => blank d (List.mem_cons_of_mem c member)

/-- A mark is taken whatever follows it. -/
theorem takes_mark (inked : asWritten.isBlank c = false)
    (mark : mark? (.char c) = some t) (taken : m.step asWritten t = .ok m₁) :
    m.Takes [c] m₁ := by
  intro rest
  refine run_token inked ?_ taken
  rw [List.map_cons, List.cons_append, token?, mark]
  rfl

theorem takes_string {raw : List Char} {sps : List Spelling} (spells : Spells raw sps)
    (taken : m.step asWritten (.string (raw.map .char)) = .ok m₁) :
    m.Takes (Text.quotationMark :: raw ++ [Text.quotationMark]) m₁ := by
  intro rest
  refine run_token rfl ?_ taken
  have spanned := spells.spanString [] rest
  have written : (Text.quotationMark :: raw ++ [Text.quotationMark]).map Letter.char ++ rest =
      .char Text.quotationMark :: (raw.map .char ++ .char Text.quotationMark :: rest) := by
    simp
  change token? _ _
    ((Text.quotationMark :: raw ++ [Text.quotationMark]).map Letter.char ++ rest) = _
  rw [written]
  change (spanString [] false _).map (fun raw => (Token.string raw, raw.length + 2)) = _
  rw [spanned]
  simp

/-- A word or a numeral is taken unless it goes on. -/
theorem takesLast_plain (some : cs ≠ []) (plain : ∀ c ∈ cs, isPlainChar c = true)
    (known : plain? asWritten.words false cs = Option.some (t, cs.length))
    (taken : m.step asWritten t = .ok m₁) : m.TakesLast cs m₁ := by
  intro rest ends
  have token := token?_plain asWritten.words false some plain ends
  obtain ⟨c, cs, rfl⟩ := List.exists_cons_of_ne_nil some
  have first := plain c List.mem_cons_self
  have inked : asWritten.isBlank c = false := by
    simp only [asWritten, Dialect.document, Bool.or_eq_false_iff, decide_eq_false_iff_not]
    exact ⟨⟨⟨ne_of_plain first rfl, ne_of_plain first rfl⟩, ne_of_plain first rfl⟩,
      ne_of_plain first rfl⟩
  exact run_token inked (token.trans known) taken

end Machine

/-! ### Numerals and words -/

theorem isPlainChar_digit (digit : c.isDigit = true) : isPlainChar c = true := by
  unfold isPlainChar Char.isAlphanum
  rw [digit, Bool.or_true]
  rfl

namespace Numeral

variable {n : Numeral}

theorem Proper.plain (proper : n.Proper) : ∀ c ∈ n.chars, isPlainChar c = true := by
  intro c member
  simp only [chars, List.mem_append] at member
  rcases member with sign | whole | fraction | exponent
  · split at sign
    · rw [List.mem_singleton.mp sign]
      rfl
    · cases sign
  · exact isPlainChar_digit (proper.whole.digits c whole)
  · cases known : n.fraction with
    | none => rw [known] at fraction; cases fraction
    | some ds =>
      rw [known] at fraction
      rcases List.mem_cons.mp fraction with rfl | digit
      · rfl
      · exact isPlainChar_digit ((proper.fraction ds known).2 c digit)
  · cases known : n.exponent with
    | none => rw [known] at exponent; cases exponent
    | some x =>
      obtain ⟨signed, _, digits⟩ := proper.exponent x known
      rw [known] at exponent
      rcases List.mem_cons.mp exponent with rfl | later
      · rfl
      · rcases List.mem_append.mp later with sign | digit
        · rcases signed with same | same | same
          · rw [same, List.mem_singleton] at sign
            rw [sign]
            rfl
          · rw [same, List.mem_singleton] at sign
            rw [sign]
            rfl
          · rw [same] at sign
            cases sign
        · exact isPlainChar_digit (digits c digit)

/-- A numeral starts with a digit, or with a minus and a digit. -/
theorem Proper.start (proper : n.Proper) : ∃ c cs, c.isDigit = true ∧
    (n.chars = c :: cs ∨ n.chars = '-' :: c :: cs) := by
  obtain ⟨c, cs, same⟩ := List.exists_cons_of_ne_nil proper.whole.nonempty
  have digit : c.isDigit = true := proper.whole.digits c (same ▸ List.mem_cons_self)
  unfold chars
  rw [same]
  cases n.negative with
  | true => exact ⟨c, _, digit, Or.inr rfl⟩
  | false => exact ⟨c, _, digit, Or.inl rfl⟩

/-- No word starts like a numeral. -/
theorem Proper.no_word (proper : n.Proper) :
    word? asWritten.words n.chars = none := by
  obtain ⟨c, cs, digit, start⟩ := proper.start
  have other : ∀ {d : Char}, d.isDigit = false → d ≠ c := fun letter =>
    (Integer.ne_of_digit digit letter).symm
  unfold word?
  rw [Option.map_eq_none_iff, List.find?_eq_none]
  intro w member
  simp only [asWritten, Dialect.document, standardWords, List.cons_append, List.nil_append,
    List.mem_cons, List.not_mem_nil, or_false] at member
  rcases start with start | start
  · rw [start]
    rcases member with rfl | rfl | rfl | rfl | rfl | rfl <;>
      simpa using fun same => absurd same (other rfl)
  · rw [start]
    rcases member with rfl | rfl | rfl | rfl | rfl | rfl <;>
      simp [other (d := 'I') rfl]

theorem Proper.plain? (proper : n.Proper) :
    Json.plain? asWritten.words false n.chars = some (.numeral n, n.chars.length) := by
  unfold Json.plain?
  rw [proper.no_word, spanNumeral_chars proper, Numeral.length_chars]
  rfl

theorem Proper.nonempty (proper : n.Proper) : n.chars ≠ [] := by
  obtain ⟨c, cs, _, start | start⟩ := proper.start
  · exact start ▸ List.cons_ne_nil _ _
  · exact start ▸ List.cons_ne_nil _ _

end Numeral

namespace Machine

/-- A value can come next. -/
def Awaits (m : Machine) : Prop := m.expects = .value ∨ m.expects = .firstItem

theorem Awaits.more (awaits : m.Awaits) : m.expects ≠ .nothing := by
  rcases awaits with here | here <;> rw [here] <;> exact nofun

theorem Awaits.step (awaits : m.Awaits) (t : Token) (other : t ≠ .closeList) (d : Dialect) :
    m.step d t = m.startValue d t := by
  unfold Machine.step
  rcases awaits with here | here
  · rw [here]
  · rw [here]
    cases t with
    | closeList => exact absurd rfl other
    | _ => rfl

theorem Awaits.takes_numeral (awaits : m.Awaits) {n : Numeral} (proper : n.Proper)
    (known : documentNumber false n = .ok v) :
    m.TakesLast n.chars (m.accept asWritten v) := by
  refine takesLast_plain proper.nonempty proper.plain proper.plain? ?_
  rw [awaits.step (.numeral n) nofun]
  change ((documentNumber false n).mapError Refusal.failed).map _ = _
  rw [known]
  rfl

theorem Awaits.takes_word (awaits : m.Awaits) (some : cs ≠ [])
    (plain : cs.all isPlainChar = true)
    (known : plain? asWritten.words false cs = Option.some (.word v, cs.length)) :
    m.TakesLast cs (m.accept asWritten v) := by
  refine takesLast_plain some (List.all_eq_true.mp plain) known ?_
  rw [awaits.step (.word v) nofun]
  rfl

theorem Awaits.takes_text (awaits : m.Awaits) (t : Text) :
    m.Takes (stringLiteral t).toList (m.accept asWritten (.text (Value.rereadText t))) := by
  rw [stringLiteral, String.toList_ofList]
  refine takes_string (spells_letters t.letters) ?_
  rw [awaits.step (.string _) nofun]
  change Except.ok (m.accept _ (.text (stringText _))) = _
  rw [stringText_written]
  rfl

theorem Awaits.takes_double (awaits : m.Awaits) (x : Binary64) :
    m.TakesLast (doubleLiteral x).toList (m.accept asWritten (.double x.reread)) := by
  cases x with
  | nan payload =>
    change m.TakesLast "NaN".toList _
    exact awaits.takes_word (by decide) (by decide) rfl
  | infinite negative =>
    cases negative with
    | true => exact awaits.takes_word (by decide) (by decide) rfl
    | false => exact awaits.takes_word (by decide) (by decide) rfl
  | finite negative mantissa e =>
    obtain ⟨n, proper, broken, written, value⟩ := text_tells negative mantissa e
    have known : documentNumber false n =
        .ok (.double (Binary64.finite negative mantissa e).reread) := by
      rw [documentNumber, broken, if_neg Bool.false_ne_true, value]
    exact written ▸ awaits.takes_numeral proper known

/-- What a scalar is written as is read as that scalar. -/
theorem Awaits.takes_scalar (awaits : m.Awaits) {s : String}
    (known : scalar? v = some (.ok s)) :
    m.TakesLast s.toList (m.accept asWritten v.reread) := by
  cases v with
  | null =>
    cases known
    exact awaits.takes_word (by decide) (by decide) rfl
  | bool b =>
    cases known
    cases b with
    | true => exact awaits.takes_word (by decide) (by decide) rfl
    | false => exact awaits.takes_word (by decide) (by decide) rfl
  | int n =>
    have known := Option.some.inj known
    split at known
    · cases known
      obtain ⟨numeral, proper, whole, written, value⟩ := integer_tells n
      have number : documentNumber false numeral = .ok (.int n) := by
        rw [documentNumber, whole, if_pos rfl, Bool.false_and, if_neg Bool.false_ne_true, value]
      exact written ▸ awaits.takes_numeral proper number
    · cases known
  | double x =>
    cases known
    exact awaits.takes_double x
  | text t =>
    cases known
    exact (awaits.takes_text t).last
  | decimal _ => cases known
  | list _ => cases known
  | object _ => cases known

/-! ### Lists and objects -/

/-- The machine in a list with these items, newest first. -/
def inList (m : Machine) (items : List Value) (e : Expectation) : Machine :=
  { m with opened := .list items :: m.opened, expects := e }

def inObject (m : Machine) (members : List (Text × Value)) (name : Text) (e : Expectation) :
    Machine :=
  { m with opened := .object members name :: m.opened, expects := e }

theorem accept_expects (m : Machine) (e : Expectation) (v : Value) :
    ({ m with expects := e } : Machine).accept asWritten v = m.accept asWritten v := by
  unfold accept
  cases m.opened with
  | nil => rfl
  | cons o opened => cases o <;> rfl

theorem takes_line (level : Nat) (m : Machine) : m.Takes (lineAt level).toList m := by
  apply takes_blanks
  intro c member
  rw [lineAt, String.toList_ofList] at member
  rcases List.mem_cons.mp member with rfl | blank
  · rfl
  · rw [List.eq_of_mem_replicate blank]
    rfl

theorem Awaits.takes_openList (awaits : m.Awaits) : m.Takes ['['] (m.inList [] .firstItem) :=
  takes_mark rfl rfl (awaits.step .openList nofun _)

theorem Awaits.takes_openObject (awaits : m.Awaits) :
    m.Takes ['\x7b'] (m.inObject [] "" .firstName) :=
  takes_mark rfl rfl (awaits.step .openObject nofun _)

theorem takes_closeList (m : Machine) (items : List Value) {e : Expectation}
    (ready : e = .more ∨ e = .firstItem) :
    (m.inList items e).Takes [']'] (m.accept asWritten (.list items.reverse)) := by
  have closed : (m.inList items e).closeList asWritten =
      .ok (m.accept asWritten (.list items.reverse)) :=
    congrArg Except.ok (accept_expects m e _)
  refine takes_mark (t := .closeList) rfl rfl ?_
  rcases ready with rfl | rfl
  · exact closed
  · exact closed

theorem takes_closeObject (m : Machine) (members : List (Text × Value)) (name : Text)
    {e : Expectation} (ready : e = .more ∨ e = .firstName) :
    (m.inObject members name e).Takes ['\x7d']
      (m.accept asWritten (.object (Table.ofList members.reverse).entries)) := by
  have closed : (m.inObject members name e).closeObject asWritten =
      .ok (m.accept asWritten (.object (Table.ofList members.reverse).entries)) :=
    congrArg Except.ok (accept_expects m e _)
  refine takes_mark (t := .closeObject) rfl rfl ?_
  rcases ready with rfl | rfl
  · exact closed
  · exact closed

theorem takes_commaInList (m : Machine) (items : List Value) :
    (m.inList items .more).Takes [','] (m.inList items .value) := takes_mark rfl rfl rfl

theorem takes_commaInObject (m : Machine) (members : List (Text × Value)) (name : Text) :
    (m.inObject members name .more).Takes [','] (m.inObject members name .name) :=
  takes_mark rfl rfl rfl

/-- The name of a member, up to its value. -/
theorem takes_name (m : Machine) (members : List (Text × Value)) (former name : Text)
    {e : Expectation} (ready : e = .name ∨ e = .firstName) :
    (m.inObject members former e).Takes ((stringLiteral name ++ ": ").toList)
      (m.inObject members (Value.rereadText name) .value) := by
  have named : (m.inObject members former e).Takes (stringLiteral name).toList
      (m.inObject members (Value.rereadText name) .colon) := by
    rw [stringLiteral, String.toList_ofList]
    refine takes_string (spells_letters name.letters) ?_
    have set : (m.inObject members former e).startName asWritten
        (.string ((name.letters.flatMap escapeLetter).map .char)) =
          .ok (m.inObject members (Value.rereadText name) .colon) := by
      change Except.ok (m.inObject members (stringText _) .colon) = _
      rw [stringText_written]
      rfl
    rcases ready with rfl | rfl
    · exact set
    · exact set
  have colon : (m.inObject members (Value.rereadText name) .colon).Takes [':', ' ']
      (m.inObject members (Value.rereadText name) .value) :=
    (takes_mark rfl rfl rfl).then
      (takes_blanks (fun c member => by rw [List.mem_singleton.mp member]; rfl) _)
  rw [String.toList_append]
  exact named.then colon

end Machine

/-! ### Writing -/

/-- A step writes these characters, and fails after them with a fault or not. -/
def Writes (step : Step String) (cs : List Char) (f : Option Fault) : Prop :=
  ∀ s, step s = (s ++ String.ofList cs, f)

variable {a b : Step String} {f : Option Fault}

theorem writes_put (s : String) : Writes (put s) s.toList none := fun t => by
  rw [String.ofList_toList]
  rfl

theorem writes_fail (f : Fault) : Writes (.fail f) [] (some f) := fun t =>
  Prod.ext (String.append_empty (s := t)).symm rfl

theorem writes_skip : Writes .skip [] none := fun t =>
  Prod.ext (String.append_empty (s := t)).symm rfl

theorem Writes.andThen (first : Writes a cs none) (second : Writes b ds f) :
    Writes (a.andThen b) (cs ++ ds) f := by
  intro s
  rw [Step.andThen, first]
  dsimp only
  rw [second, String.append_assoc, ← String.ofList_append]

theorem Writes.cut {f : Fault} (first : Writes a cs (some f)) (b : Step String) :
    Writes (a.andThen b) cs (some f) := by
  intro s
  rw [Step.andThen, first]

/-- A step writes a value: what is written to its end is read as the value, and what is cut off
breaks off. -/
def Renders (step : Step String) (v : Value) : Prop :=
  ∃ cs f, Writes step cs f ∧ ∀ m : Machine, m.Awaits →
    (f = none → m.TakesLast cs (m.accept asWritten v)) ∧ (f ≠ none → m.Breaks cs)

/-- A step writes items after what comes before the first of them. -/
def RendersItems (step : Step String) (before : String) (items : List Value) : Prop :=
  ∃ cs f, Writes step cs f ∧ Stops cs ∧
    ∀ (m₀ m : Machine) (former : List Value) (e : Expectation), m₀.expects ≠ .nothing →
      m₀.Takes before.toList (m.inList former e) → (m.inList former e).Awaits →
      (items = [] → m₀ = m.inList former .more) →
      (f = none → m₀.TakesLast cs (m.inList (items.reverse ++ former) .more)) ∧
        (f ≠ none → m₀.Breaks cs)

def RendersMembers (step : Step String) (before : String) (members : List (Text × Value)) : Prop :=
  ∃ cs f, Writes step cs f ∧ Stops cs ∧
    ∀ (m₀ m : Machine) (former : List (Text × Value)) (name : Text) (e : Expectation),
      m₀.Takes before.toList (m.inObject former name e) → e = .name ∨ e = .firstName →
      (members = [] → m₀ = m.inObject former name .more) →
      (f = none → ∃ last, m₀.TakesLast cs (m.inObject (members.reverse ++ former) last .more)) ∧
        (f ≠ none → m₀.Breaks cs)

/-- A text starts with a mark. -/
def Marked (s : String) : Prop := ∃ c cs, s.toList = c :: cs ∧ isPlainChar c = false

theorem Marked.stops {s : String} (marked : Marked s) (cs : List Char) :
    Stops (s.toList ++ cs) := by
  obtain ⟨c, ds, same, other⟩ := marked
  rw [same]
  exact stops_cons other _

theorem marked_append {s : String} (marked : Marked s) (t : String) : Marked (s ++ t) := by
  obtain ⟨c, ds, same, other⟩ := marked
  exact ⟨c, ds ++ t.toList, by rw [String.toList_append, same]; rfl, other⟩

theorem marked_line (level : Nat) : Marked (lineAt level) :=
  ⟨'\n', _, String.toList_ofList, rfl⟩

theorem marked_comma : Marked "," := ⟨',', [], rfl, rfl⟩

theorem renders_scalar {v : Value} {s : String} (known : scalar? v = some (.ok s)) :
    Renders (put s) v.reread :=
  ⟨s.toList, none, writes_put s, fun _ awaits =>
    ⟨fun _ => awaits.takes_scalar known, fun failed => absurd rfl failed⟩⟩

theorem renders_fail (f : Fault) (v : Value) : Renders (.fail f) v :=
  ⟨[], some f, writes_fail f, fun _ awaits =>
    ⟨fun done => absurd done (Option.some_ne_none f), fun _ => Machine.breaks_nil awaits.more⟩⟩

/-- Nothing is written of a list or an object that the stack does not suffice for. -/
theorem Renders.enter {stack : Stack} {level : Nat} {whole v : Value} {step : Step String}
    (renders : Renders step v) : Renders (Json.enter stack level whole step) v := by
  unfold Json.enter
  split
  · exact renders
  · exact renders_fail _ v

/-- An item is written after what comes before it, or neither is written. -/
theorem writeItems_cons (stack : Stack) (level : Nat) (before : String) (v : Value)
    (rest : List Value) :
    (∃ f, writeItems stack level before (v :: rest) =
        (Step.fail f).andThen (writeItems stack level ("," ++ lineAt level) rest)) ∨
      writeItems stack level before (v :: rest) =
        ((put before).andThen (writeAt stack level v)).andThen
          (writeItems stack level ("," ++ lineAt level) rest) := by
  have twice : ∀ s t : String, put (s ++ t) = (put s).andThen (put t) := fun s t => by
    funext u
    exact Prod.ext String.append_assoc.symm rfl
  -- A scalar is written in one piece with what comes before it.
  cases v with
  | int n =>
    by_cases short : Integer.isWritable n = true
    · refine Or.inr ?_
      simp only [writeItems, writeAt, scalar?, short, if_true, twice]
    · refine Or.inl ⟨.longInteger, ?_⟩
      simp only [writeItems, scalar?, short, Bool.false_eq_true, if_false]
  | decimal _ | list _ | object _ => exact Or.inr rfl
  | _ =>
    refine Or.inr ?_
    simp only [writeItems, writeAt, scalar?, twice]

variable {step w later : Step String} {before : String} {level : Nat} {items : List Value}
  {members : List (Text × Value)} {name : Text}

/-- A list is closed on a line of its own once its items are written. -/
theorem RendersItems.list (some : items ≠ [])
    (h : RendersItems step ("[" ++ lineAt (level + 1)) items) :
    Renders (step.andThen ((put (lineAt level)).andThen (put "]"))) (.list items) := by
  obtain ⟨cs, f, writes, _, reads⟩ := h
  have inside : ∀ m : Machine, m.Awaits →
      (f = none → m.TakesLast cs (m.inList (items.reverse ++ []) .more)) ∧
        (f ≠ none → m.Breaks cs) := by
    intro m awaits
    refine reads m m [] .firstItem awaits.more ?_ (.inr rfl) fun none => absurd none some
    rw [String.toList_append]
    exact awaits.takes_openList.then (Machine.takes_line _ _)
  cases f with
  | some f =>
    exact ⟨cs, _, writes.cut _, fun m awaits =>
      ⟨fun done => absurd done (Option.some_ne_none f), (inside m awaits).2⟩⟩
  | none =>
    refine ⟨_, none, writes.andThen ((writes_put _).andThen (writes_put "]")), fun m awaits =>
      ⟨fun _ => ?_, fun failed => absurd rfl failed⟩⟩
    have closed := (Machine.takes_line level _).then
      (m.takes_closeList (items.reverse ++ []) (.inl rfl))
    rw [List.append_nil, List.reverse_reverse] at closed
    have filled := (inside m awaits).1 rfl
    rw [List.append_nil] at filled
    exact filled.then closed.last ((marked_line level).stops _)

theorem RendersItems.nil (before : String) : RendersItems .skip before [] :=
  ⟨[], none, writes_skip, stops_nil, fun m₀ m former e _ _ _ same =>
    ⟨fun _ => by rw [same rfl]; exact (Machine.takes_nil _).last, fun failed => absurd rfl failed⟩⟩

/-- Nothing is written of an item that cannot be written, nor of what comes before it. -/
theorem RendersItems.fail (f : Fault) (later : Step String) (before : String) (items : List Value) :
    RendersItems ((Step.fail f).andThen later) before items :=
  ⟨[], some f, (writes_fail f).cut later, stops_nil, fun _ _ _ _ more _ _ _ =>
    ⟨fun done => absurd done (Option.some_ne_none f), fun _ => Machine.breaks_nil more⟩⟩

theorem RendersItems.cons {v : Value} (marked : Marked before) (first : Renders w v)
    (h : RendersItems later ("," ++ lineAt level) items) :
    RendersItems (((put before).andThen w).andThen later) before (v :: items) := by
  obtain ⟨cs, f, writes, reads⟩ := first
  obtain ⟨ds, g, writes', stops, reads'⟩ := h
  cases f with
  | some f =>
    refine ⟨_, _, ((writes_put before).andThen writes).cut later, marked.stops cs,
      fun m₀ m former e _ opens awaits _ =>
        ⟨fun done => absurd done (Option.some_ne_none f), fun failed => ?_⟩⟩
    exact opens.breaks ((reads _ awaits).2 failed)
  | none =>
    refine ⟨_, g, ((writes_put before).andThen writes).andThen writes', ?_,
      fun m₀ m former e _ opens awaits _ => ?_⟩
    · rw [List.append_assoc]
      exact marked.stops _
    · have taken : m₀.TakesLast (before.toList ++ cs) (m.inList (v :: former) .more) :=
        opens.thenLast ((reads _ awaits).1 rfl)
      have comma : (m.inList (v :: former) .more).Takes ("," ++ lineAt level).toList
          (m.inList (v :: former) .value) := by
        rw [String.toList_append]
        exact (m.takes_commaInList _).then (Machine.takes_line _ _)
      have more : Expectation.more ≠ .nothing := by decide
      obtain ⟨done, cut⟩ := reads' _ m (v :: former) .value more comma (.inl rfl) fun _ => rfl
      rw [List.reverse_cons, List.append_assoc items.reverse]
      exact ⟨fun whole => taken.then (done whole) stops,
        fun failed => taken.breaks (cut failed) stops⟩

/-- An object is closed on a line of its own once its members are written. -/
theorem RendersMembers.object (some : members ≠ [])
    (h : RendersMembers step ("\x7b" ++ lineAt (level + 1)) members) :
    Renders (step.andThen ((put (lineAt level)).andThen (put "\x7d")))
      (.object (Table.ofList members).entries) := by
  obtain ⟨cs, f, writes, _, reads⟩ := h
  have inside : ∀ m : Machine, m.Awaits →
      (f = none → ∃ last, m.TakesLast cs (m.inObject (members.reverse ++ []) last .more)) ∧
        (f ≠ none → m.Breaks cs) := by
    intro m awaits
    refine reads m m [] "" .firstName ?_ (.inr rfl) fun none => absurd none some
    rw [String.toList_append]
    exact awaits.takes_openObject.then (Machine.takes_line _ _)
  cases f with
  | some f =>
    exact ⟨cs, _, writes.cut _, fun m awaits =>
      ⟨fun done => absurd done (Option.some_ne_none f), (inside m awaits).2⟩⟩
  | none =>
    refine ⟨_, none, writes.andThen ((writes_put _).andThen (writes_put "\x7d")), fun m awaits =>
      ⟨fun _ => ?_, fun failed => absurd rfl failed⟩⟩
    obtain ⟨last, filled⟩ := (inside m awaits).1 rfl
    have closed := (Machine.takes_line level _).then
      (m.takes_closeObject (members.reverse ++ []) last (.inl rfl))
    rw [List.append_nil, List.reverse_reverse] at closed
    rw [List.append_nil] at filled
    exact filled.then closed.last ((marked_line level).stops _)

theorem RendersMembers.nil (before : String) : RendersMembers .skip before [] :=
  ⟨[], none, writes_skip, stops_nil, fun m₀ m former name e _ _ same =>
    ⟨fun _ => ⟨name, by rw [same rfl]; exact (Machine.takes_nil _).last⟩,
      fun failed => absurd rfl failed⟩⟩

theorem RendersMembers.cons {v : Value} (marked : Marked before) (first : Renders w v)
    (h : RendersMembers later ("," ++ lineAt level) members) :
    RendersMembers ((put (before ++ stringLiteral name ++ ": ")).andThen (w.andThen later)) before
      ((Value.rereadText name, v) :: members) := by
  obtain ⟨cs, f, writes, reads⟩ := first
  obtain ⟨ds, g, writes', stops, reads'⟩ := h
  have starts : ∀ es, Stops ((before ++ stringLiteral name ++ ": ").toList ++ es) :=
    (marked_append (marked_append marked _) _).stops
  have named : ∀ (m₀ m : Machine) former last e,
      m₀.Takes before.toList (m.inObject former last e) → e = .name ∨ e = .firstName →
        m₀.Takes (before ++ stringLiteral name ++ ": ").toList
          (m.inObject former (Value.rereadText name) .value) := by
    intro m₀ m former last e opens ready
    rw [String.append_assoc, String.toList_append]
    exact opens.then (m.takes_name former last name ready)
  cases f with
  | some f =>
    refine ⟨_, _, (writes_put _).andThen (writes.cut later), starts cs,
      fun m₀ m former last e opens ready _ =>
        ⟨fun done => absurd done (Option.some_ne_none f), fun failed => ?_⟩⟩
    exact (named _ _ _ _ _ opens ready).breaks ((reads _ (.inl rfl)).2 failed)
  | none =>
    refine ⟨_, g, (writes_put _).andThen (writes.andThen writes'), starts _,
      fun m₀ m former last e opens ready _ => ?_⟩
    have taken : m₀.TakesLast ((before ++ stringLiteral name ++ ": ").toList ++ cs)
        (m.inObject ((Value.rereadText name, v) :: former) (Value.rereadText name) .more) :=
      (named _ _ _ _ _ opens ready).thenLast ((reads _ (.inl rfl)).1 rfl)
    have comma : (m.inObject ((Value.rereadText name, v) :: former) (Value.rereadText name)
        .more).Takes ("," ++ lineAt level).toList
          (m.inObject ((Value.rereadText name, v) :: former) (Value.rereadText name) .name) := by
      rw [String.toList_append]
      exact (m.takes_commaInObject _ _).then (Machine.takes_line _ _)
    obtain ⟨done, cut⟩ := reads' _ m _ _ .name comma (.inl rfl) fun _ => rfl
    rw [← List.append_assoc, List.reverse_cons, List.append_assoc members.reverse]
    refine ⟨fun whole => ?_, fun failed => taken.breaks (cut failed) stops⟩
    obtain ⟨last, done⟩ := done whole
    exact ⟨last, taken.then done stops⟩

mutual

theorem writeAt_renders (stack : Stack) (level : Nat) (v : Value) :
    Renders (writeAt stack level v) v.reread := by
  cases v with
  | list items =>
    cases items with
    | nil =>
      refine Renders.enter ⟨['[', ']'], none, writes_put "[]", fun m awaits =>
        ⟨fun _ => ?_, fun failed => absurd rfl failed⟩⟩
      exact (awaits.takes_openList.then (m.takes_closeList [] (.inr rfl))).last
    | cons item rest =>
      exact .enter <| (writeItems_renders stack (level + 1) _
        (marked_append ⟨'[', [], rfl, rfl⟩ _) (item :: rest)).list (List.cons_ne_nil _ _)
  | object members =>
    cases members with
    | nil =>
      refine Renders.enter ⟨['\x7b', '\x7d'], none, writes_put "\x7b\x7d", fun m awaits =>
        ⟨fun _ => ?_, fun failed => absurd rfl failed⟩⟩
      exact (awaits.takes_openObject.then (m.takes_closeObject [] "" (.inr rfl))).last
    | cons m rest =>
      exact .enter <| (writeMembers_renders stack (level + 1) _
        (marked_append ⟨'\x7b', [], rfl, rfl⟩ _) (m :: rest)).object (List.cons_ne_nil _ _)
  | decimal x => exact renders_fail _ _
  | int n =>
    by_cases short : Integer.isWritable n = true
    · have known : scalar? (.int n) = some (.ok (Integer.text n)) := congrArg some (if_pos short)
      have same : writeAt stack level (.int n) = put (Integer.text n) := by
        simp only [writeAt, known]
      rw [same]
      exact renders_scalar known
    · have known : scalar? (.int n) = some (.error .longInteger) := congrArg some (if_neg short)
      have same : writeAt stack level (.int n) = .fail .longInteger := by
        simp only [writeAt, known]
      rw [same]
      exact renders_fail _ _
  | null => exact renders_scalar rfl
  | bool b => exact renders_scalar rfl
  | double x => exact renders_scalar rfl
  | text t => exact renders_scalar rfl

theorem writeItems_renders (stack : Stack) (level : Nat) (before : String) (marked : Marked before)
    (items : List Value) :
    RendersItems (writeItems stack level before items) before (Value.rereadItems items) := by
  cases items with
  | nil => exact .nil before
  | cons v rest =>
    rcases writeItems_cons stack level before v rest with ⟨f, failed⟩ | same
    · rw [failed]
      exact .fail f _ before _
    · rw [same]
      exact .cons marked (writeAt_renders stack level v)
        (writeItems_renders stack level _ (marked_append marked_comma _) rest)

theorem writeMembers_renders (stack : Stack) (level : Nat) (before : String)
    (marked : Marked before) (members : List (Text × Value)) :
    RendersMembers (writeMembers stack level before members) before
      (Value.rereadMembers members) := by
  cases members with
  | nil => exact .nil before
  | cons m rest =>
    obtain ⟨name, v⟩ := m
    exact .cons marked (writeAt_renders stack level v)
      (writeMembers_renders stack level _ (marked_append marked_comma _) rest)

end

/-- What is written of a value is characters that are read as the value, or that break off. -/
theorem write_cases (stack : Stack) (v : Value) :
    (∃ cs, write stack v "" = (String.ofList cs, none) ∧
        Machine.TakesLast {} cs (Machine.accept asWritten v.reread {})) ∨
      ∃ cs f, write stack v "" = (String.ofList cs, some f) ∧ Machine.Breaks {} cs := by
  obtain ⟨cs, f, writes, reads⟩ := writeAt_renders stack 0 v
  have written : write stack v "" = (String.ofList cs, f) :=
    (writes "").trans (by rw [String.empty_append])
  obtain ⟨done, cut⟩ := reads {} (.inl rfl)
  cases f with
  | none => exact Or.inl ⟨cs, written, done rfl⟩
  | some f => exact Or.inr ⟨cs, f, written, cut (Option.some_ne_none f)⟩

/-- A value that is written to its end is read back. -/
theorem read_written {stack : Stack} {text : String} (written : write stack v "" = (text, none)) :
    readUnlimited text = .ok v.reread := by
  rcases write_cases stack v with ⟨cs, same, done⟩ | ⟨cs, f, same, _⟩
  · obtain ⟨rfl, _⟩ := Prod.mk.inj (written.symm.trans same)
    have run := done [] ends_nil
    rw [List.append_nil] at run
    unfold readUnlimited readText Text.ofString Text.ofChars
    rw [String.toList_ofList, run]
    rfl
  · cases (Prod.mk.inj (written.symm.trans same)).2

/-- What is written of a value up to a fault is not a document: it ends too early. -/
theorem read_cut {stack : Stack} {text : String} {f : Fault}
    (cut : write stack v "" = (text, some f)) :
    readUnlimited text = .error (malformed (Text.ofString text).letters 0) := by
  rcases write_cases stack v with ⟨cs, same, _⟩ | ⟨cs, g, same, m, more, run⟩
  · cases (Prod.mk.inj (cut.symm.trans same)).2
  · obtain ⟨rfl, _⟩ := Prod.mk.inj (cut.symm.trans same)
    unfold readUnlimited readText Text.ofString Text.ofChars
    rw [String.toList_ofList, run, Machine.run, if_neg more]

end Json

end TraceScope
