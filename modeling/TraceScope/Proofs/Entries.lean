import TraceScope.Proofs.Calls
import TraceScope.Proofs.Lookups
import TraceScope.Proofs.Numerals
import TraceScope.Proofs.Pieces
import TraceScope.Proofs.Settings

/-!
# Settings of thresholds and what they set

A setting in text is accepted if each of its pieces sets a threshold, and then it stands for these
thresholds in their order: the last one of a type counts. A setting may as well be an object, which
sets the same thresholds as the text in which it is written out.
-/

namespace TraceScope

theorem Table.keys_ofList {κ ν : Type} [DecidableEq κ] (pairs : List (κ × ν)) :
    (ofList pairs).keys = (pairs.map (·.1)).eraseDups := by
  induction pairs using List.reverseRecOn with
  | nil => rfl
  | append_singleton pairs e ih =>
    obtain ⟨k, v⟩ := e
    have known : k ∈ (ofList pairs).keys ↔ k ∈ pairs.map (·.1) := by
      rw [ih, List.mem_eraseDups]
    rw [ofList_concat, keys_insert, List.map_append, List.map_singleton, eraseDups_concat, ← ih]
    by_cases present : k ∈ (ofList pairs).keys
    · rw [if_pos present, if_pos (known.mp present)]
    · rw [if_neg present, if_neg (mt known.mpr present)]

theorem exists_of_forall₂ {α β : Type} {R : α → β → Prop} {as : List α} {bs : List β}
    (h : List.Forall₂ R as bs) : ∀ a ∈ as, ∃ b, R a b := by
  induction h with
  | nil => simp
  | cons here _ ih => simpa using ⟨⟨_, here⟩, ih⟩

namespace Thresholds

/-- Letters that set a threshold: those of the type, the first colon among them all, and a numeral
that is not negative, with or without blanks around it. -/
structure Sets (letters : List Letter) (s : Text × Int) : Prop where
  parted : ∃ millis : Text, letters = s.1.letters ++ .char ':' :: millis.letters ∧
    Integer.Spelled millis.trim s.2
  first : .char ':' ∉ s.1.letters
  least : 0 ≤ s.2

def pieces (setting : Text) : List (List Letter) :=
  (splitAtEach (',' : Letter) setting.letters).filter fun piece => ¬Text.AreBlank piece

def set (t : Thresholds) (s : Text × Int) : Thresholds := ⟨t.table.insert (normalize s.1) s.2⟩

def ofSettings (settings : List (Text × Int)) : Thresholds := settings.foldl set {}

variable {t : Thresholds} {letters type millis : List Letter} {name : Text} {n : Int}
  {s : Text × Int} {settings : List (Text × Int)} {k : Text} {v : Value}

/-! ### Entries -/

theorem put_least (least : 0 ≤ n) : t.put (.text name) (.int n) = .ok (t.set (name, n)) := by
  have order : (some (compare n 0) == some .lt) = false := by
    simpa [compare_lt_iff_lt] using least
  have less : (Value.int n).lessThan 0 = .ok false := congrArg Except.ok order
  rw [put, less]
  rfl

theorem put_negative (negative : n < 0) :
    t.put (.text name) (.int n) = .error (.negativeThreshold name) := by
  have order : (some (compare n 0) == some .lt) = true := by
    simpa [compare_lt_iff_lt] using negative
  have less : (Value.int n).lessThan 0 = .ok true := congrArg Except.ok order
  rw [put, less]
  rfl

theorem putEntry_blank (blank : Text.AreBlank letters) : t.putEntry letters = .ok t := by
  have nothing : (Text.trim ⟨letters⟩).isEmpty = true := by
    simp [Text.trim, Text.isEmpty, Text.trimLetters_eq_nil_iff.mpr blank]
  simp only [putEntry, nothing, if_true]

theorem putEntry_full (full : ¬Text.AreBlank letters) :
    t.putEntry letters = match splitAtFirst (.char ':') (Text.trimLetters letters) with
      | none => .error (.thresholdWithoutColon (Text.trim ⟨letters⟩))
      | some (type, millis) =>
        match Integer.read (Text.trim ⟨millis⟩) with
        | .error _ => .error (.thresholdNotNumeric (Text.trim ⟨letters⟩))
        | .ok n => t.put (.text ⟨type⟩) (.int n) := by
  have some : ¬(Text.trim ⟨letters⟩).isEmpty = true := by
    simpa [Text.trim, Text.isEmpty, Text.trimLetters_eq_nil_iff] using full
  rw [putEntry, if_neg some]
  rfl

theorem colon_mark : (Letter.char ':').isIn Text.isBlank = false := rfl

theorem full_of_colon (colon : .char ':' ∈ letters) : ¬Text.AreBlank letters := by
  intro blank
  have mark := colon_mark
  rw [blank _ colon] at mark
  cases mark

theorem putEntry_parted (first : .char ':' ∉ type) (millis : List Letter) :
    t.putEntry (type ++ .char ':' :: millis) = match Integer.read (Text.trim ⟨millis⟩) with
      | .error _ => .error (.thresholdNotNumeric (Text.trim ⟨type ++ .char ':' :: millis⟩))
      | .ok n => t.put (.text ⟨type.dropWhile (Letter.isIn Text.isBlank)⟩) (.int n) := by
  have absent : .char ':' ∉ type.dropWhile (Letter.isIn Text.isBlank) := fun member =>
    first ((List.dropWhile_sublist _).subset member)
  have trimmed : Text.trim ⟨millis.rdropWhile (Letter.isIn Text.isBlank)⟩ = Text.trim ⟨millis⟩ :=
    congrArg Text.mk (Text.trimLetters_rdropWhile millis)
  rw [putEntry_full (full_of_colon (by simp)), Text.trimLetters_append_cons colon_mark,
    splitAtFirst_append absent]
  dsimp only
  rw [trimmed]

theorem set_dropWhile (type : List Letter) (n : Int) :
    t.set (⟨type.dropWhile (Letter.isIn Text.isBlank)⟩, n) = t.set (⟨type⟩, n) := by
  have trimmed : Text.trim ⟨type.dropWhile (Letter.isIn Text.isBlank)⟩ = Text.trim ⟨type⟩ :=
    congrArg Text.mk (Text.trimLetters_dropWhile type)
  simp only [set, normalize, trimmed]

theorem putEntry_sets (sets : Sets letters s) : t.putEntry letters = .ok (t.set s) := by
  obtain ⟨⟨millis, rfl, spelled⟩, first, least⟩ := sets
  rw [putEntry_parted first]
  simp only [Integer.read_ok_iff.mpr spelled]
  rw [put_least least, set_dropWhile]

theorem putEntry_refused (full : ¬Text.AreBlank letters) (none : ∀ s, ¬Sets letters s) :
    ∃ f, t.putEntry letters = .error f ∧ f.kind = .badValue := by
  by_cases colon : .char ':' ∈ letters
  · obtain ⟨type, millis, rfl, first⟩ := List.eq_append_cons_of_mem colon
    rw [putEntry_parted first]
    cases read : Integer.read (Text.trim ⟨millis⟩) with
    | error e => exact ⟨_, rfl, rfl⟩
    | ok n =>
      by_cases least : 0 ≤ n
      · exact absurd ⟨⟨⟨millis⟩, rfl, Integer.read_ok_iff.mp read⟩, first, least⟩
          (none (⟨type⟩, n))
      · exact ⟨_, put_negative (Int.not_le.mp least), rfl⟩
  · have absent : .char ':' ∉ Text.trimLetters letters := mt (Text.mem_trimLetters colon_mark).mp colon
    rw [putEntry_full full, splitAtFirst_of_not_mem absent]
    exact ⟨_, rfl, rfl⟩

/-- Parts are put one after the other if all that are not blank set something; else the first of
the others is refused. -/
theorem foldlM_putEntry (parts : List (List Letter)) (t : Thresholds) :
    (∃ settings, List.Forall₂ Sets (parts.filter fun piece => ¬Text.AreBlank piece) settings ∧
      parts.foldlM putEntry t = .ok (settings.foldl set t)) ∨
    (∃ piece ∈ parts.filter fun piece => ¬Text.AreBlank piece, ∀ s, ¬Sets piece s) ∧
      ∃ f, parts.foldlM putEntry t = .error f ∧ f.kind = .badValue := by
  -- The induction is on all parts: blank ones are dropped from the pieces and leave the table alone.
  induction parts generalizing t with
  | nil => exact .inl ⟨[], .nil, rfl⟩
  | cons part parts ih =>
    rw [List.foldlM_cons, List.filter_cons]
    by_cases blank : Text.AreBlank part
    · rw [putEntry_blank blank, if_neg (by simpa using blank)]
      exact ih t
    · rw [if_pos (by simpa using blank)]
      by_cases some : ∃ s, Sets part s
      · obtain ⟨s, sets⟩ := some
        rw [putEntry_sets sets]
        obtain ⟨settings, each, done⟩ | ⟨⟨piece, member, none⟩, refused⟩ := ih (t.set s)
        · exact .inl ⟨s :: settings, .cons sets each, done⟩
        · exact .inr ⟨⟨piece, List.mem_cons_of_mem part member, none⟩, refused⟩
      · obtain ⟨f, refused, bad⟩ := putEntry_refused (t := t) blank (not_exists.mp some)
        rw [refused]
        exact .inr ⟨⟨part, List.mem_cons_self, not_exists.mp some⟩, f, rfl, bad⟩

/-! ### What settings stand for -/

theorem foldl_set (settings : List (Text × Int)) (t : Thresholds) :
    (settings.foldl set t).table =
      (settings.map fun s => (normalize s.1, s.2)).foldl (fun t p => t.insert p.1 p.2) t.table := by
  induction settings generalizing t with
  | nil => rfl
  | cons s settings ih => exact ih (t.set s)

theorem ofSettings_table (settings : List (Text × Int)) :
    (ofSettings settings).table = .ofList (settings.map fun s => (normalize s.1, s.2)) :=
  foldl_set settings {}

theorem get?_of_last (last : LastWith (fun s => normalize s.1 = k) settings s) :
    (ofSettings settings).table.get? k = some s.2 := by
  rw [ofSettings_table, Table.get?_ofList_map, find?_reverse_eq_some.mpr last]
  rfl

theorem get?_of_absent (absent : ∀ s ∈ settings, normalize s.1 ≠ k) :
    (ofSettings settings).table.get? k = none := by
  rw [ofSettings_table, Table.get?_ofList_map, find?_reverse_eq_none.mpr absent]
  rfl

/-- No type at all, or one that is not among some settings. -/
inductive Unset (settings : List (Text × Int)) : Value → Prop
  | null : Unset settings .null
  | empty : Unset settings (.text "")
  | absent {type : Text} (none : ∀ s ∈ settings, normalize s.1 ≠ normalize type) :
      Unset settings (.text type)

theorem Unset.forType (unset : Unset settings v) :
    (ofSettings settings).forType v = .ok (ofSettings settings).forOthers := by
  cases unset with
  | null => rfl
  | empty => rfl
  | @absent type none =>
    rw [forType_text, forName, get?_of_absent none]
    split
    · rfl
    · rfl

/-- Thresholds answer by settings: the last one of a type, or else the last default. They are listed
by type in the order in which the types first came. -/
structure Follows (settings : List (Text × Int)) (t : Thresholds) : Prop where
  own : ∀ (type : Text) s, type ≠ "" → LastWith (fun s => normalize s.1 = normalize type) settings s →
    t.forType (.text type) = .ok s.2
  byDefault : ∀ v s, Unset settings v → LastWith (fun s => normalize s.1 = defaultType) settings s →
    t.forType v = .ok s.2
  otherwise : ∀ v, Unset settings v → (∀ s ∈ settings, normalize s.1 ≠ defaultType) →
    t.forType v = .ok 10000
  least : ∀ e ∈ t.table.entries, 0 ≤ e.2
  listed : ∃ members, t.toValue = .object members ∧
    members.map (·.1) = (settings.map fun s => normalize s.1).eraseDups ∧
    ∀ m ∈ members, ∃ s, LastWith (fun s => normalize s.1 = m.1) settings s ∧ m.2 = .int s.2

theorem ofSettings_keys (settings : List (Text × Int)) :
    (ofSettings settings).table.keys = (settings.map fun s => normalize s.1).eraseDups := by
  rw [ofSettings_table, Table.keys_ofList, List.map_map]
  rfl

theorem ofSettings_entries : ∀ e ∈ (ofSettings settings).table.entries,
    ∃ s, LastWith (fun s => normalize s.1 = e.1) settings s ∧ e.2 = s.2 := by
  intro e member
  have distinct : (ofSettings settings).table.keys.Nodup := by
    rw [ofSettings_keys]
    exact nodup_eraseDups _
  rw [Table.entries_eq_map_keys _ 0 distinct] at member
  obtain ⟨k, key, rfl⟩ := List.mem_map.mp member
  rw [ofSettings_keys, List.mem_eraseDups] at key
  obtain ⟨s, present, named⟩ := List.mem_map.mp key
  obtain ⟨last, found⟩ : ∃ last, LastWith (fun s => normalize s.1 = k) settings last :=
    exists_last present named
  refine ⟨last, found, ?_⟩
  dsimp only
  rw [get?_of_last found, Option.getD_some]

theorem ofSettings_follows (h : (ofSettings settings).NonNegative) :
    Follows settings (ofSettings settings) where
  own type s some last := by
    have full : ¬type.isEmpty = true := by
      intro empty
      apply some
      obtain ⟨letters⟩ := type
      obtain rfl : letters = [] := by simpa [Text.isEmpty] using empty
      rfl
    rw [forType_text, forName, if_neg full, get?_of_last last, Option.getD_some]
  byDefault v s unset last := by
    rw [unset.forType, forOthers, get?_of_last last, Option.getD_some]
  otherwise v unset none := by
    rw [unset.forType, forOthers, get?_of_absent none]
    rfl
  least e member := by
    obtain ⟨s, last, same⟩ := ofSettings_entries e member
    rw [same]
    exact h _ _ (get?_of_last last)
  listed := by
    refine ⟨_, rfl, ?_, ?_⟩
    · rw [List.map_map]
      exact ofSettings_keys settings
    · intro m member
      obtain ⟨e, entry, rfl⟩ := List.mem_map.mp member
      obtain ⟨s, last, same⟩ := ofSettings_entries e entry
      exact ⟨s, last, congrArg Value.int same⟩

/-- A setting is accepted if and only if each of its pieces sets a threshold, and it is refused for
its value otherwise. Once accepted, it answers by what its pieces set. -/
theorem ofText_exact (setting : Text) :
    ((∃ t, ofValue (.text setting) = .ok t) ↔ ∀ piece ∈ pieces setting, ∃ s, Sets piece s) ∧
      (∀ f, ofValue (.text setting) = .error f → f.kind = .badValue) ∧
      ∀ t, ofValue (.text setting) = .ok t →
        ∃ settings, List.Forall₂ Sets (pieces setting) settings ∧ Follows settings t := by
  change ((∃ t, ofText setting = .ok t) ↔ _) ∧ (∀ f, ofText setting = .error f → _) ∧
    ∀ t, ofText setting = .ok t → _
  obtain ⟨settings, each, done⟩ | ⟨⟨piece, member, none⟩, f, refused, bad⟩ :=
    foldlM_putEntry (splitAtEach (',' : Letter) setting.letters) {}
  · have read : ofText setting = .ok (ofSettings settings) := done
    refine ⟨⟨fun _ piece member => ?_, fun _ => ⟨_, read⟩⟩, fun f refused => ?_, fun t accepted => ?_⟩
    · exact exists_of_forall₂ each piece member
    · rw [read] at refused
      cases refused
    · rw [read] at accepted
      obtain rfl := Except.ok.inj accepted
      exact ⟨settings, each, ofSettings_follows (ofText_nonNegative read)⟩
  · have read : ofText setting = .error f := refused
    refine ⟨⟨fun ⟨t, accepted⟩ => ?_, fun all => ?_⟩, fun g refused => ?_, fun t accepted => ?_⟩
    · rw [read] at accepted
      cases accepted
    · obtain ⟨s, sets⟩ := all piece member
      exact absurd sets (none s)
    · rw [read] at refused
      obtain rfl := Except.error.inj refused
      exact bad
    · rw [read] at accepted
      cases accepted

/-- A separator of files is no blank within a numeral, but is trimmed before the numeral is read. -/
theorem ofText_separator :
    (∃ t, ofValue (.text "a:\x1c5") = .ok t) ∧
      ¬∀ piece ∈ pieces "a:\x1c5", ∃ (type millis : Text) (n : Int),
        piece = type.letters ++ .char ':' :: millis.letters ∧ .char ':' ∉ type.letters ∧
          Integer.Spelled millis n ∧ 0 ≤ n := by
  refine ⟨⟨_, rfl⟩, fun verbatim => ?_⟩
  obtain ⟨type, millis, n, parted, first, spelled, _⟩ :=
    verbatim [.char 'a', .char ':', .char '\x1c', .char '5'] (by decide)
  have split := splitAtFirst_append first millis.letters
  rw [← parted] at split
  obtain ⟨_, rest⟩ := Prod.mk.inj (Option.some.inj split)
  have read := Integer.read_ok_iff.mpr spelled
  obtain ⟨letters⟩ := millis
  obtain rfl : [.char '\x1c', .char '5'] = letters := rest
  cases read

/-! ### Settings that are written out -/

/-- A type and a threshold with a colon between them. -/
def entry (s : Text × Int) : Text := s.1 ++ ":" ++ Integer.text s.2

/-- Types and thresholds with commas between them. -/
def written (settings : List (Text × Int)) : Text := .intercalate "," (settings.map entry)

def mapping (settings : List (Text × Int)) : Value :=
  .object (settings.map fun s => (s.1, .int s.2))

theorem letters_entry (s : Text × Int) :
    (entry s).letters = s.1.letters ++ .char ':' :: (Text.ofString (Integer.text s.2)).letters := by
  simp only [entry, Text.letters_append, List.append_assoc]
  rfl

theorem letters_text {l : Letter} (member : l ∈ (Text.ofString (Integer.text n)).letters) :
    l ≠ .char ',' ∧ l.isIn Text.isBlank = false := by
  obtain ⟨c, written, rfl⟩ := List.mem_map.mp member
  rcases Integer.mem_text written with rfl | digit
  · exact ⟨by decide, rfl⟩
  · have bounds := Integer.digit_bounds.mp digit
    have other : c ≠ ',' := Integer.ne_of_digit digit rfl
    refine ⟨fun same => other (Letter.char.inj same), ?_⟩
    simp only [Letter.isIn_char, Text.isBlank, Bool.or_eq_false_iff, Bool.and_eq_false_iff,
      decide_eq_false_iff_not]
    omega

theorem putEntry_entry (first : .char ':' ∉ s.1.letters) (short : Integer.isWritable s.2 = true) :
    t.putEntry (entry s).letters =
      t.put (.text ⟨s.1.letters.dropWhile (Letter.isIn Text.isBlank)⟩) (.int s.2) := by
  have trimmed : Text.trim ⟨(Text.ofString (Integer.text s.2)).letters⟩ =
      Text.ofString (Integer.text s.2) :=
    congrArg Text.mk (Text.trimLetters_of_marks fun l member => (letters_text member).2)
  rw [letters_entry, putEntry_parted first, trimmed, Integer.read_text short]

/-- Settings are made one after the other if none is negative; else the first that is negative is
refused. -/
theorem foldlM_signed {step : Thresholds → Text × Int → Except Fault Thresholds}
    (least : ∀ t, ∀ s ∈ settings, 0 ≤ s.2 → step t s = .ok (t.set s))
    (negative : ∀ t, ∀ s ∈ settings, s.2 < 0 → ∃ f, step t s = .error f ∧ f.kind = .badValue)
    (t : Thresholds) :
    ((∃ s ∈ settings, s.2 < 0) → ∃ f, settings.foldlM step t = .error f ∧ f.kind = .badValue) ∧
      ((∀ s ∈ settings, 0 ≤ s.2) → settings.foldlM step t = .ok (settings.foldl set t)) := by
  induction settings generalizing t with
  | nil => exact ⟨by simp, fun _ => rfl⟩
  | cons s settings ih =>
    obtain ⟨bad, good⟩ := ih (fun t s member => least t s (List.mem_cons_of_mem _ member))
      (fun t s member => negative t s (List.mem_cons_of_mem _ member)) (t.set s)
    rw [List.foldlM_cons]
    by_cases here : 0 ≤ s.2
    · rw [least t s List.mem_cons_self here]
      refine ⟨fun ⟨p, member, below⟩ => bad ?_, fun all => good ?_⟩
      · rcases List.mem_cons.mp member with rfl | later
        · omega
        · exact ⟨p, later, below⟩
      · exact fun p later => all p (List.mem_cons_of_mem _ later)
    · obtain ⟨f, refused, kind⟩ := negative t s List.mem_cons_self (Int.not_le.mp here)
      rw [refused]
      exact ⟨fun _ => ⟨f, rfl, kind⟩, fun all => absurd (all s List.mem_cons_self) here⟩

theorem ofText_written (plain : ∀ s ∈ settings, .char ',' ∉ s.1.letters) :
    ofText (written settings) = settings.foldlM (fun t s => t.putEntry (entry s).letters) {} := by
  have split : (written settings).letters =
      [.char ','].intercalate (settings.map fun s => (entry s).letters) := by
    rw [written, Text.intercalate, List.map_map]
    rfl
  cases settings with
  | nil => rfl
  | cons s settings =>
    have absent : ∀ part ∈ (s :: settings).map fun s => (entry s).letters, .char ',' ∉ part := by
      intro part member comma
      obtain ⟨p, among, rfl⟩ := List.mem_map.mp member
      rw [letters_entry] at comma
      rcases List.mem_append.mp comma with type | millis
      · exact plain p among type
      · rcases List.mem_cons.mp millis with colon | digits
        · cases colon
        · exact (letters_text digits).1 rfl
    rw [ofText, split, splitAtEach_intercalate (by simp) absent, List.foldlM_map]

/-- A text in which types and thresholds are written out is refused along with the object of them,
and stands for the same thresholds otherwise. -/
theorem written_agrees
    (plain : ∀ s ∈ settings, .char ',' ∉ s.1.letters ∧ .char ':' ∉ s.1.letters)
    (short : ∀ s ∈ settings, Integer.isWritable s.2 = true) :
    ((∃ s ∈ settings, s.2 < 0) →
      (∃ f, ofValue (.text (written settings)) = .error f ∧ f.kind = .badValue) ∧
        ∃ f, ofValue (mapping settings) = .error f ∧ f.kind = .badValue) ∧
    ((∀ s ∈ settings, 0 ≤ s.2) → ∃ t, ofValue (.text (written settings)) = .ok t ∧
      ofValue (mapping settings) = .ok t) := by
  have text : ofValue (.text (written settings)) =
      settings.foldlM (fun t s => t.putEntry (entry s).letters) {} :=
    ofText_written fun s member => (plain s member).1
  have object : ofValue (mapping settings) =
      settings.foldlM (fun t s => t.put (.text s.1) (.int s.2)) {} := by
    simp only [mapping, ofValue, ofPairs, List.foldlM_map]
  -- The types differ in the blanks before them, which neither the tables nor the kinds of faults show.
  have entryLeast : ∀ t, ∀ s ∈ settings, 0 ≤ s.2 →
      putEntry t (entry s).letters = .ok (t.set s) := by
    intro t s member least
    rw [putEntry_entry (plain s member).2 (short s member), put_least least, set_dropWhile]
  have entryNegative : ∀ t, ∀ s ∈ settings, s.2 < 0 →
      ∃ f, putEntry t (entry s).letters = .error f ∧ f.kind = .badValue := by
    intro t s member negative
    rw [putEntry_entry (plain s member).2 (short s member), put_negative negative]
    exact ⟨_, rfl, rfl⟩
  obtain ⟨bad, good⟩ := foldlM_signed entryLeast entryNegative {}
  obtain ⟨bad', good'⟩ := @foldlM_signed settings (fun t s => t.put (.text s.1) (.int s.2))
    (fun t s _ least => put_least least)
    (fun t s _ negative => ⟨_, put_negative negative, rfl⟩) {}
  rw [text, object]
  exact ⟨fun some => ⟨bad some, bad' some⟩, fun all => ⟨_, good all, good' all⟩⟩

/-- Types that are the same but for case and blanks, an empty one and one of blanks alone. -/
def alike : List (Text × Int) := [(" Redis ", 5), ("redis", 7), ("", 3), ("  ", 0)]

def below : Text × Int := ("a", -1)

theorem written_alike :
    (∃ t, ofValue (.text " Redis :5,redis:7,:3,  :0") = .ok t ∧ ofValue (mapping alike) = .ok t) ∧
      ∃ f, ofValue (.text "a:-1, Redis :5,redis:7,:3,  :0") = .error f ∧ f.kind = .badValue := by
  have plain : ∀ s ∈ below :: alike, .char ',' ∉ s.1.letters ∧ .char ':' ∉ s.1.letters := by
    decide
  have short : ∀ s ∈ below :: alike, Integer.isWritable s.2 = true := by
    intro s member
    apply Integer.isWritable_of_lt
    revert s
    decide
  have least : ∀ s ∈ alike, 0 ≤ s.2 := by decide
  constructor
  · exact (written_agrees (fun s member => plain s (List.mem_cons_of_mem _ member))
      fun s member => short s (List.mem_cons_of_mem _ member)).2 least
  · exact ((written_agrees plain short).1 ⟨below, List.mem_cons_self, by decide⟩).1

end Thresholds

end TraceScope
