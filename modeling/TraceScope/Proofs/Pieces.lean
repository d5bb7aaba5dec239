import Mathlib.Data.List.DropRight
import TraceScope.Text.Blank
import TraceScope.Text.Split

/-!
# Texts taken apart

Splitting undoes joining where no part has the separator. Blanks at the ends of a part do not
matter once it is trimmed, and what stands between its ends and a mark is trimmed by itself.
-/

namespace TraceScope

section Split

variable {α : Type} [DecidableEq α] {separator : α} {before after cs : List α}
  {parts : List (List α)}

theorem splitAtFirst_of_not_mem (absent : separator ∉ cs) : splitAtFirst separator cs = none := by
  simp [splitAtFirst, absent]

theorem splitAtFirst_append (absent : separator ∉ before) (after : List α) :
    splitAtFirst separator (before ++ separator :: after) = some (before, after) := by
  have other : ∀ c ∈ before, decide (c ≠ separator) = true := by
    intro c member
    apply decide_eq_true
    rintro rfl
    exact absent member
  rw [splitAtFirst, if_pos (by simp), List.takeWhile_append_of_pos other,
    List.dropWhile_append_of_pos other]
  simp

theorem splitAtEach_append (absent : separator ∉ before) (after : List α) :
    splitAtEach separator (before ++ separator :: after) =
      before :: splitAtEach separator after := by
  induction before with
  | nil => rw [List.nil_append, splitAtEach, if_pos rfl]
  | cons c before ih =>
    rw [List.mem_cons, not_or] at absent
    rw [List.cons_append, splitAtEach, if_neg (Ne.symm absent.1), ih absent.2]

theorem splitAtEach_intercalate (some : parts ≠ []) (absent : ∀ part ∈ parts, separator ∉ part) :
    splitAtEach separator ([separator].intercalate parts) = parts := by
  induction parts with
  | nil => exact absurd rfl some
  | cons part parts ih =>
    have first := absent part List.mem_cons_self
    cases parts with
    | nil =>
      rw [List.intercalate_singleton]
      exact splitAtEach_of_not_mem first
    | cons next parts =>
      have later := ih (List.cons_ne_nil next parts) fun p member =>
        absent p (List.mem_cons_of_mem part member)
      rw [List.intercalate_cons_cons, List.append_assoc, List.singleton_append,
        splitAtEach_append first, later]

end Split

namespace Text

variable {l : Letter} {ls as bs : List Letter}

/-- Letters that are nothing but blanks. -/
def AreBlank (ls : List Letter) : Prop := ∀ l ∈ ls, l.isIn isBlank = true

instance : DecidablePred AreBlank := fun ls => inferInstanceAs (Decidable (∀ l ∈ ls, _))

theorem trimLetters_eq (ls : List Letter) :
    trimLetters ls = (ls.dropWhile (Letter.isIn isBlank)).rdropWhile (Letter.isIn isBlank) := rfl

theorem dropWhile_append_cons {p : Letter → Bool} (mark : p l = false) (as bs : List Letter) :
    (as ++ l :: bs).dropWhile p = as.dropWhile p ++ l :: bs := by
  induction as with
  | nil => exact List.dropWhile_cons_of_neg (by simp [mark])
  | cons a as ih =>
    rw [List.cons_append, List.dropWhile_cons, List.dropWhile_cons, ih]
    split
    · rfl
    · rfl

theorem rdropWhile_append_cons {p : Letter → Bool} (mark : p l = false) (as bs : List Letter) :
    (as ++ l :: bs).rdropWhile p = as ++ l :: bs.rdropWhile p := by
  simp only [List.rdropWhile, List.reverse_append, List.reverse_cons, List.append_assoc,
    List.singleton_append, dropWhile_append_cons mark, List.reverse_reverse]

theorem trimLetters_append_cons (mark : l.isIn isBlank = false) (as bs : List Letter) :
    trimLetters (as ++ l :: bs) =
      as.dropWhile (Letter.isIn isBlank) ++ l :: bs.rdropWhile (Letter.isIn isBlank) := by
  rw [trimLetters_eq, dropWhile_append_cons mark, rdropWhile_append_cons mark]

theorem trimLetters_append_left (blank : AreBlank bs) (ls : List Letter) :
    trimLetters (bs ++ ls) = trimLetters ls := by
  rw [trimLetters_eq, List.dropWhile_append_of_pos blank, trimLetters_eq]

theorem trimLetters_eq_nil_iff : trimLetters ls = [] ↔ AreBlank ls := by
  constructor
  · intro nothing l member
    by_contra mark
    obtain ⟨as, bs, rfl⟩ := List.append_of_mem member
    rw [trimLetters_append_cons (Bool.not_eq_true _ ▸ mark)] at nothing
    simp at nothing
  · intro blank
    have nothing : ls.dropWhile (Letter.isIn isBlank) = [] := List.dropWhile_eq_nil_iff.mpr blank
    rw [trimLetters_eq, nothing]
    rfl

theorem trimLetters_append_right (blank : AreBlank bs) (ls : List Letter) :
    trimLetters (ls ++ bs) = trimLetters ls := by
  -- One letter that is not blank keeps the two ends apart.
  by_cases all : AreBlank ls
  · rw [trimLetters_append_left all, trimLetters_eq_nil_iff.mpr all,
      trimLetters_eq_nil_iff.mpr blank]
  · obtain ⟨l, member, mark⟩ : ∃ l ∈ ls, l.isIn isBlank = false := by
      simpa [AreBlank] using all
    obtain ⟨as, cs, rfl⟩ := List.append_of_mem member
    rw [List.append_assoc, List.cons_append, trimLetters_append_cons mark,
      trimLetters_append_cons mark]
    simp only [List.rdropWhile, List.reverse_append]
    rw [List.dropWhile_append_of_pos]
    exact fun b member => blank b (List.mem_reverse.mp member)

theorem trimLetters_dropWhile (ls : List Letter) :
    trimLetters (ls.dropWhile (Letter.isIn isBlank)) = trimLetters ls := by
  rw [trimLetters_eq, List.dropWhile_idempotent, trimLetters_eq]

theorem trimLetters_rdropWhile (ls : List Letter) :
    trimLetters (ls.rdropWhile (Letter.isIn isBlank)) = trimLetters ls := by
  have blank : AreBlank (ls.rtakeWhile (Letter.isIn isBlank)) := fun _ => List.mem_rtakeWhile_imp
  have whole : ls.rdropWhile (Letter.isIn isBlank) ++ ls.rtakeWhile (Letter.isIn isBlank) = ls :=
    List.rdropWhile_append_rtakeWhile
  calc trimLetters (ls.rdropWhile (Letter.isIn isBlank))
      = trimLetters (ls.rdropWhile (Letter.isIn isBlank) ++
          ls.rtakeWhile (Letter.isIn isBlank)) := (trimLetters_append_right blank _).symm
    _ = trimLetters ls := by rw [whole]

theorem mem_trimLetters (mark : l.isIn isBlank = false) : l ∈ trimLetters ls ↔ l ∈ ls := by
  constructor
  · intro member
    have left := (List.rdropWhile_prefix _ _).subset member
    exact (List.dropWhile_sublist _).subset left
  · intro member
    obtain ⟨as, bs, rfl⟩ := List.append_of_mem member
    rw [trimLetters_append_cons mark]
    simp

theorem trimLetters_of_marks (marks : ∀ l ∈ ls, l.isIn isBlank = false) : trimLetters ls = ls := by
  cases ls with
  | nil => rfl
  | cons l ls =>
    have first := marks l List.mem_cons_self
    have last : ls.rdropWhile (Letter.isIn isBlank) = ls := by
      refine List.rdropWhile_eq_self_iff.mpr fun some => ?_
      simp [marks _ (List.mem_cons_of_mem l (List.getLast_mem some))]
    rw [← List.nil_append (l :: ls), trimLetters_append_cons first, last]
    rfl

end Text

end TraceScope
