/-!
# Splitting at separators

Splitting a list loses nothing but the separators.
-/

namespace TraceScope

variable {α : Type} [DecidableEq α]

/-- The parts of a list between separators; at least one. -/
def splitAtEach (separator : α) : List α → List (List α)
  | [] => [[]]
  | c :: cs =>
    if c = separator then [] :: splitAtEach separator cs
    else match splitAtEach separator cs with
      | [] => [[c]]
      | part :: parts => (c :: part) :: parts

/-- The parts of a list before and after the first separator, if it has one. -/
def splitAtFirst (separator : α) (cs : List α) : Option (List α × List α) :=
  if cs.contains separator then
    some (cs.takeWhile (· ≠ separator), (cs.dropWhile (· ≠ separator)).drop 1)
  else none

/-- Splitting at the first separator loses nothing but the separator. -/
theorem eq_append_of_splitAtFirst {separator : α} {cs before after : List α}
    (h : splitAtFirst separator cs = some (before, after)) :
    cs = before ++ separator :: after := by
  induction cs generalizing before with
  | nil => simp [splitAtFirst] at h
  | cons c cs ih =>
    unfold splitAtFirst at h
    by_cases hc : c = separator
    · subst hc
      simp at h
      simp [h]
    · have hs : separator ≠ c := fun e => hc e.symm
      simp [hc, hs] at h
      obtain ⟨hm, rfl, rfl⟩ := h
      simpa using ih (by simp [splitAtFirst, hm])

theorem splitAtEach_of_not_mem {separator : α} {cs : List α} (absent : separator ∉ cs) :
    splitAtEach separator cs = [cs] := by
  induction cs with
  | nil => rfl
  | cons c rest ih =>
    rw [List.mem_cons, not_or] at absent
    rw [splitAtEach, if_neg (Ne.symm absent.1), ih absent.2]

end TraceScope
