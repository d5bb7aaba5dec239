import TraceScope.Fault

/-!
# Steps that may fail

A step changes a state and may fail on the way. What it did before it failed stays done. Steps in
sequence stop at the first fault.
-/

namespace TraceScope

/-- A change of state, with the fault that ended it early. -/
abbrev Step (σ : Type) := σ → σ × Option Fault

namespace Step

variable {σ τ α : Type}

def skip : Step σ := fun s => (s, none)

def fail (f : Fault) : Step σ := fun s => (s, some f)

def update (f : σ → σ) : Step σ := fun s => (f s, none)

/-- Does one step, and the next unless the first failed. -/
def andThen (a b : Step σ) : Step σ := fun s =>
  match a s with
  | (s', none) => b s'
  | (s', some f) => (s', some f)

def ofExcept (x : Except Fault α) (k : α → Step σ) : Step σ :=
  match x with
  | .ok a => k a
  | .error f => fail f

def each (step : α → Step σ) : List α → Step σ
  | [] => skip
  | a :: rest => (step a).andThen (each step rest)

def zoom (get : σ → τ) (set : τ → σ → σ) (step : Step τ) : Step σ := fun s =>
  let (t, f) := step (get s)
  (set t s, f)

@[simp] theorem skip_andThen (a : Step σ) : skip.andThen a = a := rfl

@[simp] theorem fail_andThen (f : Fault) (a : Step σ) : (fail f).andThen a = fail f := rfl

@[simp] theorem andThen_skip (a : Step σ) : a.andThen skip = a := by
  funext s
  rcases h : a s with ⟨s', _ | f⟩ <;> simp [andThen, skip, h]

theorem andThen_assoc (a b c : Step σ) : (a.andThen b).andThen c = a.andThen (b.andThen c) := by
  funext s
  rcases h : a s with ⟨s', _ | f⟩ <;> simp [andThen, h]

@[simp] theorem each_nil (step : α → Step σ) : each step [] = skip := rfl

@[simp] theorem each_cons (step : α → Step σ) (a : α) (rest : List α) :
    each step (a :: rest) = (step a).andThen (each step rest) := rfl

/-- Steps for two lists in sequence are steps for the joined list. -/
theorem each_append (step : α → Step σ) (as bs : List α) :
    each step (as ++ bs) = (each step as).andThen (each step bs) := by
  induction as with
  | nil => rfl
  | cons a as ih => simp only [List.cons_append, each_cons, ih, andThen_assoc]

theorem andThen_eq_none {a b : Step σ} {s t : σ} :
    a.andThen b s = (t, none) ↔ ∃ u, a s = (u, none) ∧ b u = (t, none) := by
  rcases h : a s with ⟨s', _ | f⟩ <;> simp [andThen, h]

end Step

end TraceScope
