import TraceScope.Step

/-!
# Composed computations

What a composed computation keeps, when it succeeds and where its fault comes from, each in terms of
the parts it is composed of.
-/

namespace TraceScope

variable {α β σ τ ε : Type}

theorem bind_ok_iff {x : Except ε α} {next : α → Except ε β} {b : β} :
    (x >>= next) = .ok b ↔ ∃ a, x = .ok a ∧ next a = .ok b := by
  cases x with
  | error f => simp [bind, Except.bind]
  | ok a => simp [bind, Except.bind]

theorem bind_error_iff {x : Except ε α} {next : α → Except ε β} {f : ε} :
    (x >>= next) = .error f ↔ x = .error f ∨ ∃ a, x = .ok a ∧ next a = .error f := by
  cases x with
  | error g => simp [bind, Except.bind]
  | ok a => simp [bind, Except.bind]

/-- A fault in sequence is one of the first part, or of what follows it. -/
theorem bind_fault {P : Fault → Prop} {x : Except Fault α} {next : α → Except Fault β} {f : Fault}
    (failed : (x >>= next) = .error f) (first : ∀ f, x = .error f → P f)
    (later : ∀ a f, x = .ok a → next a = .error f → P f) : P f := by
  rcases bind_error_iff.mp failed with here | ⟨a, done, there⟩
  · exact first f here
  · exact later a f done there

theorem bind_succeeds {x : Except ε α} {next : α → Except ε β} :
    (∃ b, (x >>= next) = .ok b) ↔ ∃ a, x = .ok a ∧ ∃ b, next a = .ok b := by
  cases x with
  | error f => simp [bind, Except.bind]
  | ok a => simp [bind, Except.bind]

theorem map_ok_iff {x : Except ε α} {g : α → β} {b : β} :
    x.map g = .ok b ↔ ∃ a, x = .ok a ∧ g a = b := by
  cases x with
  | error f => simp [Except.map]
  | ok a => simp [Except.map]

theorem map_error_iff {x : Except ε α} {g : α → β} {f : ε} :
    x.map g = .error f ↔ x = .error f := by
  cases x with
  | error g => simp [Except.map]
  | ok a => simp [Except.map]

theorem pure_ok_iff {a b : α} : (pure a : Except ε α) = .ok b ↔ a = b := by
  simp [pure, Except.pure]

/-- Where each item has one possible result, so does the list. -/
theorem mapM_done {f : α → Except ε β} {g : α → β} (single : ∀ a b, f a = .ok b → b = g a)
    {items : List α} {bs : List β} (done : items.mapM f = .ok bs) : bs = items.map g := by
  induction items generalizing bs with
  | nil =>
    obtain rfl := pure_ok_iff.mp done
    rfl
  | cons a rest ih =>
    rw [List.mapM_cons] at done
    obtain ⟨b, first, done⟩ := bind_ok_iff.mp done
    obtain ⟨later, remaining, done⟩ := bind_ok_iff.mp done
    obtain rfl := pure_ok_iff.mp done
    rw [List.map_cons, ← single a b first, ← ih remaining]

/-- Every result in a list comes from one of the items. -/
theorem mem_mapM {f : α → Except ε β} {items : List α} {bs : List β}
    (done : items.mapM f = .ok bs) : ∀ b ∈ bs, ∃ a ∈ items, f a = .ok b := by
  induction items generalizing bs with
  | nil =>
    obtain rfl := pure_ok_iff.mp done
    exact fun b member => absurd member List.not_mem_nil
  | cons a rest ih =>
    rw [List.mapM_cons] at done
    obtain ⟨first, here, done⟩ := bind_ok_iff.mp done
    obtain ⟨more, later, done⟩ := bind_ok_iff.mp done
    obtain rfl := pure_ok_iff.mp done
    intro b member
    rcases List.mem_cons.mp member with rfl | member
    · exact ⟨a, List.mem_cons_self, here⟩
    · obtain ⟨c, present, made⟩ := ih later b member
      exact ⟨c, List.mem_cons_of_mem a present, made⟩

theorem mapM_succeeds {f : α → Except ε β} {items : List α} :
    (∃ bs, items.mapM f = .ok bs) ↔ ∀ a ∈ items, ∃ b, f a = .ok b := by
  induction items with
  | nil => simp [pure, Except.pure]
  | cons a rest ih =>
    rw [List.forall_mem_cons, ← ih, List.mapM_cons]
    constructor
    · rintro ⟨bs, done⟩
      obtain ⟨b, first, done⟩ := bind_ok_iff.mp done
      obtain ⟨later, remaining, _⟩ := bind_ok_iff.mp done
      exact ⟨⟨b, first⟩, later, remaining⟩
    · rintro ⟨⟨b, first⟩, later, remaining⟩
      exact ⟨_, bind_ok_iff.mpr ⟨b, first, bind_ok_iff.mpr ⟨later, remaining, rfl⟩⟩⟩

/-- What every step keeps, the steps one after the other keep. -/
theorem foldlM_keeps {P : β → Prop} {step : β → α → Except ε β} {items : List α} {b c : β}
    (kept : ∀ a ∈ items, ∀ b c, P b → step b a = .ok c → P c) (start : P b)
    (done : items.foldlM step b = .ok c) : P c := by
  induction items generalizing b with
  | nil =>
    obtain rfl := pure_ok_iff.mp done
    exact start
  | cons a rest ih =>
    rw [List.foldlM_cons] at done
    obtain ⟨d, first, later⟩ := bind_ok_iff.mp done
    obtain ⟨here, there⟩ := List.forall_mem_cons.mp kept
    exact ih there (here b d start first) later

/-- Steps one after the other are done only if every one of them is. -/
theorem foldlM_done {step : β → α → Except ε β} {items : List α} {b c : β}
    (done : items.foldlM step b = .ok c) : ∀ a ∈ items, ∃ x y, step x a = .ok y := by
  induction items generalizing b with
  | nil => exact fun a member => absurd member List.not_mem_nil
  | cons a rest ih =>
    rw [List.foldlM_cons] at done
    obtain ⟨d, first, later⟩ := bind_ok_iff.mp done
    exact List.forall_mem_cons.mpr ⟨⟨b, d, first⟩, ih later⟩

namespace Step

/-! ### Properties that survive -/

/-- A property of the state that a step keeps, whether it fails or not. -/
def Keeps (P : σ → Prop) (a : Step σ) : Prop := ∀ s, P s → P (a s).1

variable {P : σ → Prop}

theorem keeps_skip : Keeps P skip := fun _ h => h

theorem keeps_fail (f : Fault) : Keeps P (fail f) := fun _ h => h

theorem keeps_update {g : σ → σ} (kept : ∀ s, P s → P (g s)) : Keeps P (update g) := kept

theorem keeps_andThen {a b : Step σ} (first : Keeps P a) (second : Keeps P b) :
    Keeps P (a.andThen b) := by
  intro s h
  have between := first s h
  rcases done : a s with ⟨t, _ | f⟩
  · rw [done] at between
    simpa only [andThen, done] using second t between
  · rw [done] at between
    simpa only [andThen, done] using between

theorem keeps_ofExcept {x : Except Fault α} {next : α → Step σ}
    (kept : ∀ a, x = .ok a → Keeps P (next a)) : Keeps P (ofExcept x next) := by
  cases x with
  | error f => exact keeps_fail f
  | ok a => exact kept a rfl

theorem keeps_each {step : α → Step σ} {items : List α} (kept : ∀ a ∈ items, Keeps P (step a)) :
    Keeps P (each step items) := by
  induction items with
  | nil => exact keeps_skip
  | cons a rest ih =>
    exact keeps_andThen (kept a List.mem_cons_self)
      (ih fun b member => kept b (List.mem_cons_of_mem a member))

/-! ### Faults that do not hang on the state -/

/-- Whether a step fails, and with what fault, is the same in every state. -/
def Blind (a : Step σ) : Prop := ∀ s t, (a s).2 = (a t).2

theorem blind_skip : Blind (skip : Step σ) := fun _ _ => rfl

theorem blind_update (g : σ → σ) : Blind (update g) := fun _ _ => rfl

theorem blind_andThen {a b : Step σ} (first : Blind a) (second : Blind b) :
    Blind (a.andThen b) := by
  intro s t
  have here := first s t
  rcases left : a s with ⟨s', f⟩
  rcases right : a t with ⟨t', g⟩
  rw [left, right] at here
  obtain rfl : f = g := here
  cases f with
  | none => simpa only [andThen, left, right] using second s' t'
  | some f => simp only [andThen, left, right]

theorem blind_ofExcept {x : Except Fault α} {next : α → Step σ} (blind : ∀ a, Blind (next a)) :
    Blind (ofExcept x next) := by
  cases x with
  | error f => exact fun _ _ => rfl
  | ok a => exact blind a

theorem blind_each {step : α → Step σ} {items : List α} (blind : ∀ a, Blind (step a)) :
    Blind (each step items) := by
  induction items with
  | nil => exact blind_skip
  | cons a rest ih => exact blind_andThen (blind a) ih

/-! ### Steps that do at least as much -/

/-- What one step does without a fault, the other does as well. -/
def Refines (a b : Step σ) : Prop := ∀ s t, a s = (t, none) → b s = (t, none)

theorem refines_refl (a : Step σ) : Refines a a := fun _ _ done => done

theorem refines_andThen {a b a' b' : Step σ} (first : Refines a a') (second : Refines b b') :
    Refines (a.andThen b) (a'.andThen b') := by
  intro s t done
  obtain ⟨u, here, later⟩ := andThen_eq_none.mp done
  exact andThen_eq_none.mpr ⟨u, first s u here, second u t later⟩

theorem refines_ofExcept {x y : Except Fault α} {next next' : α → Step σ}
    (found : ∀ a, x = .ok a → y = .ok a) (later : ∀ a, Refines (next a) (next' a)) :
    Refines (ofExcept x next) (ofExcept y next') := by
  intro s t done
  cases known : x with
  | error f =>
    rw [known] at done
    cases done
  | ok a =>
    rw [known] at done
    rw [found a known]
    exact later a s t done

theorem refines_each {step step' : α → Step σ} (single : ∀ a, Refines (step a) (step' a))
    (items : List α) : Refines (each step items) (each step' items) := by
  induction items with
  | nil => exact refines_refl skip
  | cons a rest ih => exact refines_andThen (single a) ih

/-! ### Success and faults -/

theorem andThen_ok {a b : Step σ} {s t : σ} (done : a s = (t, none)) : a.andThen b s = b t := by
  simp only [andThen, done]

theorem andThen_failed {a b : Step σ} {s t : σ} {f : Fault} (failed : a s = (t, some f)) :
    a.andThen b s = (t, some f) := by
  simp only [andThen, failed]

theorem update_done {g : σ → σ} {s t : σ} (done : update g s = (t, none)) : t = g s :=
  (Prod.mk.inj done).1.symm

theorem ofExcept_done {x : Except Fault α} {next : α → Step σ} {s t : σ}
    (done : ofExcept x next s = (t, none)) : ∃ a, x = .ok a ∧ next a s = (t, none) := by
  cases x with
  | error f => cases done
  | ok a => exact ⟨a, rfl, done⟩

theorem update_andThen (g : σ → σ) (b : Step σ) (s : σ) : (update g).andThen b s = b (g s) := rfl

theorem andThen_update_succeeds {a : Step σ} {g : σ → σ} {s : σ} :
    (a.andThen (update g) s).2 = none ↔ (a s).2 = none := by
  rcases done : a s with ⟨t, _ | f⟩
  · rw [andThen_ok done]
    rfl
  · rw [andThen_failed done]

/-- Where the success of the second step does not hang on the state, both succeed together. -/
theorem andThen_succeeds_iff {a b : Step σ} {P Q : Prop} {s : σ} (first : (a s).2 = none ↔ P)
    (second : ∀ t, (b t).2 = none ↔ Q) : (a.andThen b s).2 = none ↔ P ∧ Q := by
  rw [← first]
  rcases done : a s with ⟨t, _ | f⟩
  · rw [andThen_ok done, second t]
    simp
  · rw [andThen_failed done]
    simp

theorem ofExcept_succeeds {x : Except Fault α} {next : α → Step σ} {s : σ}
    (always : ∀ a, x = .ok a → (next a s).2 = none) :
    (ofExcept x next s).2 = none ↔ ∃ a, x = .ok a := by
  cases x with
  | error f => simp [ofExcept, fail]
  | ok a => simpa [ofExcept] using always a rfl

/-- A composed step fails where one of its parts does. -/
theorem andThen_fault {a b : Step σ} {s : σ} {f : Fault} (failed : (a.andThen b s).2 = some f) :
    (a s).2 = some f ∨ ∃ t, a s = (t, none) ∧ (b t).2 = some f := by
  rcases done : a s with ⟨t, _ | g⟩
  · rw [andThen_ok done] at failed
    exact Or.inr ⟨t, rfl, failed⟩
  · rw [andThen_failed done] at failed
    exact Or.inl failed

theorem ofExcept_fault {x : Except Fault α} {next : α → Step σ} {s : σ} {f : Fault}
    (failed : (ofExcept x next s).2 = some f) :
    x = .error f ∨ ∃ a, x = .ok a ∧ (next a s).2 = some f := by
  cases x with
  | error g =>
    obtain rfl := Option.some.inj failed
    exact Or.inl rfl
  | ok a => exact Or.inr ⟨a, rfl, failed⟩

theorem each_fault {step : α → Step σ} {items : List α} {s : σ} {f : Fault}
    (failed : (each step items s).2 = some f) : ∃ a ∈ items, ∃ t, (step a t).2 = some f := by
  induction items generalizing s with
  | nil => cases failed
  | cons a rest ih =>
    rcases andThen_fault failed with here | ⟨t, _, later⟩
    · exact ⟨a, List.mem_cons_self, s, here⟩
    · obtain ⟨b, member, found⟩ := ih later
      exact ⟨b, List.mem_cons_of_mem a member, found⟩

/-- Where the success of each step does not hang on the state, all steps succeed together. -/
theorem each_succeeds_iff {step : α → Step σ} {Q : α → Prop} {items : List α}
    (single : ∀ a ∈ items, ∀ s, (step a s).2 = none ↔ Q a) (s : σ) :
    (each step items s).2 = none ↔ ∀ a ∈ items, Q a := by
  induction items generalizing s with
  | nil => simp [skip]
  | cons a rest ih =>
    have here := single a List.mem_cons_self s
    have later := ih fun b member => single b (List.mem_cons_of_mem a member)
    rw [each_cons, List.forall_mem_cons, ← here]
    rcases done : step a s with ⟨t, _ | f⟩
    · rw [andThen_ok done, later t]
      simp
    · rw [andThen_failed done]
      simp

theorem each_filterMap (step : β → Step σ) (g : α → Option β) (items : List α) :
    each step (items.filterMap g) = each (fun a => (g a).elim skip step) items := by
  induction items with
  | nil => rfl
  | cons a rest ih =>
    rw [each_cons, ← ih]
    cases known : g a with
    | none =>
      rw [List.filterMap_cons_none known]
      rfl
    | some b =>
      rw [List.filterMap_cons_some known]
      rfl

theorem each_map (step : β → Step σ) (g : α → β) (items : List α) :
    each step (items.map g) = each (fun a => step (g a)) items := by
  induction items with
  | nil => rfl
  | cons a rest ih => rw [List.map_cons, each_cons, each_cons, ih]

theorem each_flatMap (step : β → Step σ) (g : α → List β) (items : List α) :
    each step (items.flatMap g) = each (fun a => each step (g a)) items := by
  induction items with
  | nil => rfl
  | cons a rest ih => rw [List.flatMap_cons, each_append, each_cons, ih]

theorem each_congr {f g : α → Step σ} {items : List α} (same : ∀ a ∈ items, f a = g a) :
    each f items = each g items := by
  induction items with
  | nil => rfl
  | cons a rest ih =>
    have here := same a List.mem_cons_self
    have later := ih fun b member => same b (List.mem_cons_of_mem a member)
    rw [each_cons, each_cons, here, later]

/-- Steps on the left part of a pair leave the right one alone. -/
theorem each_zoom_fst (step : α → Step σ) (items : List α) (s : σ) (t : τ) :
    each (fun a => zoom Prod.fst (fun l p => (l, p.2)) (step a)) items (s, t) =
      (((each step items s).1, t), (each step items s).2) := by
  induction items generalizing s with
  | nil => rfl
  | cons a rest ih =>
    rcases done : step a s with ⟨u, _ | f⟩
    · have zoomed : zoom Prod.fst (fun l p => (l, p.2)) (step a) (s, t) = ((u, t), none) := by
        simp only [zoom, done]
      rw [each_cons, each_cons, andThen_ok zoomed, andThen_ok done, ih]
    · have zoomed : zoom Prod.fst (fun l p => (l, p.2)) (step a) (s, t) = ((u, t), some f) := by
        simp only [zoom, done]
      rw [each_cons, each_cons, andThen_failed zoomed, andThen_failed done]

end Step

end TraceScope
