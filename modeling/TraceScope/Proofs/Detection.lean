import TraceScope.Proofs.Tuning

/-!
# What the tags of a call tell

An access to a database is slow exactly if it exceeds the threshold of some type in its tags, and
the last statement in them is kept up to the limit. The order of the tags matters only among
statements.
-/

namespace TraceScope

/-- The first letters of a text. -/
def Value.leading (k : Nat) : Value → Value
  | .text t => .text ⟨t.letters.take k⟩
  | v => v

theorem Value.leading_leading (k : Nat) (v : Value) : (v.leading k).leading k = v.leading k := by
  cases v with
  | text t => simp [leading, List.take_take]
  | _ => rfl

theorem Value.IsName.leading {v : Value} (h : v.IsName) (k : Nat) : (v.leading k).IsName := by
  cases h with
  | null => exact .null
  | text t => exact .text _

namespace LengthLimit

variable {limit : LengthLimit} {k : Nat}

theorem ne_real_of_cut (cut : limit.cut = .ok k) (x : Binary64) : limit ≠ .real x := by
  rintro rfl
  cases cut

theorem clip_eq_take {α : Type} (cut : limit.cut = .ok k) (items : List α) :
    limit.clip items = items.take k := by
  obtain ⟨n, kept, exceeded⟩ := whole_of_cut cut
  have same : limit.kept = k := by simp [LengthLimit.kept, cut, Except.toOption]
  unfold clip
  rw [exceeded, same]
  split
  · rfl
  · rename_i short
    rw [decide_eq_true_eq] at short
    exact (List.take_of_length_le (by omega)).symm

theorem shorten_name (cut : limit.cut = .ok k) {v : Value} (name : v.IsName) :
    limit.shorten v = v.leading k := by
  cases name with
  | null => rfl
  | text t => rw [shorten_text, clip_eq_take cut, Value.leading]

end LengthLimit

namespace Statement

variable {config : Config} {tags others : List Tag} {latency : Int} {f g : Finding} {k : Nat}

theorem truncate_leading (cut : config.limit.cut = .ok k) {v : Value} (name : v.IsName) :
    truncate config.limit v = .ok (v.leading k) := by
  obtain ⟨w, done⟩ := truncate_name (LengthLimit.ne_real_of_cut cut) name
  rw [done, truncate_done done, LengthLimit.shorten_name cut name]

/-- The last statement in some tags, or null if there is none. -/
def lastStatement (tags : List Tag) : Value :=
  ((tags.filter (·.isNamed statementKey)).getLast?.map (·.value)).getD .null

theorem lastStatement_name (legible : ∀ t ∈ tags, t.Legible) : (lastStatement tags).IsName := by
  unfold lastStatement
  cases last : (tags.filter (·.isNamed statementKey)).getLast? with
  | none => exact .null
  | some t =>
    obtain ⟨member, named⟩ := List.mem_filter.mp (List.mem_of_getLast? last)
    exact legible t member (.inl named)

theorem slow_iff (evaluated : evaluate config tags latency = .ok f)
    (legible : ∀ t ∈ tags, t.Legible) :
    f.slow = true ↔ ∃ t ∈ tags, t.isNamed typeKey = true ∧
      ∃ m, config.thresholds.forType t.value = .ok m ∧ m < latency := by
  obtain ⟨slow, _⟩ := foldlM_look_done evaluated
  rw [slow, Bool.false_or, List.any_eq_true]
  apply exists_congr
  intro t
  apply and_congr_right
  intro member
  rw [Bool.and_eq_true, decide_eq_true_eq]
  apply and_congr_right
  intro named
  rw [forType_name config.thresholds (legible t member (.inr named))]
  simp

theorem statement_eq (cut : config.limit.cut = .ok k) (legible : ∀ t ∈ tags, t.Legible)
    (evaluated : evaluate config tags latency = .ok f) :
    f.statement = (lastStatement tags).leading k := by
  obtain ⟨_, statement⟩ := foldlM_look_done evaluated
  rw [statement, lastStatement]
  cases last : (tags.filter (·.isNamed statementKey)).getLast? with
  | none => rfl
  | some t =>
    obtain ⟨member, named⟩ := List.mem_filter.mp (List.mem_of_getLast? last)
    exact LengthLimit.shorten_name cut (legible t member (.inl named))

theorem slow_mono {longer : Int} (evaluated : evaluate config tags latency = .ok f)
    (evaluated' : evaluate config others longer = .ok g) (more : tags ⊆ others)
    (le : latency ≤ longer) (slow : f.slow = true) : g.slow = true := by
  rw [(foldlM_look_done evaluated).1, Bool.false_or, List.any_eq_true] at slow
  rw [(foldlM_look_done evaluated').1, Bool.false_or, List.any_eq_true]
  obtain ⟨t, member, exceeded⟩ := slow
  refine ⟨t, more member, ?_⟩
  rw [Bool.and_eq_true, decide_eq_true_eq] at exceeded ⊢
  exact ⟨exceeded.1, by omega⟩

theorem evaluate_perm (evaluated : evaluate config tags latency = .ok f)
    (evaluated' : evaluate config others latency = .ok g) (perm : tags.Perm others)
    (order : others.filter (·.isNamed statementKey) = tags.filter (·.isNamed statementKey)) :
    g = f := by
  obtain ⟨slow, statement⟩ := foldlM_look_done evaluated
  obtain ⟨slow', statement'⟩ := foldlM_look_done evaluated'
  rw [← perm.any_eq, ← slow] at slow'
  rw [order, ← statement] at statement'
  obtain ⟨_, _⟩ := g
  obtain rfl : _ = f.slow := slow'
  obtain rfl : _ = f.statement := statement'
  rfl

/-- Tags that can be read tell whether a call was slow and which statement is kept. Their order
matters only among statements. A call that takes longer, or has more tags, is no less slow, and to
cut a statement that was cut changes nothing. -/
theorem evaluate_detects (cut : config.limit.cut = .ok k) (legible : ∀ t ∈ tags, t.Legible) :
    ∃ f, evaluate config tags latency = .ok f ∧
      (f.slow = true ↔ ∃ t ∈ tags, t.isNamed typeKey = true ∧
        ∃ m, config.thresholds.forType t.value = .ok m ∧ m < latency) ∧
      f.statement = (lastStatement tags).leading k ∧
      (∀ others, tags.Perm others →
        others.filter (·.isNamed statementKey) = tags.filter (·.isNamed statementKey) →
        evaluate config others latency = .ok f) ∧
      (∀ others longer g, tags ⊆ others → latency ≤ longer →
        evaluate config others longer = .ok g → f.slow = true → g.slow = true) ∧
      truncate config.limit f.statement = .ok f.statement := by
  obtain ⟨f, evaluated⟩ := evaluate_legible (LengthLimit.ne_real_of_cut cut) legible latency
  have statement := statement_eq cut legible evaluated
  refine ⟨f, evaluated, slow_iff evaluated legible, statement, ?_, ?_, ?_⟩
  · intro others perm order
    obtain ⟨g, evaluated'⟩ := evaluate_legible (LengthLimit.ne_real_of_cut cut)
      (fun t member => legible t (perm.mem_iff.mpr member)) latency
    rw [evaluated', evaluate_perm evaluated evaluated' perm order]
  · intro others longer g more le evaluated'
    exact slow_mono evaluated evaluated' more le
  · rw [statement, truncate_leading cut ((lastStatement_name legible).leading k),
      Value.leading_leading]

/-- Two statements around two types, one of them unknown. -/
def chattyTags : List Tag :=
  [{ key := .text statementKey, value := .text "BEGIN" }, { key := .text typeKey, value := .null },
    { key := .text typeKey, value := .text "Redis" },
    { key := .text statementKey, value := .text "COMMIT" }]

theorem chattyTags_legible : ∀ t ∈ chattyTags, t.Legible := by
  intro t member _
  simp only [chattyTags, List.mem_cons, List.not_mem_nil, or_false] at member
  obtain rfl | rfl | rfl | rfl := member
  · exact .text _
  · exact .null
  · exact .text _
  · exact .text _

theorem evaluate_chattyTags :
    let config : Config :=
      { limit := .chars 3, thresholds := { table := .ofList [("default", 500), ("redis", 20)] } }
    config.limit.cut = .ok 3 ∧ (∀ t ∈ chattyTags, t.Legible) ∧
      ∃ f, evaluate config chattyTags 90 = .ok f ∧ f.slow = true ∧ f.statement = .text "COM" ∧
        truncate config.limit f.statement = .ok f.statement := by
  intro config
  have cut : config.limit.cut = .ok 3 := rfl
  obtain ⟨f, evaluated, slow, statement, _, _, again⟩ :=
    @evaluate_detects config chattyTags 90 3 cut chattyTags_legible
  refine ⟨cut, chattyTags_legible, f, evaluated, ?_, ?_, again⟩
  · apply slow.mpr
    exact ⟨{ key := .text typeKey, value := .text "Redis" }, by simp [chattyTags], rfl, 20, rfl,
      by decide⟩
  · rw [statement]
    rfl

end Statement

end TraceScope
