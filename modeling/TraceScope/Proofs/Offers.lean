import TraceScope.Proofs.Records

/-!
# What becomes of offers

As long as the sink refuses nothing, a segment either adds its records to those that are stored or
changes nothing, and which of both it is hangs on the segment, the inventory and the configuration
alone. Records that are offered up to a refusal are stored up to there.
-/

namespace TraceScope

namespace Intake

/-- The sink accepts the next `m` records. -/
def Accepts (i : Intake) (m : Nat) : Prop :=
  ∀ k, i.sink.offered < k → k ≤ i.sink.offered + m → i.sink.refuses k = none

def store (i : Intake) (r : Record) : Intake :=
  count r
    { i with
      sink := { i.sink with stored := i.sink.stored.push r, offered := i.sink.offered + 1 } }

/-- Lets a record go that was refused. -/
def pass (i : Intake) : Intake := { i with sink := { i.sink with offered := i.sink.offered + 1 } }

def storeAll (i : Intake) (rs : List Record) : Intake := rs.foldl store i

def refusing (refuses : Nat → Option Fault) (i : Intake) : Intake :=
  { i with sink := { i.sink with refuses } }

variable {i : Intake} {r : Record} {rs : List Record} {m n : Nat} {f : Fault}

theorem storeAll_sink (i : Intake) (rs : List Record) :
    (i.storeAll rs).sink.records = i.sink.records ++ rs ∧
      (i.storeAll rs).sink.offered = i.sink.offered + rs.length ∧
        (i.storeAll rs).sink.refuses = i.sink.refuses := by
  induction rs generalizing i with
  | nil => exact ⟨(List.append_nil _).symm, rfl, rfl⟩
  | cons r rest ih =>
    obtain ⟨records, offered, refuses⟩ := ih (i.store r)
    have pushed : (i.store r).sink.records = i.sink.records ++ [r] := by
      simp [store, count, Sink.records]
    have one : (i.store r).sink.offered = i.sink.offered + 1 := rfl
    refine ⟨?_, ?_, refuses⟩
    · rw [storeAll, List.foldl_cons, ← storeAll, records, pushed, List.append_assoc,
        List.singleton_append]
    · rw [storeAll, List.foldl_cons, ← storeAll, offered, one, List.length_cons]
      omega

theorem storeAll_refusing (i : Intake) (refuses : Nat → Option Fault) :
    (i.refusing refuses).storeAll rs = (i.storeAll rs).refusing refuses := by
  induction rs generalizing i with
  | nil => rfl
  | cons r rest ih => exact ih (i.store r)

theorem accepts_append (accepts : i.Accepts (rs.length + n)) :
    i.Accepts rs.length ∧ (i.storeAll rs).Accepts n := by
  obtain ⟨_, offered, refuses⟩ := storeAll_sink i rs
  refine ⟨fun k low high => accepts k low (by omega), fun k low high => ?_⟩
  rw [offered] at low high
  rw [refuses]
  exact accepts k (by omega) (by omega)

theorem offer_accepted (answer : i.sink.refuses (i.sink.offered + 1) = none) :
    offer r i = (i.store r, none) := by
  simp only [offer, Sink.offer, Step.andThen, Step.zoom, Step.update, answer, store]

theorem offer_rejected (answer : i.sink.refuses (i.sink.offered + 1) = some f) :
    offer r i = (i.pass, some f) := by
  simp only [offer, Sink.offer, Step.andThen, Step.zoom, answer, pass]

theorem offer_keeps {P : Intake → Prop} (r : Record) (stored : ∀ i, P i → P (i.store r))
    (passed : ∀ i, P i → P i.pass) : Step.Keeps P (offer r) := by
  intro i h
  cases answer : i.sink.refuses (i.sink.offered + 1) with
  | none =>
    rw [offer_accepted answer]
    exact stored i h
  | some f =>
    rw [offer_rejected answer]
    exact passed i h

theorem offer_keeps_refusals {refuses : Nat → Option Fault} (r : Record) :
    Step.Keeps (fun i : Intake => i.sink.refuses = refuses) (offer r) :=
  offer_keeps r (fun _ h => h) (fun _ h => h)

theorem each_offer_accepted (accepts : i.Accepts rs.length) :
    Step.each offer rs i = (i.storeAll rs, none) := by
  induction rs generalizing i with
  | nil => rfl
  | cons r rest ih =>
    have split : i.Accepts ([r].length + rest.length) := by
      rw [← List.length_append]
      exact accepts
    obtain ⟨first, later⟩ := accepts_append split
    have answer : i.sink.refuses (i.sink.offered + 1) = none :=
      first _ (Nat.lt_succ_self _) (Nat.le_refl _)
    rw [Step.each_cons, Step.andThen_ok (offer_accepted answer)]
    exact ih later

theorem each_offer_cut {before after : List Record} (accepts : i.Accepts before.length)
    (refused : i.sink.refuses (i.sink.offered + before.length + 1) = some f) :
    Step.each offer (before ++ r :: after) i = ((i.storeAll before).pass, some f) := by
  obtain ⟨_, offered, refuses⟩ := storeAll_sink i before
  have answer : (i.storeAll before).sink.refuses ((i.storeAll before).sink.offered + 1) =
      some f := by
    rw [offered, refuses]
    exact refused
  rw [Step.each_append, Step.andThen_ok (each_offer_accepted accepts), Step.each_cons,
    Step.andThen_failed (offer_rejected answer)]

theorem accepts_or_refuses (i : Intake) (rs : List Record) :
    i.Accepts rs.length ∨ ∃ before r after f, rs = before ++ r :: after ∧
      i.Accepts before.length ∧
        i.sink.refuses (i.sink.offered + before.length + 1) = some f := by
  -- Offers are counted from the first on, so each record that is stored moves the count by one.
  induction rs generalizing i with
  | nil =>
    refine Or.inl fun k low high => ?_
    rw [List.length_nil] at high
    omega
  | cons r rest ih =>
    cases answer : i.sink.refuses (i.sink.offered + 1) with
    | some f =>
      refine Or.inr ⟨[], r, rest, f, rfl, fun k low high => ?_, answer⟩
      rw [List.length_nil] at high
      omega
    | none =>
      have next : ∀ m, (i.store r).Accepts m → i.Accepts (m + 1) := by
        intro m accepts k low high
        by_cases first : k = i.sink.offered + 1
        · rw [first]
          exact answer
        · refine accepts k ?_ ?_
          · change i.sink.offered + 1 < k
            omega
          · change k ≤ i.sink.offered + 1 + m
            omega
      rcases ih (i.store r) with accepts | ⟨before, x, after, f, rfl, accepts, refused⟩
      · exact Or.inl (next _ accepts)
      · refine Or.inr ⟨r :: before, x, after, f, rfl, next _ accepts, ?_⟩
        have place : i.sink.offered + (r :: before).length + 1 =
            (i.store r).sink.offered + before.length + 1 := by
          change i.sink.offered + (before.length + 1) + 1 =
            i.sink.offered + 1 + before.length + 1
          omega
        rw [place]
        exact refused

end Intake

namespace Analyzer

def refusing (refuses : Nat → Option Fault) (a : Analyzer) : Analyzer :=
  { a with intake := a.intake.refusing refuses }

def take (a : Analyzer) (rs : List Record) : Analyzer :=
  { a with intake := a.intake.storeAll rs, segmentCount := a.segmentCount + 1 }

def fresh (inv : Inventory) (config : Config) : Analyzer := { inventory := inv, config }

/-- What becomes of a segment that is the only one of a new analyzer. -/
def alone (inv : Inventory) (config : Config) (segment : Segment) : Analyzer × Option Fault :=
  process segment (fresh inv config)

/-- The records that a segment adds when it is the only one. -/
def output (inv : Inventory) (config : Config) (segment : Segment) : List Record :=
  (alone inv config segment).1.records

def succeeds (inv : Inventory) (config : Config) (segment : Segment) : Bool :=
  (alone inv config segment).2.isNone

variable {a : Analyzer} {segment : Segment} {inv : Inventory} {config : Config}
  {rs : List Record} {f : Fault}

theorem emit_taken (accepts : a.intake.Accepts rs.length) : emit rs a = (a.take rs, none) := by
  simp only [emit, Step.andThen, Step.zoom, Intake.each_offer_accepted accepts, Step.update, take]

theorem process_accepted (reached : segment.emission a.inventory a.config = .ok rs)
    (accepts : a.intake.Accepts rs.length) : process segment a = (a.take rs, none) := by
  rw [process_eq, reached]
  exact emit_taken accepts

theorem process_failed (failed : segment.emission a.inventory a.config = .error f) :
    process segment a = (a, some f) := by
  rw [process_eq, failed]
  rfl

theorem alone_ok (reached : segment.emission inv config = .ok rs) :
    succeeds inv config segment = true ∧ output inv config segment = rs ∧
      (alone inv config segment).2 = none := by
  have done : alone inv config segment = ((fresh inv config).take rs, none) :=
    process_accepted reached fun _ _ _ => rfl
  have stored : ((fresh inv config).take rs).records = rs := (Intake.storeAll_sink _ rs).1
  unfold succeeds output
  rw [done]
  exact ⟨rfl, stored, rfl⟩

theorem alone_error (failed : segment.emission inv config = .error f) :
    succeeds inv config segment = false ∧ output inv config segment = [] ∧
      (alone inv config segment).2 = some f := by
  have done : alone inv config segment = (fresh inv config, some f) := process_failed failed
  unfold succeeds output
  rw [done]
  exact ⟨rfl, rfl, rfl⟩

/-- Whatever was processed before, a segment adds what it adds alone and fails as it fails alone, if
the sink accepts its records. -/
theorem process_as_alone (segment : Segment)
    (accepts : a.intake.Accepts (output a.inventory a.config segment).length) :
    process segment a =
      (if succeeds a.inventory a.config segment then a.take (output a.inventory a.config segment)
        else a, (alone a.inventory a.config segment).2) := by
  cases reached : segment.emission a.inventory a.config with
  | ok rs =>
    obtain ⟨succeeds, output, outcome⟩ := alone_ok reached
    rw [output] at accepts
    rw [process_accepted reached accepts, succeeds, output, outcome]
    rfl
  | error f =>
    obtain ⟨fails, _, outcome⟩ := alone_error reached
    rw [process_failed reached, fails, outcome]
    rfl

theorem slowQuery_succeeds : (alone impatient.inventory impatient.config slowQuery).2 = none := by
  rw [← Option.isNone_iff_eq_none]
  decide +kernel

theorem emission_of_succeeds (alone : succeeds inv config segment = true) :
    segment.emission inv config = .ok (output inv config segment) := by
  cases reached : segment.emission inv config with
  | ok rs =>
    obtain ⟨_, output, _⟩ := alone_ok reached
    rw [output]
  | error f =>
    obtain ⟨fails, _, _⟩ := alone_error reached
    rw [fails] at alone
    cases alone

/-- Of an analyzer only the intake and the number of segments change, and the intake only by
offers. -/
theorem process_keeps {P : Intake → Prop} (kept : ∀ r, Step.Keeps P (Intake.offer r))
    (segment : Segment) :
    Step.Keeps (fun a => a.inventory = inv ∧ a.config = config ∧ P a.intake)
      (process segment) := by
  rintro a ⟨inventory, config, h⟩
  rw [process_eq]
  cases segment.emission a.inventory a.config with
  | error f => exact ⟨inventory, config, h⟩
  | ok rs =>
    have offered : P (Step.each Intake.offer rs a.intake).1 :=
      Step.keeps_each (fun r _ => kept r) a.intake h
    simp only [Step.ofExcept, emit, Step.andThen, Step.zoom]
    rcases done : Step.each Intake.offer rs a.intake with ⟨i, _ | f⟩
    · rw [done] at offered
      exact ⟨inventory, config, offered⟩
    · rw [done] at offered
      exact ⟨inventory, config, offered⟩

theorem emission_records (reached : segment.emission inv config = .ok rs) :
    rs = segment.records inv config := by
  obtain ⟨info, l, told, gathered, rfl⟩ := Segment.emission_ok_iff.mp reached
  have sound : Listener.Sound inv (Listener.gather inv config info segment.events).1 :=
    Listener.gather_sound (Segment.info_dated told) segment.events
  rw [gathered] at sound
  exact Listener.records_heard sound (Listener.gather_heard (Segment.info_names told) gathered)

/-- What a segment adds alone are the records that it publishes, or none if it fails. -/
theorem output_eq :
    output inv config segment =
      if succeeds inv config segment then segment.records inv config else [] := by
  cases reached : segment.emission inv config with
  | ok rs =>
    obtain ⟨succeeds, output, _⟩ := alone_ok reached
    rw [succeeds, output, emission_records reached]
    rfl
  | error f =>
    obtain ⟨fails, output, _⟩ := alone_error reached
    rw [fails, output]
    rfl

end Analyzer

end TraceScope
