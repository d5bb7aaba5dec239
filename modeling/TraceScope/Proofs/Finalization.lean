import TraceScope.Listener
import TraceScope.Proofs.Legs

/-!
# Publication after any history

A listener keeps complete call legs only, whatever it is told and whichever events fail. So it can
publish at any time: neither a missing column nor an unknown endpoint can stop it, only the sink.
-/

namespace TraceScope

theorem Leg.missing_filed {e : Edge} {b : Value} (complete : e.Complete)
    (dated : b.isNull = false) : ({ edge := e, bucket := some b } : Leg).missing = [] := by
  obtain ⟨s₁, s₂, d₁, d₂⟩ := complete
  exact Draft.missing_ofEdge.mpr ⟨s₁, s₂, d₁, d₂, dated⟩

/-- A minute comes with what is known of the segment. -/
def SegmentInfo.Dated (info : SegmentInfo) : Prop :=
  ∃ b, info.minuteBucket = some b ∧ b.isNull = false

namespace Listener

/-! ### What a listener keeps -/

/-- All legs are complete, a minute is fixed if there are any, and the endpoints that outgoing legs
may be given are registered. -/
structure Sound (inv : Inventory) (l : Listener) : Prop where
  entries : ∀ leg ∈ l.entryLegs, leg.edge.Complete
  exits : ∀ leg ∈ l.exitLegs, leg.edge.Complete
  minute : ∀ b, l.minuteBucket = some b → b.isNull = false
  dated : l.entryLegs ≠ [] ∨ l.exitLegs ≠ [] → l.minuteBucket ≠ none
  remembered : ∀ span, l.entrySpan = some span → inv.HasEndpoint span.operationId
  user : l.exitLegs ≠ [] → inv.HasEndpoint userId

variable {inv : Inventory} {config : Config} {info : SegmentInfo} {l : Listener}

theorem new_sound : Sound inv ({} : Listener) := by
  constructor <;> simp

theorem register_sound (r : Registration) (h : Sound inv l) : Sound (inv.register r) l :=
  { h with
    remembered := fun span known => Inventory.hasEndpoint_register r (h.remembered span known)
    user := fun some => Inventory.hasEndpoint_register r (h.user some) }

/-- Legs may be added once the minute is fixed. -/
def Ready (inv : Inventory) (l : Listener) : Prop := Sound inv l ∧ l.minuteBucket ≠ none

theorem fixMinute_ready (dated : info.Dated) (h : Sound inv l) : Ready inv (fixMinute info l) := by
  obtain ⟨b, told, present⟩ := dated
  cases known : l.minuteBucket with
  | none =>
    have fixed : (fixMinute info l).minuteBucket = some b := by simp [fixMinute, known, told]
    refine ⟨{ h with minute := ?_, dated := ?_ }, ?_⟩
    · intro c same
      rw [fixed] at same
      cases same
      exact present
    · exact fun _ => by rw [fixed]; exact Option.some_ne_none b
    · rw [fixed]
      exact Option.some_ne_none b
  | some c =>
    have same : fixMinute info l = l := by
      cases l
      cases known
      rfl
    rw [same]
    exact ⟨h, by rw [known]; exact Option.some_ne_none c⟩

theorem addEntryLeg_ready {e : Edge} (complete : e.Complete) (h : Ready inv l) :
    Ready inv (addEntryLeg e l) := by
  obtain ⟨sound, fixed⟩ := h
  refine ⟨{ sound with entries := ?_, dated := fun _ => fixed }, fixed⟩
  intro leg member
  rcases List.mem_append.mp member with old | added
  · exact sound.entries leg old
  · obtain rfl := List.mem_singleton.mp added
    exact complete

theorem addExitLeg_ready {e : Edge} (complete : e.Complete) (user : inv.HasEndpoint userId)
    (h : Ready inv l) : Ready inv (addExitLeg e l) := by
  obtain ⟨sound, fixed⟩ := h
  refine ⟨{ sound with exits := ?_, dated := fun _ => fixed, user := fun _ => user }, fixed⟩
  intro leg member
  rcases List.mem_append.mp member with old | added
  · exact sound.exits leg old
  · obtain rfl := List.mem_singleton.mp added
    exact complete

theorem addEntryLegs_ready (span : Span) :
    Step.Keeps (Ready inv) (addEntryLegs inv info span) := by
  unfold addEntryLegs
  split
  · apply Step.keeps_ofExcept
    intro e made
    exact Step.keeps_update fun _ => addEntryLeg_ready (Edge.ofUser_complete made).1
  · apply Step.keeps_each
    intro ref _
    apply Step.keeps_ofExcept
    intro e made
    exact Step.keeps_update fun _ => addEntryLeg_ready (Edge.ofReference_complete made).1

theorem addEntryLegs_endpoint {span : Span} {t : Listener}
    (done : addEntryLegs inv info span l = (t, none)) : inv.HasEndpoint span.operationId := by
  cases refs : span.references with
  | nil =>
    simp only [addEntryLegs, refs] at done
    obtain ⟨e, made, _⟩ := Step.ofExcept_done done
    exact (Edge.ofUser_complete made).2
  | cons ref rest =>
    simp only [addEntryLegs, refs] at done
    obtain ⟨u, first, _⟩ := Step.andThen_eq_none.mp done
    obtain ⟨e, made, _⟩ := Step.ofExcept_done first
    exact (Edge.ofReference_complete made).2

theorem onEntry_sound (dated : info.Dated) (span : Span) :
    Step.Keeps (Sound inv) (onEntry inv info span) := by
  intro l h
  have ready := fixMinute_ready dated h
  have kept : Ready inv (addEntryLegs inv info span (fixMinute info l)).1 :=
    addEntryLegs_ready span _ ready
  unfold onEntry
  rw [Step.andThen_ok (t := fixMinute info l) rfl]
  rcases done : addEntryLegs inv info span (fixMinute info l) with ⟨t, _ | f⟩
  · rw [done] at kept
    rw [Step.andThen_ok done]
    refine { kept.1 with remembered := ?_ }
    intro known same
    cases same
    exact addEntryLegs_endpoint done
  · rw [done] at kept
    rw [Step.andThen_failed done]
    exact kept.1

theorem addSlowStatement_keeps {P : Listener → Prop} (span : Span) (e : Edge)
    (kept : ∀ l s, P l → P { l with slowStatements := l.slowStatements ++ [s] }) :
    Step.Keeps P (addSlowStatement config info span e) := by
  intro l h
  unfold addSlowStatement
  split
  · split
    · exact h
    · exact kept l _ h
    · exact h
  · exact h

theorem onExit_sound (dated : info.Dated) (span : Span) :
    Step.Keeps (Sound inv) (onExit inv config info span) := by
  intro l h
  have ready := fixMinute_ready dated h
  have kept : Step.Keeps (Ready inv)
      (if span.peerId = noId then .skip
        else .ofExcept (Edge.ofExit inv info span) fun e =>
          (Step.update (addExitLeg e)).andThen (addSlowStatement config info span e)) := by
    split
    · exact Step.keeps_skip
    · apply Step.keeps_ofExcept
      intro e made
      obtain ⟨complete, user⟩ := Edge.ofExit_complete made
      have added : Step.Keeps (Ready inv) (Step.update (addExitLeg e)) :=
        Step.keeps_update fun _ => addExitLeg_ready complete user
      apply Step.keeps_andThen added
      apply addSlowStatement_keeps
      exact fun l s ⟨sound, fixed⟩ => ⟨{ sound with }, fixed⟩
  exact (kept _ ready).1

theorem onTraceId_sound (parts : List Value) :
    Step.Keeps (Sound inv) (onTraceId config parts) := by
  intro l h
  unfold onTraceId
  split
  · exact { h with }
  · exact h

/-- Whatever a listener is told, and whether that succeeds or not, its legs stay complete. -/
theorem receive_sound (dated : info.Dated) (e : Event) :
    Step.Keeps (Sound inv) (receive inv config info e) := by
  cases e with
  | entry span => exact onEntry_sound dated span
  | exit span => exact onExit_sound dated span
  | traceId parts => exact onTraceId_sound parts

/-! ### What a listener publishes -/

/-- An outgoing leg as it is published. -/
def filedExit (inv : Inventory) (l : Listener) (leg : Leg) : Leg :=
  { edge := leg.edge.withSourceEndpoint l.sourceEndpoint (inv.operationName l.sourceEndpoint)
    bucket := l.minuteBucket }

def entryRecords (l : Listener) : List Record :=
  l.entryLegs.flatMap fun leg => (leg.file l.minuteBucket).records Edge.entryFacets

def exitRecords (inv : Inventory) (l : Listener) : List Record :=
  l.exitLegs.flatMap fun leg => (filedExit inv l leg).records Edge.exitFacets

def records (inv : Inventory) (l : Listener) : List Record :=
  l.entryRecords ++ (l.exitRecords inv ++ l.slowStatements.map .slow)

variable {ρ : Type} (offer : Record → Step ρ)

theorem publishLeg_filed {leg : Leg} (facets : Edge → List Facet) (filed : leg.missing = []) :
    publishLeg offer facets leg = Step.each offer (leg.records facets) := by
  simp only [publishLeg, filed]

/-- Legs that can be prepared and miss nothing are published by offering their records. -/
theorem publishLegs_offers (facets : Edge → List Facet) {prepare : Leg → Except Fault Leg}
    {filed : Leg → Leg} {legs : List Leg} (prepared : ∀ leg ∈ legs, prepare leg = .ok (filed leg))
    (nothing : ∀ leg ∈ legs, (filed leg).missing = []) (before : List Leg) (r : ρ) :
    ∃ after, publishLegs prepare (publishLeg offer facets) legs (before, r) =
        ((after, (Step.each offer (legs.flatMap fun leg => (filed leg).records facets) r).1),
          (Step.each offer (legs.flatMap fun leg => (filed leg).records facets) r).2) ∧
      ∀ leg ∈ after, ∃ old ∈ legs, leg = old ∨ leg = filed old := by
  induction legs generalizing before r with
  | nil => exact ⟨[], rfl, fun leg member => by cases member⟩
  | cons leg rest ih =>
    have head := publishLeg_filed offer facets (nothing leg List.mem_cons_self)
    rw [List.flatMap_cons, Step.each_append]
    simp only [publishLegs, prepared leg List.mem_cons_self, head]
    rcases done : Step.each offer ((filed leg).records facets) r with ⟨t, _ | f⟩
    · obtain ⟨after, published, known⟩ :=
        ih (fun x member => prepared x (List.mem_cons_of_mem leg member))
          (fun x member => nothing x (List.mem_cons_of_mem leg member)) rest t
      refine ⟨filed leg :: after, by simp only [published, Step.andThen_ok done], ?_⟩
      intro x member
      rcases List.mem_cons.mp member with rfl | later
      · exact ⟨leg, List.mem_cons_self, Or.inr rfl⟩
      · obtain ⟨old, present, same⟩ := known x later
        exact ⟨old, List.mem_cons_of_mem leg present, same⟩
    · refine ⟨filed leg :: rest, by simp only [Step.andThen_failed done], ?_⟩
      intro x member
      rcases List.mem_cons.mp member with rfl | later
      · exact ⟨leg, List.mem_cons_self, Or.inr rfl⟩
      · exact ⟨x, List.mem_cons_of_mem leg later, Or.inl rfl⟩

theorem sourceEndpoint_known (h : Sound inv l) (legs : l.exitLegs ≠ []) :
    inv.HasEndpoint l.sourceEndpoint := by
  cases known : l.entrySpan with
  | none => simpa only [sourceEndpoint, known] using h.user legs
  | some span => simpa only [sourceEndpoint, known] using h.remembered span known

theorem minute_fixed (h : Sound inv l) (legs : l.entryLegs ≠ [] ∨ l.exitLegs ≠ []) :
    ∃ b, l.minuteBucket = some b ∧ b.isNull = false := by
  obtain ⟨b, fixed⟩ := Option.ne_none_iff_exists'.mp (h.dated legs)
  exact ⟨b, fixed, h.minute b fixed⟩

theorem ne_nil_of_origin {α β : Type} {as : List α} {bs : List β} {R : α → β → Prop}
    (known : ∀ b ∈ bs, ∃ a ∈ as, R a b) (some : bs ≠ []) : as ≠ [] := by
  obtain ⟨b, member⟩ := List.exists_mem_of_ne_nil bs some
  obtain ⟨a, present, _⟩ := known b member
  exact List.ne_nil_of_mem present

theorem publishEntries_offers (h : Sound inv l) (r : ρ) :
    ∃ legs, publishEntries offer (l, r) =
        (({ l with entryLegs := legs }, (Step.each offer l.entryRecords r).1),
          (Step.each offer l.entryRecords r).2) ∧
      Sound inv { l with entryLegs := legs } := by
  have prepared : ∀ leg ∈ l.entryLegs,
      (.ok (leg.file l.minuteBucket) : Except Fault Leg) = .ok (leg.file l.minuteBucket) :=
    fun _ _ => rfl
  have nothing : ∀ leg ∈ l.entryLegs, (leg.file l.minuteBucket).missing = [] := by
    intro leg member
    obtain ⟨b, fixed, present⟩ := minute_fixed h (Or.inl (List.ne_nil_of_mem member))
    rw [fixed]
    exact Leg.missing_filed (h.entries leg member) present
  obtain ⟨after, published, known⟩ :=
    publishLegs_offers offer Edge.entryFacets prepared nothing l.entryLegs r
  refine ⟨after, by simp only [publishEntries, published, entryRecords], ?_⟩
  refine { h with entries := ?_, dated := ?_ }
  · intro leg member
    obtain ⟨old, present, rfl | rfl⟩ := known leg member
    · exact h.entries leg present
    · exact h.entries old present
  · intro legs
    exact h.dated (legs.imp_left (ne_nil_of_origin known))

theorem publishExits_offers (h : Sound inv l) (r : ρ) :
    ∃ legs, publishExits inv offer (l, r) =
        (({ l with exitLegs := legs }, (Step.each offer (l.exitRecords inv) r).1),
          (Step.each offer (l.exitRecords inv) r).2) ∧
      Sound inv { l with exitLegs := legs } := by
  have prepared : ∀ leg ∈ l.exitLegs,
      fileExit inv l.sourceEndpoint l.minuteBucket leg = .ok (filedExit inv l leg) := by
    intro leg member
    have known := sourceEndpoint_known h (List.ne_nil_of_mem member)
    have named : inv.endpointName l.sourceEndpoint = .ok (inv.operationName l.sourceEndpoint) :=
      Inventory.endpointName_ok_iff.mpr ⟨known, rfl⟩
    simp only [fileExit, filedExit, named]
    rfl
  have nothing : ∀ leg ∈ l.exitLegs, (filedExit inv l leg).missing = [] := by
    intro leg member
    obtain ⟨b, fixed, present⟩ := minute_fixed h (Or.inr (List.ne_nil_of_mem member))
    have complete : (leg.edge.withSourceEndpoint l.sourceEndpoint
        (inv.operationName l.sourceEndpoint)).Complete := h.exits leg member
    rw [filedExit, fixed]
    exact Leg.missing_filed complete present
  obtain ⟨after, published, known⟩ :=
    publishLegs_offers offer Edge.exitFacets prepared nothing l.exitLegs r
  refine ⟨after, by simp only [publishExits, published, exitRecords], ?_⟩
  refine { h with exits := ?_, dated := ?_, user := ?_ }
  · intro leg member
    obtain ⟨old, present, rfl | rfl⟩ := known leg member
    · exact h.exits leg present
    · exact h.exits old present
  · intro legs
    exact h.dated (legs.imp_right (ne_nil_of_origin known))
  · intro legs
    exact h.user (ne_nil_of_origin known legs)

theorem publishSlow_offers (r : ρ) :
    publishSlow offer (l, r) =
      ((l, (Step.each offer (l.slowStatements.map .slow) r).1),
        (Step.each offer (l.slowStatements.map .slow) r).2) := by
  rw [Step.each_map]
  rfl

/-- To publish is to offer the records of the listener to the sink, and nothing else. -/
theorem build_offers (h : Sound inv l) (r : ρ) :
    ∃ after, build inv offer (l, r) =
        ((after, (Step.each offer (l.records inv) r).1),
          (Step.each offer (l.records inv) r).2) ∧ Sound inv after := by
  obtain ⟨entries, first, sound⟩ := publishEntries_offers offer h r
  simp only [build, records, Step.each_append]
  rcases done : Step.each offer l.entryRecords r with ⟨s, _ | f⟩
  · obtain ⟨exits, second, sound'⟩ := publishExits_offers offer sound s
    rw [done] at first
    rw [Step.andThen_ok first, Step.andThen_ok done]
    change publishExits inv offer _ = ((_, (Step.each offer (l.exitRecords inv) s).1),
      (Step.each offer (l.exitRecords inv) s).2) at second
    rcases done' : Step.each offer (l.exitRecords inv) s with ⟨t, _ | f⟩
    · rw [done'] at second
      rw [Step.andThen_ok second, Step.andThen_ok done']
      exact ⟨_, publishSlow_offers offer t, sound'⟩
    · rw [done'] at second
      rw [Step.andThen_failed second, Step.andThen_failed done']
      exact ⟨_, rfl, sound'⟩
  · rw [done] at first
    rw [Step.andThen_failed first, Step.andThen_failed done]
    exact ⟨_, rfl, sound⟩

end Listener

/-! ### Histories of a listener -/

/-- A listener with the inventory that it searches and the state of the sink. -/
structure Session (ρ : Type) where
  inventory : Inventory
  listener : Listener := {}
  sink : ρ

namespace Session

/-- What may happen to a listener and its inventory. -/
inductive Act
  | register (r : Registration)
  | tell (info : SegmentInfo) (e : Event)
  | build

variable {ρ : Type}

/-- One act. A fault is left to the caller, who goes on from what was done before it. -/
def step (config : Config) (offer : Record → Step ρ) (s : Session ρ) : Act → Session ρ
  | .register r => { s with inventory := s.inventory.register r }
  | .tell info e => { s with listener := (Listener.receive s.inventory config info e s.listener).1 }
  | .build =>
    let published := (Listener.build s.inventory offer (s.listener, s.sink)).1
    { s with listener := published.1, sink := published.2 }

def run (config : Config) (offer : Record → Step ρ) (s : Session ρ) (acts : List Act) : Session ρ :=
  acts.foldl (step config offer) s

def publish (offer : Record → Step ρ) (s : Session ρ) : ρ × Option Fault :=
  let published := Listener.build s.inventory offer (s.listener, s.sink)
  (published.1.2, published.2)

def records (s : Session ρ) : List Record := s.listener.records s.inventory

/-- What is told of a segment comes with a whole number for its minute. -/
def Act.Dated : Act → Prop
  | .tell info _ => ∃ n, info.minuteBucket = some (.int n)
  | _ => True

variable {config : Config} {offer : Record → Step ρ} {s : Session ρ}

theorem step_sound {act : Act} (dated : act.Dated) (h : s.listener.Sound s.inventory) :
    (step config offer s act).listener.Sound (step config offer s act).inventory := by
  cases act with
  | register r => exact Listener.register_sound r h
  | tell info e =>
    obtain ⟨n, told⟩ := dated
    exact Listener.receive_sound ⟨.int n, told, rfl⟩ e s.listener h
  | build =>
    obtain ⟨after, published, sound⟩ := Listener.build_offers offer h s.sink
    simp only [step, published]
    exact sound

theorem run_sound {acts : List Act} (dated : ∀ act ∈ acts, act.Dated)
    (h : s.listener.Sound s.inventory) :
    (run config offer s acts).listener.Sound (run config offer s acts).inventory :=
  List.foldlRecOn acts (step config offer) (motive := fun s => s.listener.Sound s.inventory) h
    fun _ sound act member => step_sound (dated act member) sound

/-- After any history of a listener nothing is missing from its legs, the endpoint that its outgoing
legs are given is registered, and a publication does no more than offer records to the sink: it can
fail only because the sink refuses one of them. -/
theorem publish_fails_by_sink_only (config : Config) (offer : Record → Step ρ)
    (inventory : Inventory) (sink : ρ) (acts : List Act) (dated : ∀ act ∈ acts, act.Dated) :
    let s := run config offer { inventory, sink } acts
    (∀ leg ∈ s.listener.entryLegs ++ s.listener.exitLegs,
      (leg.file s.listener.minuteBucket).missing = []) ∧
    (s.listener.exitLegs ≠ [] → s.inventory.HasEndpoint s.listener.sourceEndpoint) ∧
    s.publish offer = Step.each offer s.records s.sink ∧
    ∀ f, (s.publish offer).2 = some f → ∃ r ∈ s.records, ∃ t, (offer r t).2 = some f := by
  intro s
  have sound : s.listener.Sound s.inventory := run_sound dated Listener.new_sound
  have offered : s.publish offer = Step.each offer s.records s.sink := by
    obtain ⟨after, outcome, _⟩ := Listener.build_offers offer sound s.sink
    simp only [publish, outcome, records]
  refine ⟨?_, Listener.sourceEndpoint_known sound, offered, ?_⟩
  · intro leg member
    have complete : leg.edge.Complete := by
      rcases List.mem_append.mp member with entry | exit
      · exact sound.entries leg entry
      · exact sound.exits leg exit
    have legs : s.listener.entryLegs ≠ [] ∨ s.listener.exitLegs ≠ [] :=
      (List.mem_append.mp member).imp List.ne_nil_of_mem List.ne_nil_of_mem
    obtain ⟨b, fixed, present⟩ := Listener.minute_fixed sound legs
    rw [fixed]
    exact Leg.missing_filed complete present
  · intro f failed
    rw [offered] at failed
    exact Step.each_fault failed

def interrupted : List Act :=
  let span : Span :=
    { id := 0, parentId := -1, kind := .exit, layer := .database, startTime := 0, endTime := 5
      isError := false, operationId := 5, peerId := 9, componentId := 0, tags := []
      references := [] }
  let info : SegmentInfo :=
    { segmentId := "s", serviceId := .int 2, instanceId := .int 3, minuteBucket := some (.int 7) }
  let entry : Event := .entry { span with operationId := 6 }
  [.register (.service { id := 2, name := .text "shop", addressId := 9 }),
    .register (.inst { id := 3, name := .text "shop-1", serviceId := 2, addressId := 9 }),
    .register (.endpoint { id := 5, name := .text "/pay" }),
    .tell info (.exit span), .tell info entry, .build,
    .register (.endpoint { id := 6, name := .text "/cart" }),
    .tell { info with minuteBucket := some (.int 8) } entry]

/-- A sink that counts what it is offered has three records after the first publication, and ten
more after the second. -/
theorem publish_interrupted :
    let count : Record → Step Nat := fun _ => .update (· + 1)
    let s := run { limit := .chars 2000, thresholds := {} } count
      { inventory := .initial, sink := 0 } interrupted
    (∀ act ∈ interrupted, act.Dated) ∧ s.sink = 3 ∧ s.publish count = (13, none) := by
  intro count s
  have dated : ∀ act ∈ interrupted, act.Dated := by simp [interrupted, Act.Dated]
  have offered : s.publish count = Step.each count s.records s.sink :=
    (publish_fails_by_sink_only _ count .initial 0 interrupted dated).2.2.1
  refine ⟨dated, by decide +kernel, offered.trans (Prod.ext ?_ (Option.isNone_iff_eq_none.mp ?_))⟩
  · decide +kernel
  · decide +kernel

end Session

end TraceScope
