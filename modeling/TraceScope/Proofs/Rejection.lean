import Mathlib.Algebra.Order.Group.Multiset
import Mathlib.Data.List.Forall2
import Mathlib.Tactic.Abel
import TraceScope.Proofs.Remembering

/-!
# Rejected calls

A call that ends in a fault is neither remembered nor taken for slow. But the legs that were made
before the fault stay with the listener, and are published with what it is told later.
-/

namespace TraceScope

namespace Step

variable {σ α : Type} {g : σ → σ} {a b : Step σ}

/-- A step does the same, with the same fault, to a changed state. -/
def Commutes (g : σ → σ) (a : Step σ) : Prop := ∀ s, a (g s) = (g (a s).1, (a s).2)

theorem commutes_skip : Commutes g skip := fun _ => rfl

theorem commutes_fail (f : Fault) : Commutes g (fail f) := fun _ => rfl

theorem commutes_update {h : σ → σ} (same : ∀ s, h (g s) = g (h s)) : Commutes g (update h) :=
  fun s => Prod.ext (same s) rfl

theorem commutes_andThen (first : Commutes g a) (second : Commutes g b) :
    Commutes g (a.andThen b) := by
  intro s
  rcases done : a s with ⟨t, _ | f⟩
  · have there : a (g s) = (g t, none) := by rw [first s, done]
    rw [andThen_ok there, andThen_ok done, second t]
  · have there : a (g s) = (g t, some f) := by rw [first s, done]
    rw [andThen_failed there, andThen_failed done]

theorem commutes_ofExcept {x : Except Fault α} {next : α → Step σ}
    (later : ∀ r, Commutes g (next r)) : Commutes g (ofExcept x next) := by
  cases x with
  | ok r => exact later r
  | error f => exact commutes_fail f

theorem commutes_each {step : α → Step σ} (single : ∀ r, Commutes g (step r)) (items : List α) :
    Commutes g (each step items) := by
  induction items with
  | nil => exact commutes_skip
  | cons r rest ih => exact commutes_andThen (single r) ih

end Step

namespace Listener

variable {inv : Inventory} {config : Config} {info : SegmentInfo} {l : Listener} {f : Fault}

/-! ### What a rejected call leaves -/

def legs (edges : List Edge) : List Leg := edges.map fun e => { edge := e }

/-- A listener with more incoming and outgoing calls. -/
def withCalls (ins outs : List Edge) (l : Listener) : Listener :=
  { l with entryLegs := l.entryLegs ++ legs ins, exitLegs := l.exitLegs ++ legs outs }

theorem withCalls_nothing (l : Listener) : l.withCalls [] [] = l := by
  simp only [withCalls, legs, List.map_nil, List.append_nil]

theorem withCalls_cons (e : Edge) (ins : List Edge) (l : Listener) :
    l.withCalls (e :: ins) [] = (addEntryLeg e l).withCalls ins [] := by
  simp only [withCalls, addEntryLeg, legs, List.append_assoc, List.map_cons,
    List.singleton_append]

/-- A call that ends in a fault, with the incoming and outgoing calls that were found before it. -/
inductive Leaves (inv : Inventory) (config : Config) (info : SegmentInfo) (traceId : Option Text)
    (f : Fault) : Event → List Edge → List Edge → Prop
  | user {span : Span} (alone : span.references = [])
      (failed : Edge.ofUser inv info span = .error f) :
      Leaves inv config info traceId f (.entry span) [] []
  | reference {span : Span} {before after : List Reference} {ref : Reference} {edges : List Edge}
      (refs : span.references = before ++ ref :: after)
      (made : List.Forall₂ (fun r e => Edge.ofReference inv info span r = .ok e) before edges)
      (failed : Edge.ofReference inv info span ref = .error f) :
      Leaves inv config info traceId f (.entry span) edges []
  | peer {span : Span} (failed : Edge.ofExit inv info span = .error f) :
      Leaves inv config info traceId f (.exit span) [] []
  | statement {span : Span} {e : Edge} (made : Edge.ofExit inv info span = .ok e)
      (database : e.requestType = .database)
      (failed : slowStatement? config info span e traceId = .error f) :
      Leaves inv config info traceId f (.exit span) [] [e]

/-- Legs are added up to the first reference that fails. -/
theorem each_reference_fault {make : Reference → Except Fault Edge} {refs : List Reference}
    (failed : (Step.each (fun ref => .ofExcept (make ref) fun e => .update (addEntryLeg e))
      refs l).2 = some f) :
    ∃ before ref after edges, refs = before ++ ref :: after ∧
      List.Forall₂ (fun r e => make r = .ok e) before edges ∧ make ref = .error f ∧
      (Step.each (fun ref => .ofExcept (make ref) fun e => .update (addEntryLeg e)) refs l).1 =
        l.withCalls edges [] := by
  induction refs generalizing l with
  | nil => cases failed
  | cons ref rest ih =>
    rw [Step.each_cons] at failed ⊢
    cases made : make ref with
    | error g =>
      rw [made] at failed
      obtain rfl : g = f := Option.some.inj failed
      exact ⟨[], ref, rest, [], rfl, .nil, made, (withCalls_nothing l).symm⟩
    | ok e =>
      have first : Step.ofExcept (.ok e) (fun e => .update (addEntryLeg e)) l =
          (addEntryLeg e l, none) := rfl
      rw [made, Step.andThen_ok first] at failed
      obtain ⟨before, ref', after, edges, rfl, found, there, left⟩ := ih failed
      refine ⟨ref :: before, ref', after, e :: edges, rfl, .cons made found, there, ?_⟩
      rw [Step.andThen_ok first, left, withCalls_cons]

theorem onEntry_rejected {span : Span} (rejected : (onEntry inv info span l).2 = some f) :
    ∃ ins, Leaves inv config info l.traceId f (.entry span) ins [] ∧
      (onEntry inv info span l).1 = (fixMinute info l).withCalls ins [] := by
  unfold onEntry at rejected ⊢
  rw [Step.andThen_ok (t := fixMinute info l) rfl] at rejected ⊢
  -- The last step, which remembers the span, cannot fail.
  rcases done : addEntryLegs inv info span (fixMinute info l) with ⟨t, _ | g⟩
  · rw [Step.andThen_ok done] at rejected
    cases rejected
  · rw [Step.andThen_failed done] at rejected ⊢
    obtain rfl : g = f := Option.some.inj rejected
    cases refs : span.references with
    | nil =>
      simp only [addEntryLegs, refs] at done
      cases made : Edge.ofUser inv info span with
      | ok e =>
        rw [made] at done
        cases (Prod.mk.inj done).2
      | error h =>
        rw [made] at done
        obtain ⟨rfl, same⟩ := Prod.mk.inj done
        obtain rfl : h = g := Option.some.inj same
        exact ⟨[], .user refs made, (withCalls_nothing _).symm⟩
    | cons ref rest =>
      simp only [addEntryLegs, refs] at done
      obtain ⟨before, ref', after, edges, split, found, there, left⟩ :=
        each_reference_fault (congrArg Prod.snd done)
      refine ⟨edges, .reference (refs.trans split) found there, ?_⟩
      rw [← left, done]

theorem addSlowStatement_rejected {span : Span} {e : Edge}
    (rejected : (addSlowStatement config info span e l).2 = some f) :
    e.requestType = .database ∧ slowStatement? config info span e l.traceId = .error f ∧
      (addSlowStatement config info span e l).1 = l := by
  unfold addSlowStatement at rejected ⊢
  split at rejected
  · rename_i database
    rw [if_pos database]
    cases found : slowStatement? config info span e l.traceId with
    | error g =>
      rw [found] at rejected
      obtain rfl : g = f := Option.some.inj rejected
      exact ⟨database, rfl, rfl⟩
    | ok o =>
      rw [found] at rejected
      cases o <;> cases rejected
  · cases rejected

theorem onExit_rejected {span : Span} (rejected : (onExit inv config info span l).2 = some f) :
    ∃ outs, Leaves inv config info l.traceId f (.exit span) [] outs ∧
      (onExit inv config info span l).1 = (fixMinute info l).withCalls [] outs := by
  unfold onExit at rejected ⊢
  rw [Step.andThen_ok (t := fixMinute info l) rfl] at rejected ⊢
  split at rejected
  · cases rejected
  · rename_i called
    rw [if_neg called]
    cases made : Edge.ofExit inv info span with
    | error g =>
      rw [made] at rejected
      obtain rfl : g = f := Option.some.inj rejected
      exact ⟨[], .peer made, (withCalls_nothing _).symm⟩
    | ok e =>
      rw [made] at rejected
      obtain ⟨database, failed, left⟩ := addSlowStatement_rejected
        (l := addExitLeg e (fixMinute info l)) rejected
      refine ⟨[e], .statement made database failed, left.trans ?_⟩
      simp only [withCalls, addExitLeg, legs, List.map_nil, List.append_nil, List.map_singleton]

/-- Of a rejected call a listener keeps the minute and the legs that were made before the fault. -/
theorem receive_rejected {e : Event} (call : ∀ parts, e ≠ .traceId parts)
    (rejected : (receive inv config info e l).2 = some f) :
    ∃ ins outs, Leaves inv config info l.traceId f e ins outs ∧
      (receive inv config info e l).1 = (fixMinute info l).withCalls ins outs := by
  cases e with
  | entry span =>
    obtain ⟨ins, leaves, left⟩ := onEntry_rejected rejected
    exact ⟨ins, [], leaves, left⟩
  | exit span =>
    obtain ⟨outs, leaves, left⟩ := onExit_rejected rejected
    exact ⟨[], outs, leaves, left⟩
  | traceId parts => exact absurd rfl (call parts)

/-! ### What is told later -/

/-- A listener that was told of other calls before. -/
def withEarlier (ins outs : List Leg) (l : Listener) : Listener :=
  { l with entryLegs := ins ++ l.entryLegs, exitLegs := outs ++ l.exitLegs }

theorem addSlowStatement_withEarlier (ins outs : List Leg) (span : Span) (e : Edge) :
    Step.Commutes (withEarlier ins outs) (addSlowStatement config info span e) := by
  intro l
  have same : (l.withEarlier ins outs).traceId = l.traceId := rfl
  unfold addSlowStatement
  rw [same]
  split
  · cases slowStatement? config info span e l.traceId with
    | error f => rfl
    | ok found => cases found <;> rfl
  · rfl

theorem onTraceId_withEarlier (ins outs : List Leg) (parts : List Value) :
    Step.Commutes (withEarlier ins outs) (onTraceId config parts) := by
  intro l
  have same : (l.withEarlier ins outs).traceId = l.traceId := rfl
  unfold onTraceId
  rw [same]
  cases TraceId.accept config.stack l.traceId parts <;> rfl

/-- Earlier legs have no influence on what a listener makes of an event. -/
theorem receive_withEarlier (ins outs : List Leg) (e : Event) :
    Step.Commutes (withEarlier ins outs) (receive inv config info e) := by
  have minute : Step.Commutes (withEarlier ins outs) (.update (fixMinute info)) :=
    Step.commutes_update fun _ => rfl
  have entry : ∀ e, Step.Commutes (withEarlier ins outs) (.update (addEntryLeg e)) := fun e =>
    Step.commutes_update fun l => by simp only [withEarlier, addEntryLeg, List.append_assoc]
  have exit : ∀ e, Step.Commutes (withEarlier ins outs) (.update (addExitLeg e)) := fun e =>
    Step.commutes_update fun l => by simp only [withEarlier, addExitLeg, List.append_assoc]
  cases e with
  | entry span =>
    change Step.Commutes _ (onEntry inv info span)
    unfold onEntry addEntryLegs
    refine Step.commutes_andThen minute (Step.commutes_andThen ?_ ?_)
    · split
      · exact Step.commutes_ofExcept entry
      · exact Step.commutes_each (fun ref => Step.commutes_ofExcept entry) _
    · exact Step.commutes_update fun _ => rfl
  | exit span =>
    change Step.Commutes _ (onExit inv config info span)
    unfold onExit
    refine Step.commutes_andThen minute ?_
    split
    · exact Step.commutes_skip
    · exact Step.commutes_ofExcept fun e =>
        Step.commutes_andThen (exit e) (addSlowStatement_withEarlier ins outs span e)
  | traceId parts => exact onTraceId_withEarlier ins outs parts

/-- A listener that has made the given calls only, and nothing else. -/
def withCallsOnly (ins outs : List Edge) (l : Listener) : Listener :=
  { l with entryLegs := legs ins, exitLegs := legs outs, slowStatements := [] }

/-- Of two listeners that differ in earlier calls, one has the records of these more. -/
theorem records_withEarlier (before before' : List Leg) (ins outs : List Edge) :
    (records inv (l.withEarlier (before ++ legs ins) (before' ++ legs outs))).Perm
      (records inv (l.withEarlier before before') ++ records inv (l.withCallsOnly ins outs)) := by
  have entries : ∀ as bs, (l.withEarlier as bs).entryRecords =
      (as.flatMap fun leg => (leg.file l.minuteBucket).records Edge.entryFacets) ++
        l.entryRecords := fun as bs => List.flatMap_append
  have exits : ∀ as bs, (l.withEarlier as bs).exitRecords inv =
      (bs.flatMap fun leg => (filedExit inv l leg).records Edge.exitFacets) ++
        l.exitRecords inv := fun as bs => List.flatMap_append
  have slow : ∀ as bs, (l.withEarlier as bs).slowStatements = l.slowStatements := fun _ _ => rfl
  have entries' : (l.withCallsOnly ins outs).entryRecords =
      (legs ins).flatMap fun leg => (leg.file l.minuteBucket).records Edge.entryFacets := rfl
  have exits' : (l.withCallsOnly ins outs).exitRecords inv =
      (legs outs).flatMap fun leg => (filedExit inv l leg).records Edge.exitFacets := rfl
  have slow' : (l.withCallsOnly ins outs).slowStatements = [] := rfl
  simp only [records, entries, exits, slow, entries', exits', slow', List.flatMap_append,
    List.map_nil, List.append_nil, ← Multiset.coe_eq_coe, ← Multiset.coe_add]
  abel

end Listener

namespace Session

open Listener

variable {ρ : Type} {config : Config} {offer : Record → Step ρ} {s : Session ρ}

def withEarlier (ins outs : List Leg) (s : Session ρ) : Session ρ :=
  { s with listener := s.listener.withEarlier ins outs }

/-- Earlier legs have no influence on a history until it comes to a publication. -/
theorem run_withEarlier (ins outs : List Leg) {acts : List Act} (unpublished : .build ∉ acts) :
    run config offer (s.withEarlier ins outs) acts =
      (run config offer s acts).withEarlier ins outs := by
  induction acts generalizing s with
  | nil => rfl
  | cons act rest ih =>
    have single : step config offer (s.withEarlier ins outs) act =
        (step config offer s act).withEarlier ins outs := by
      cases act with
      | register r => rfl
      | tell info e =>
        have told := @receive_withEarlier s.inventory config info ins outs e s.listener
        exact congrArg (fun l => { s with listener := l }) (congrArg Prod.fst told)
      | build => exact absurd List.mem_cons_self unpublished
    change run config offer (step config offer (s.withEarlier ins outs) act) rest = _
    rw [single]
    exact ih fun later => unpublished (List.mem_cons_of_mem act later)

/-- After any history, a rejected call is neither remembered nor taken for slow: the listener is as
it was, but for the minute and the calls that were found before the fault. What it is told later has
the same effect and the same outcome as if there had been no rejected call: both histories lead to
one session, after the legs that there were and, in one of them, those of the calls that were left.
The next publication offers the same records, and those of the calls that were left. -/
theorem run_rejected (config : Config) (offer : Record → Step ρ) (inventory : Inventory) (sink : ρ)
    (acts : List Act) (dated : ∀ act ∈ acts, act.Dated) (info : SegmentInfo) (e : Event)
    (told : (Act.tell info e).Dated) (call : ∀ parts, e ≠ .traceId parts) (f : Fault) :
    let s := run config offer { inventory, sink } acts
    (receive s.inventory config info e s.listener).2 = some f →
    ∃ ins outs, Leaves s.inventory config info s.listener.traceId f e ins outs ∧
      (step config offer s (.tell info e)).listener =
        (s.listener.fixMinute info).withCalls ins outs ∧
      ∀ later : List Act, (∀ act ∈ later, act.Dated) → .build ∉ later →
        let t := run config offer (step config offer s (.tell info e)) later
        let u := run config offer { s with listener := s.listener.fixMinute info } later
        (∃ v : Session ρ, u = v.withEarlier s.listener.entryLegs s.listener.exitLegs ∧
          t = v.withEarlier (s.listener.entryLegs ++ legs ins)
            (s.listener.exitLegs ++ legs outs)) ∧
        (∀ info' e', (receive t.inventory config info' e' t.listener).2 =
          (receive u.inventory config info' e' u.listener).2) ∧
        t.publish offer = Step.each offer t.records u.sink ∧
        u.publish offer = Step.each offer u.records u.sink ∧
        t.records.Perm (u.records ++ (u.listener.withCallsOnly ins outs).records u.inventory) := by
  intro s rejected
  obtain ⟨ins, outs, leaves, left⟩ := receive_rejected call rejected
  refine ⟨ins, outs, leaves, left, ?_⟩
  intro later dated' unpublished t u
  have published : ∀ v : Session ρ, v.listener.Sound v.inventory →
      v.publish offer = Step.each offer v.records v.sink := by
    intro v sound
    obtain ⟨after, outcome, _⟩ := Listener.build_offers offer sound v.sink
    simp only [publish, outcome, records]
  have sound : s.listener.Sound s.inventory := run_sound dated new_sound
  have soundT : t.listener.Sound t.inventory := run_sound dated' (step_sound told sound)
  have soundU : u.listener.Sound u.inventory := by
    obtain ⟨n, minute⟩ := told
    exact run_sound dated' (fixMinute_ready ⟨.int n, minute, rfl⟩ sound).1
  -- Both histories are one that starts without any calls, and is told of earlier ones.
  let bare : Session ρ :=
    { s with listener := { s.listener.fixMinute info with entryLegs := [], exitLegs := [] } }
  have startT : step config offer s (.tell info e) = bare.withEarlier
      (s.listener.entryLegs ++ legs ins) (s.listener.exitLegs ++ legs outs) := by
    simp only [step, left, withCalls, withEarlier, Listener.withEarlier, bare, List.append_nil]
    rfl
  have startU : { s with listener := s.listener.fixMinute info } = bare.withEarlier
      s.listener.entryLegs s.listener.exitLegs := by
    simp only [withEarlier, Listener.withEarlier, bare, List.append_nil]
    rfl
  have sameT : t = (run config offer bare later).withEarlier
      (s.listener.entryLegs ++ legs ins) (s.listener.exitLegs ++ legs outs) := by
    rw [← run_withEarlier _ _ unpublished, ← startT]
  have sameU : u = (run config offer bare later).withEarlier
      s.listener.entryLegs s.listener.exitLegs := by
    rw [← run_withEarlier _ _ unpublished, ← startU]
  have sink : t.sink = u.sink := by rw [sameT, sameU]; rfl
  have heard : ∀ (v : Session ρ) as bs info' e',
      (receive (v.withEarlier as bs).inventory config info' e' (v.withEarlier as bs).listener).2 =
        (receive v.inventory config info' e' v.listener).2 := by
    intro v as bs info' e'
    exact congrArg (·.2) (@receive_withEarlier v.inventory config info' as bs e' v.listener)
  refine ⟨⟨_, sameU, sameT⟩, fun info' e' => ?_, sink ▸ published t soundT, published u soundU, ?_⟩
  · rw [sameT, sameU, heard, heard]
  rw [sameT, sameU]
  exact records_withEarlier _ _ ins outs

def shopAlone : List Act :=
  [.register (.service { id := 2, name := .text "shop", addressId := 9 }),
    .register (.inst { id := 3, name := .text "shop-1", serviceId := 2, addressId := 9 }),
    .register (.endpoint { id := 5, name := .text "/pay" })]

def shopInfo : SegmentInfo where
  segmentId := "s"
  serviceId := .int 2
  instanceId := .int 3
  minuteBucket := some (.int 7)

/-- A call that came in from the shop and from an instance that nobody knows. -/
def halfKnown : Span :=
  let ref : Reference :=
    { parentEndpointId := 0, parentInstanceId := 3, networkAddressId := 0, parentSpanId := -1
      parentSegmentId := "" }
  { id := 0, parentId := -1, kind := .entry, layer := .http, startTime := 0, endTime := 5
    isError := false, operationId := 5, peerId := 0, componentId := 0, tags := []
    references := [ref, { ref with parentInstanceId := 7 }] }

def illegible : Span :=
  { halfKnown with
    kind := .exit, layer := .database, peerId := 9, references := []
    tags := [{ key := .text "db.statement", value := .int 5 }] }

/-- Both calls are rejected, and both leave a leg. -/
theorem rejected_leaves_legs :
    let config : Config := { limit := .chars 2000, thresholds := {} }
    let s := run config (fun _ => Step.skip) { inventory := .initial, sink := () } shopAlone
    let entered := receive s.inventory config shopInfo (.entry halfKnown) s.listener
    let exited := receive s.inventory config shopInfo (.exit illegible) s.listener
    entered.2.isSome ∧ s.listener.entryLegs.length = 0 ∧ entered.1.entryLegs.length = 1 ∧
      exited.2.isSome ∧ s.listener.exitLegs.length = 0 ∧ exited.1.exitLegs.length = 1 :=
  ⟨rfl, rfl, rfl, rfl, rfl, rfl⟩

theorem halfKnown_rejected :
    let config : Config := { limit := .chars 2000, thresholds := {} }
    let count : Record → Step Nat := fun _ => .update (· + 1)
    let s := run config count { inventory := .initial, sink := 0 } shopAlone
    let unknown := Inventory.unresolved (.serviceInstance (.int 7))
    let later := [Act.tell shopInfo (.exit { halfKnown with peerId := 9 })]
    let t := run config count (step config count s (.tell shopInfo (.entry halfKnown))) later
    let u := run config count { s with listener := s.listener.fixMinute shopInfo } later
    (∀ act ∈ shopAlone ++ later, act.Dated) ∧
    (receive s.inventory config shopInfo (.entry halfKnown) s.listener).2 = some unknown ∧
    t.records.length = 8 ∧ u.records.length = 2 ∧
    ∃ ins outs, Leaves s.inventory config shopInfo none unknown (.entry halfKnown) ins outs ∧
      t.records.Perm (u.records ++ (u.listener.withCallsOnly ins outs).records u.inventory) := by
  intro config count s unknown later t u
  have fault : (receive s.inventory config shopInfo (.entry halfKnown) s.listener).2 =
      some unknown := rfl
  have dated : ∀ act ∈ shopAlone ++ later, act.Dated := by
    simp [shopAlone, later, Act.Dated, shopInfo]
  have call : ∀ parts, Event.entry halfKnown ≠ .traceId parts := by
    intro parts same
    cases same
  obtain ⟨ins, outs, leaves, _, told⟩ := run_rejected config count .initial 0 shopAlone
    (fun act member => dated act (List.mem_append_left later member)) shopInfo (.entry halfKnown)
    ⟨7, rfl⟩ call unknown fault
  obtain ⟨_, _, _, _, same⟩ := told later
    (fun act member => dated act (List.mem_append_right shopAlone member)) (by simp [later])
  exact ⟨dated, fault, rfl, rfl, ins, outs, leaves, same⟩

end Session

end TraceScope
