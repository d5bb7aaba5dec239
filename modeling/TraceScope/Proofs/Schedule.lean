import TraceScope.Dispatch
import TraceScope.Proofs.Composition

/-!
# The schedule of calls

While a segment is delivered, listeners are called in a fixed order: all are created, each trace
identifier and then each incoming or outgoing call is told to those who asked for such events, and
all build. The calls that are made are those of this schedule up to the first one that fails, and
each of them is made on a listener that was created for this delivery.
-/

namespace TraceScope

namespace Observer

/-- What a listener is called for. -/
inductive Ask
  | create
  | hear (e : Event)
  | build

variable {σ τ : Type}

def answer (info : SegmentInfo) (o : Observer σ) : Ask → Step σ
  | .create => o.create
  | .hear e => o.receive info e
  | .build => o.build

/-- A call on a listener. Listeners are numbered in the order in which they are created; `place` is
that of the observer among its fellows. -/
structure Call (σ : Type) where
  observer : Observer σ
  place : Nat
  listener : Nat
  ask : Ask

def Call.perform (info : SegmentInfo) (call : Call σ) : Step σ :=
  call.observer.answer info call.ask

/-! ### The schedule -/

/-- One call for every observer in order, where `first` is the number of the first listener. -/
def round (observers : List (Observer σ)) (first : Nat) (ask : Ask) : List (Call σ) :=
  observers.zipIdx.map fun x => { observer := x.1, place := x.2, listener := first + x.2, ask }

def telling (observers : List (Observer σ)) (first : Nat) (e : Event) : List (Call σ) :=
  (round observers first (.hear e)).filter fun call => call.observer.interests e.point

def spanCalls (observers : List (Observer σ)) (first : Nat) (span : Span) : List (Call σ) :=
  match span.kind with
  | .entry => telling observers first (.entry span)
  | .exit => telling observers first (.exit span)
  | .inner => []

/-- Everything before the first listener builds. -/
def announcements (observers : List (Observer σ)) (first : Nat) (segment : Segment) :
    List (Call σ) :=
  round observers first .create ++
    segment.traceIds.flatMap (fun parts => telling observers first (.traceId parts)) ++
    segment.spans.flatMap (spanCalls observers first)

def schedule (observers : List (Observer σ)) (first : Nat) (segment : Segment) : List (Call σ) :=
  announcements observers first segment ++ round observers first .build

/-- What one listener is called for if nothing fails. -/
def ownCalls (o : Observer σ) (segment : Segment) : List Ask :=
  .create :: ((segment.events.filter fun e => o.interests e.point).map .hear ++ [.build])

variable {observers : List (Observer σ)} {first : Nat} {segment : Segment} {info : SegmentInfo}

theorem announcements_eq :
    announcements observers first segment =
      round observers first .create ++ segment.events.flatMap (telling observers first) := by
  have spans : segment.spans.flatMap (spanCalls observers first) =
      (segment.spans.filterMap Span.event?).flatMap (telling observers first) := by
    induction segment.spans with
    | nil => rfl
    | cons span rest ih =>
      rw [List.flatMap_cons, ih]
      cases kind : span.kind with
      | entry =>
        have event : span.event? = some (.entry span) := by simp only [Span.event?, kind]
        rw [List.filterMap_cons_some event, List.flatMap_cons]
        simp only [spanCalls, kind]
      | exit =>
        have event : span.event? = some (.exit span) := by simp only [Span.event?, kind]
        rw [List.filterMap_cons_some event, List.flatMap_cons]
        simp only [spanCalls, kind]
      | inner =>
        have event : span.event? = none := by simp only [Span.event?, kind]
        rw [List.filterMap_cons_none event]
        simp only [spanCalls, kind, List.nil_append]
  rw [announcements, spans, Segment.events, List.flatMap_append, List.flatMap_map,
    List.append_assoc]

/-- Delivery goes through the schedule, also if each observer is replaced by one with the same
interests. -/
theorem deliver_eq_each (observers : List (Observer σ)) (first : Nat) (info : SegmentInfo)
    (segment : Segment) (replace : Observer σ × Nat → Observer τ)
    (interests : ∀ x, (replace x).interests = x.1.interests) :
    deliver (observers.zipIdx.map replace) info segment =
      Step.each (fun call => (replace (call.observer, call.place)).answer info call.ask)
        (schedule observers first segment) := by
  have created : Step.each create (observers.zipIdx.map replace) =
      Step.each (fun call => (replace (call.observer, call.place)).answer info call.ask)
        (round observers first .create) := by
    rw [round, Step.each_map, Step.each_map]
    rfl
  have built : Step.each build (observers.zipIdx.map replace) =
      Step.each (fun call => (replace (call.observer, call.place)).answer info call.ask)
        (round observers first .build) := by
    rw [round, Step.each_map, Step.each_map]
    rfl
  have told : ∀ e, notifyAll (observers.zipIdx.map replace) info e =
      Step.each (fun call => (replace (call.observer, call.place)).answer info call.ask)
        (telling observers first e) := by
    intro e
    -- What replaces an observer has its interests, so the same ones are told.
    have asked : (fun o : Observer τ => o.interests e.point) ∘ replace =
        fun x => x.1.interests e.point := by
      funext x
      simp only [Function.comp_apply, interests]
    rw [notifyAll, telling, round, List.filter_map, List.filter_map, Step.each_map, Step.each_map,
      asked]
    apply Step.each_congr
    intro x member
    have interested : (replace x).interests e.point = true := by
      rw [interests]
      exact (List.mem_filter.mp member).2
    exact notify_of_interest interested
  rw [deliver, schedule, announcements_eq, Step.each_append, Step.each_append, Step.each_flatMap,
    created, built, Step.andThen_assoc, funext told]

/-! ### Written calls -/

/-- The calls that were made, how many listeners were created, and which one each observer created
last. -/
structure Log (σ : Type) where
  calls : List (Call σ) := []
  created : Nat := 0
  current : Nat → Nat := fun _ => 0

namespace Log

def numberOf (log : Log σ) (place : Nat) : Ask → Nat
  | .create => log.created
  | _ => log.current place

def note (log : Log σ) (call : Call σ) : Log σ :=
  let log := { log with calls := log.calls ++ [call] }
  match call.ask with
  | .create =>
    { log with
      created := log.created + 1
      current := fun place => if place = call.place then call.listener else log.current place }
  | _ => log

def noteAll (log : Log σ) (calls : List (Call σ)) : Log σ := calls.foldl note log

end Log

/-- An observer whose calls are written down. -/
def logged (x : Observer σ × Nat) : Observer (σ × Log σ) :=
  let write (ask : Ask) (step : Step σ) : Step (σ × Log σ) := fun (s, log) =>
    let (t, f) := step s
    ((t, log.note ⟨x.1, x.2, log.numberOf x.2 ask, ask⟩), f)
  { name := x.1.name
    interests := x.1.interests
    create := write .create x.1.create
    receive := fun info e => write (.hear e) (x.1.receive info e)
    build := write .build x.1.build }

/-- Calls that are made of some that were due: all of them, or those up to the first that fails. The
outcome is the state that they lead to, and the fault of that call. -/
inductive Made (info : SegmentInfo) (s : σ) :
    List (Call σ) → List (Call σ) → σ × Option Fault → Prop
  | whole {calls : List (Call σ)} {t : σ}
      (done : Step.each (Call.perform info) calls s = (t, none)) : Made info s calls calls (t, none)
  | cut {before after : List (Call σ)} {call : Call σ} {u t : σ} {f : Fault}
      (done : Step.each (Call.perform info) before s = (u, none))
      (failed : call.perform info u = (t, some f)) :
      Made info s (before ++ call :: after) (before ++ [call]) (t, some f)

variable {s t : σ} {log : Log σ} {call : Call σ} {calls made : List (Call σ)}
  {outcome : σ × Option Fault} {ask : Ask}

theorem Made.outcome_eq (h : Made info s calls made outcome) :
    Step.each (Call.perform info) calls s = outcome := by
  cases h with
  | whole done => exact done
  | cut done failed =>
    rw [Step.each_append, Step.andThen_ok done, Step.each_cons, Step.andThen_failed failed]

theorem Made.within (h : Made info s calls made outcome) : made <+: calls := by
  cases h with
  | whole => exact List.prefix_refl _
  | @cut before after call => exact ⟨after, by rw [List.append_assoc, List.singleton_append]⟩

theorem Made.all_of_done (h : Made info s calls made (t, none)) : made = calls := by
  cases h with
  | whole => rfl

theorem Made.cons (first : call.perform info s = (t, none))
    (h : Made info t calls made outcome) : Made info s (call :: calls) (call :: made) outcome := by
  cases h with
  | whole done =>
    apply Made.whole
    rw [Step.each_cons, Step.andThen_ok first, done]
  | @cut before after last u v f done failed =>
    have earlier : Step.each (Call.perform info) (call :: before) s = (u, none) := by
      rw [Step.each_cons, Step.andThen_ok first, done]
    exact Made.cut earlier failed

/-! ### Numbers of listeners -/

namespace Log

theorem calls_noteAll (log : Log σ) (calls : List (Call σ)) :
    (log.noteAll calls).calls = log.calls ++ calls := by
  induction calls generalizing log with
  | nil => exact (List.append_nil _).symm
  | cons call rest ih =>
    have one : (log.note call).calls = log.calls ++ [call] := by
      unfold note
      cases call.ask <;> rfl
    change ((log.note call).noteAll rest).calls = _
    rw [ih, one, List.append_assoc, List.singleton_append]

theorem note_created (log : Log σ) (call : Call σ) : log.created ≤ (log.note call).created := by
  unfold note
  cases call.ask with
  | create => exact Nat.le_succ _
  | _ => exact Nat.le_refl _

theorem noteAll_created (log : Log σ) (calls : List (Call σ)) :
    log.created ≤ (log.noteAll calls).created := by
  induction calls generalizing log with
  | nil => exact Nat.le_refl _
  | cons call rest ih => exact Nat.le_trans (log.note_created call) (ih (log.note call))

/-- Calls are numbered as the log would number them. -/
def Fits : Log σ → List (Call σ) → Prop
  | _, [] => True
  | log, call :: rest =>
    call.listener = log.numberOf call.place call.ask ∧ (log.note call).Fits rest

theorem fits_append {more : List (Call σ)} :
    log.Fits (calls ++ more) ↔ log.Fits calls ∧ (log.noteAll calls).Fits more := by
  induction calls generalizing log with
  | nil => exact ⟨fun later => ⟨trivial, later⟩, fun both => both.2⟩
  | cons call rest ih =>
    change _ ∧ (log.note call).Fits (rest ++ more) ↔ (_ ∧ (log.note call).Fits rest) ∧ _
    rw [ih, and_assoc]
    rfl

/-- A listener that was created counts among those that were. -/
theorem created_counted (fits : log.Fits calls) (member : call ∈ calls)
    (creation : call.ask = .create) : call.listener < (log.noteAll calls).created := by
  induction calls generalizing log with
  | nil => cases member
  | cons head rest ih =>
    obtain ⟨numbered, fits⟩ := fits
    rcases List.mem_cons.mp member with rfl | later
    · have counted : (log.note call).created = log.created + 1 := by
        unfold note
        rw [creation]
      rw [creation] at numbered
      have more := (log.note call).noteAll_created rest
      change call.listener < ((log.note call).noteAll rest).created
      have : call.listener = log.created := numbered
      omega
    · exact ih fits later

/-- The listeners of one round of creations are numbered from the first on, each at its place. -/
theorem fits_creation (log : Log σ) (observers : List (Observer σ)) (k : Nat)
    (count : log.created = first + k) :
    let calls : List (Call σ) :=
      (observers.zipIdx k).map fun x => ⟨x.1, x.2, first + x.2, .create⟩
    log.Fits calls ∧
      (∀ place < k, (log.noteAll calls).current place = log.current place) ∧
      ∀ place, k ≤ place → place < k + observers.length →
        (log.noteAll calls).current place = first + place := by
  induction observers generalizing log k with
  | nil => exact ⟨trivial, fun _ _ => rfl, fun place low high => absurd high (by simp; omega)⟩
  | cons o rest ih =>
    let call : Call σ := ⟨o, k, first + k, .create⟩
    have next : (log.note call).created = first + (k + 1) := by
      change log.created + 1 = _
      omega
    have here : (log.note call).current k = first + k := by
      change (if k = k then first + k else _) = _
      rw [if_pos rfl]
    obtain ⟨fits, kept, given⟩ := ih (log.note call) (k + 1) next
    refine ⟨⟨count.symm, fits⟩, ?_, ?_⟩
    · intro place below
      refine (kept place (Nat.lt_succ_of_lt below)).trans ?_
      change (if place = k then first + k else log.current place) = _
      rw [if_neg (Nat.ne_of_lt below)]
    · intro place low high
      rw [List.length_cons] at high
      by_cases same : place = k
      · subst same
        exact (kept place (Nat.lt_succ_self place)).trans here
      · exact given place (by omega) (by omega)

theorem fits_later (later : ∀ call ∈ calls, call.ask ≠ .create)
    (known : ∀ call ∈ calls, call.listener = log.current call.place) : log.Fits calls := by
  induction calls generalizing log with
  | nil => trivial
  | cons call rest ih =>
    have other := later call List.mem_cons_self
    have number : log.numberOf call.place call.ask = log.current call.place := by
      unfold numberOf
      cases ask : call.ask with
      | create => exact absurd ask other
      | _ => rfl
    have same : (log.note call).current = log.current := by
      unfold note
      cases ask : call.ask with
      | create => exact absurd ask other
      | _ => rfl
    refine ⟨(known call List.mem_cons_self).trans number.symm, ih ?_ ?_⟩
    · exact fun x member => later x (List.mem_cons_of_mem call member)
    · intro x member
      rw [same]
      exact known x (List.mem_cons_of_mem call member)

end Log

theorem mem_round (member : call ∈ round observers first ask) :
    observers[call.place]? = some call.observer ∧ call.listener = first + call.place ∧
      call.ask = ask := by
  obtain ⟨x, indexed, rfl⟩ := List.mem_map.mp member
  exact ⟨List.mem_zipIdx_iff_getElem?.mp indexed, rfl, rfl⟩

theorem mem_telling {e : Event} (member : call ∈ telling observers first e) :
    call ∈ round observers first (.hear e) ∧ call.observer.interests e.point = true :=
  List.mem_filter.mp member

/-- After the creations every call is made on a listener that was created at its place. -/
theorem mem_later
    (member : call ∈ segment.events.flatMap (telling observers first) ++
      round observers first .build) :
    observers[call.place]? = some call.observer ∧ call.listener = first + call.place ∧
      call.ask ≠ .create := by
  rcases List.mem_append.mp member with told | built
  · obtain ⟨e, _, told⟩ := List.mem_flatMap.mp told
    obtain ⟨known, number, ask⟩ := mem_round (mem_telling told).1
    exact ⟨known, number, by rw [ask]; exact Ask.noConfusion⟩
  · obtain ⟨known, number, ask⟩ := mem_round built
    exact ⟨known, number, by rw [ask]; exact Ask.noConfusion⟩

theorem schedule_fits (observers : List (Observer σ)) (segment : Segment) (log : Log σ) :
    log.Fits (schedule observers log.created segment) := by
  obtain ⟨created, _, given⟩ := log.fits_creation observers 0 rfl
  rw [schedule, announcements_eq, List.append_assoc]
  refine Log.fits_append.mpr ⟨created, Log.fits_later ?_ ?_⟩
  · exact fun call member => (mem_later member).2.2
  · intro call member
    obtain ⟨known, number, _⟩ := mem_later member
    obtain ⟨within, _⟩ := List.getElem?_eq_some_iff.mp known
    have numbered := given call.place (Nat.zero_le _) (by omega)
    exact number.trans numbered.symm

/-! ### Delivery -/

theorem logged_answer (info : SegmentInfo) (x : Observer σ × Nat) (ask : Ask) (s : σ)
    (log : Log σ) :
    (logged x).answer info ask (s, log) =
      (((x.1.answer info ask s).1, log.note ⟨x.1, x.2, log.numberOf x.2 ask, ask⟩),
        (x.1.answer info ask s).2) := by
  cases ask <;> rfl

/-- Writing calls down does not change what comes of them. -/
theorem each_logged (info : SegmentInfo) (s : σ) (fits : log.Fits calls) :
    ∃ made outcome, Made info s calls made outcome ∧
      Step.each (fun call => (logged (call.observer, call.place)).answer info call.ask) calls
        (s, log) = ((outcome.1, log.noteAll made), outcome.2) := by
  induction calls generalizing s log with
  | nil => exact ⟨[], (s, none), Made.whole rfl, rfl⟩
  | cons call rest ih =>
    obtain ⟨numbered, fits⟩ := fits
    have here := logged_answer info (call.observer, call.place) call.ask s log
    rw [← numbered] at here
    rcases answered : call.perform info s with ⟨t, _ | f⟩
    · have answer : call.observer.answer info call.ask s = (t, none) := answered
      obtain ⟨made, outcome, later, run⟩ := ih t fits
      refine ⟨call :: made, outcome, Made.cons answered later, ?_⟩
      rw [answer] at here
      rw [Step.each_cons, Step.andThen_ok here, run]
      rfl
    · have answer : call.observer.answer info call.ask s = (t, some f) := answered
      have cut : Made info s ([] ++ call :: rest) ([] ++ [call]) (t, some f) :=
        Made.cut rfl answered
      refine ⟨[call], (t, some f), cut, ?_⟩
      rw [answer] at here
      rw [Step.each_cons, Step.andThen_failed here]
      rfl

/-! ### What one listener is called for -/

/-- What the listener at one place is called for. -/
def askedAt (place : Nat) (calls : List (Call σ)) : List Ask :=
  (calls.filter fun call => call.place = place).map Call.ask

theorem askedAt_append {more : List (Call σ)} {place : Nat} :
    askedAt place (calls ++ more) = askedAt place calls ++ askedAt place more := by
  rw [askedAt, List.filter_append, List.map_append]
  rfl

theorem zipIdx_place {o : Observer σ} {place : Nat} (k : Nat)
    (known : observers[place]? = some o) :
    ((observers.zipIdx k).filter fun x => x.2 = k + place) = [(o, k + place)] := by
  induction observers generalizing place k with
  | nil => cases known
  | cons head rest ih =>
    rw [List.zipIdx_cons]
    cases place with
    | zero =>
      obtain rfl := Option.some.inj known
      have others : ((rest.zipIdx (k + 1)).filter fun x => x.2 = k) = [] := by
        apply List.filter_eq_nil_iff.mpr
        intro x member same
        have low := List.le_snd_of_mem_zipIdx member
        have : x.2 = k := of_decide_eq_true same
        omega
      rw [Nat.add_zero, List.filter_cons, others]
      simp
    | succ place =>
      have later := ih (k + 1) known
      rw [Nat.add_right_comm, Nat.add_assoc] at later
      rw [List.filter_cons, later]
      simp

theorem round_place {o : Observer σ} {place : Nat} (known : observers[place]? = some o) :
    ((round observers first ask).filter fun call => call.place = place) =
      [⟨o, place, first + place, ask⟩] := by
  have one := zipIdx_place 0 known
  rw [Nat.zero_add] at one
  rw [round, List.filter_map]
  change (observers.zipIdx.filter fun x => decide (x.2 = place)).map _ = _
  rw [one]
  rfl

theorem askedAt_round {o : Observer σ} {place : Nat} (known : observers[place]? = some o) :
    askedAt place (round observers first ask) = [ask] := by
  rw [askedAt, round_place known]
  rfl

theorem askedAt_telling {o : Observer σ} {place : Nat} {e : Event}
    (known : observers[place]? = some o) :
    askedAt place (telling observers first e) = if o.interests e.point then [.hear e] else [] := by
  have swapped : ((telling observers first e).filter fun call => call.place = place) =
      (((round observers first (.hear e)).filter fun call => call.place = place).filter
        fun call => call.observer.interests e.point) := by
    rw [telling, List.filter_filter, List.filter_filter]
    exact List.filter_congr fun _ _ => Bool.and_comm _ _
  rw [askedAt, swapped, round_place known]
  by_cases interested : o.interests e.point = true <;> simp [interested]

/-- A listener is called for the same things whoever else is there. -/
theorem askedAt_schedule {o : Observer σ} {place : Nat} (known : observers[place]? = some o) :
    askedAt place (schedule observers first segment) = o.ownCalls segment := by
  have told : askedAt place (segment.events.flatMap (telling observers first)) =
      (segment.events.filter fun e => o.interests e.point).map .hear := by
    induction segment.events with
    | nil => rfl
    | cons e rest ih =>
      rw [List.flatMap_cons, askedAt_append, askedAt_telling known, ih]
      by_cases interested : o.interests e.point = true <;> simp [interested]
  rw [schedule, announcements_eq, askedAt_append, askedAt_append, askedAt_round known,
    askedAt_round known, told]
  exact congrArg (Ask.create :: ·) rfl

/-! ### Whole deliveries -/

/-- A telling that is due is heard: the guard of `notify` has no say in it. -/
theorem notify_scheduled {e : Event} (member : call ∈ schedule observers first segment)
    (asked : call.ask = .hear e) : call.observer.notify info e = call.perform info := by
  have performed : call.perform info = call.observer.receive info e := by
    rw [Call.perform, asked]
    rfl
  rw [performed]
  rw [schedule, announcements_eq, List.append_assoc] at member
  rcases List.mem_append.mp member with created | later
  · rw [(mem_round created).2.2] at asked
    cases asked
  · rcases List.mem_append.mp later with told | built
    · obtain ⟨other, _, told⟩ := List.mem_flatMap.mp told
      obtain ⟨due, interested⟩ := mem_telling told
      rw [(mem_round due).2.2] at asked
      obtain rfl := Ask.hear.inj asked
      exact notify_of_interest interested
    · rw [(mem_round built).2.2] at asked
      cases asked

/-- Nothing is built before everything was announced. -/
theorem announced_before_build (due : made <+: schedule observers first segment)
    (member : call ∈ made) (asked : call.ask = .build) :
    announcements observers first segment <+: made := by
  have announced : announcements observers first segment <+: schedule observers first segment :=
    List.prefix_append _ _
  rcases List.prefix_or_prefix_of_prefix announced due with earlier | short
  · exact earlier
  · -- otherwise the building listener would be announced
    have early := short.subset member
    rw [announcements_eq] at early
    rcases List.mem_append.mp early with created | told
    · rw [(mem_round created).2.2] at asked
      cases asked
    · obtain ⟨e, _, told⟩ := List.mem_flatMap.mp told
      rw [(mem_round (mem_telling told).1).2.2] at asked
      cases asked

theorem mem_schedule (member : call ∈ schedule observers first segment) :
    observers[call.place]? = some call.observer ∧ call.listener = first + call.place := by
  rw [schedule, announcements_eq, List.append_assoc] at member
  rcases List.mem_append.mp member with created | later
  · obtain ⟨known, number, _⟩ := mem_round created
    exact ⟨known, number⟩
  · obtain ⟨known, number, _⟩ := mem_later later
    exact ⟨known, number⟩

/-- The listeners that are called are among those created in the meantime. -/
theorem numbered_anew (due : made <+: schedule observers log.created segment)
    (member : call ∈ made) :
    log.created ≤ call.listener ∧ call.listener < (log.noteAll made).created := by
  have fits : log.Fits made := by
    obtain ⟨rest, whole⟩ := due
    have all := schedule_fits observers segment log
    rw [← whole] at all
    exact (Log.fits_append.mp all).1
  obtain ⟨known, number⟩ := mem_schedule (due.subset member)
  refine ⟨by omega, ?_⟩
  -- the creation of the listener, which is the call itself or comes before it
  let creation : Call σ := ⟨call.observer, call.place, log.created + call.place, .create⟩
  have created : creation ∈ made := by
    have created : creation ∈ round observers log.created .create :=
      List.mem_map.mpr ⟨(call.observer, call.place), List.mem_zipIdx_iff_getElem?.mpr known, rfl⟩
    have creations : round observers log.created .create <+:
        schedule observers log.created segment := by
      rw [schedule, announcements_eq, List.append_assoc]
      exact List.prefix_append _ _
    rcases List.prefix_or_prefix_of_prefix creations due with earlier | short
    · exact earlier.subset created
    · obtain ⟨_, _, asked⟩ := mem_round (short.subset member)
      have same : creation = call := by
        obtain ⟨observer, place, listener, ask⟩ := call
        obtain rfl : listener = log.created + place := number
        obtain rfl : ask = .create := asked
        rfl
      exact same ▸ member
  have counted : log.created + call.place < (log.noteAll made).created :=
    Log.created_counted fits created rfl
  omega

theorem deliver_logged (observers : List (Observer σ)) (info : SegmentInfo) (segment : Segment)
    (s : σ) (log : Log σ) :
    ∃ made outcome, Made info s (schedule observers log.created segment) made outcome ∧
      deliver (observers.zipIdx.map logged) info segment (s, log) =
        ((outcome.1, log.noteAll made), outcome.2) := by
  obtain ⟨made, outcome, due, run⟩ :=
    each_logged info s (schedule_fits observers segment log)
  refine ⟨made, outcome, due, ?_⟩
  rw [deliver_eq_each observers log.created info segment logged (fun _ => rfl), run]

/-- The calls of a delivery, `made`, are those of the schedule up to the first that fails, and what
comes of the delivery is what comes of them. A fault is therefore the listener's own and not that of
the guard in `notify`. No listener builds before everything was announced, and without a fault each
listener is called for its own things, whoever the others are. A later delivery, of whatever
segment, calls none of the listeners of this one. -/
theorem deliver_scheduled (observers : List (Observer σ)) (info : SegmentInfo) (segment : Segment)
    (s : σ) (log : Log σ) :
    let due := schedule observers log.created segment
    let run := deliver (observers.zipIdx.map logged) info segment (s, log)
    ∃ made,
      run.1.2.calls = log.calls ++ made ∧
      Made info s due made (run.1.1, run.2) ∧
      deliver observers info segment s = (run.1.1, run.2) ∧
      (∀ call ∈ due, ∀ e, call.ask = .hear e →
        call.observer.notify info e = call.perform info) ∧
      ((∃ call ∈ made, call.ask = .build) →
        announcements observers log.created segment <+: made) ∧
      (run.2 = none → ∀ o place, observers[place]? = some o →
        askedAt place made = o.ownCalls segment) ∧
      (∀ call ∈ made, log.created ≤ call.listener ∧ call.listener < run.1.2.created) ∧
      ∀ laterInfo laterSegment,
        let later := deliver (observers.zipIdx.map logged) laterInfo laterSegment run.1
        ∃ afresh, later.1.2.calls = run.1.2.calls ++ afresh ∧
          ∀ call ∈ afresh, ∀ former ∈ made, call.listener ≠ former.listener := by
  intro due run
  obtain ⟨made, outcome, cut, ran⟩ := deliver_logged observers info segment s log
  have ran : run = ((outcome.1, log.noteAll made), outcome.2) := ran
  rw [ran]
  refine ⟨made, Log.calls_noteAll log made, cut, ?_, ?_, ?_, ?_, ?_, ?_⟩
  · -- Without the log a delivery is a pass over the same schedule, and stops at the same call.
    have plain :=
      deliver_eq_each observers log.created info segment Prod.fst (fun _ => rfl)
    rw [List.zipIdx_map_fst] at plain
    rw [plain]
    exact cut.outcome_eq
  · exact fun call member e asked => notify_scheduled member asked
  · rintro ⟨call, member, asked⟩
    exact announced_before_build cut.within member asked
  · intro done o place known
    obtain ⟨t, fault⟩ := outcome
    obtain rfl : fault = none := done
    rw [cut.all_of_done]
    exact askedAt_schedule known
  · exact fun call member => numbered_anew cut.within member
  · intro laterInfo laterSegment
    obtain ⟨afresh, later, next, again⟩ :=
      deliver_logged observers laterInfo laterSegment outcome.1 (log.noteAll made)
    rw [again]
    refine ⟨afresh, Log.calls_noteAll _ afresh, ?_⟩
    intro call member former earlier
    have low := (numbered_anew next.within member).1
    have high := (numbered_anew cut.within earlier).2
    omega

end Observer

end TraceScope
