import TraceScope.Proofs.Reordering
import TraceScope.Proofs.Resolution
import TraceScope.Proofs.Streaming

/-!
# Where the stack suffices

How much of the stack there is makes no difference where there is enough of it: documents are
decoded as the same segments, and the segments come to the same report or the same fault.
-/

namespace TraceScope

/-- The same configuration with another stack. -/
def Config.on (config : Config) (stack : Stack) : Config := { config with stack }

/-- The report on segments, unless they cannot be analysed or reported. -/
def Report.ofSegments (inv : Inventory) (config : Config) (segments : List Segment) :
    Except Fault Report :=
  match Analyzer.processAll segments (Analyzer.fresh inv config) with
  | (a, none) => ofAnalyzer a
  | (_, some f) => .error f

/-! ### Decoding -/

section Agreement

variable {α β : Type}

/-- If two computations both yield something, they yield the same. -/
def Agree (x y : Except Fault α) : Prop := ∀ a b, x = .ok a → y = .ok b → a = b

theorem Agree.refl (x : Except Fault α) : Agree x x := fun _ _ first second =>
  Except.ok.inj (first.symm.trans second)

theorem Agree.bind {x y : Except Fault α} {f g : α → Except Fault β} (first : Agree x y)
    (later : ∀ a, Agree (f a) (g a)) : Agree (x >>= f) (y >>= g) := by
  intro c d left right
  obtain ⟨a, made, left⟩ := bind_ok_iff.mp left
  obtain ⟨b, again, right⟩ := bind_ok_iff.mp right
  obtain rfl := first a b made again
  exact later a c d left right

theorem Agree.after {x : Except Fault α} {f g : α → Except Fault β}
    (later : ∀ a, Agree (f a) (g a)) : Agree (x >>= f) (x >>= g) := (refl x).bind later

theorem Agree.mapError {x y : Except Fault α} (h : Agree x y) (f g : Fault → Fault) :
    Agree (x.mapError f) (y.mapError g) := by
  intro a b left right
  cases x with
  | error _ => cases left
  | ok _ =>
    cases y with
    | error _ => cases right
    | ok _ => exact h a b left right

theorem Agree.mapM {f g : α → Except Fault β} (single : ∀ a, Agree (f a) (g a)) (items : List α) :
    Agree (items.mapM f) (items.mapM g) := by
  induction items with
  | nil => exact .refl _
  | cons a rest ih =>
    rw [List.mapM_cons, List.mapM_cons]
    exact .bind (single a) fun _ => .bind ih fun _ => .refl _

variable (s t : Stack)

theorem Value.told_agree (use : Telling) (v : Value) : Agree (v.told s use) (v.told t use) :=
  fun a b left right => (Listener.told_done v a left).trans (Listener.told_done v b right).symm

theorem Value.choice_agree (ofName? : Text → Option α) (choice : String) (v : Value) :
    Agree (v.choice s ofName? choice) (v.choice t ofName? choice) := by
  cases v with
  | text _ => exact .refl _
  | _ => exact fun _ _ left => by cases left

theorem Value.listD_agree {f g : Value → Except Fault α} (single : ∀ v, Agree (f v) (g v))
    (v : Value) (name : Text) : Agree (v.listD f name) (v.listD g name) :=
  .after fun _ => .after (.mapM single)

theorem Reference.ofValue_agree (v : Value) :
    Agree (Reference.ofValue s v) (Reference.ofValue t v) :=
  .after fun _ => .after fun _ => .after fun _ => .after fun _ => .after fun w =>
    .bind (w.told_agree s t .parentSegmentId) fun _ => .refl _

theorem Span.readKind_agree (v : Value) : Agree (Span.readKind s v) (Span.readKind t v) :=
  .after fun kind => .bind (kind.choice_agree s t _ _) fun _ =>
    .after fun layer => .bind (layer.choice_agree s t _ _) fun _ => .refl _

theorem Span.ofValue_agree (v : Value) : Agree (Span.ofValue s v) (Span.ofValue t v) := by
  refine .bind (.mapError (readKind_agree s t v) _ _) fun _ => ?_
  -- Between its kind and its references a span tells nothing.
  refine .after fun _ => .after fun _ => .after fun _ => .after fun _ => .after fun _ =>
    .after fun _ => .after fun _ => .after fun _ => .after fun _ => .after fun _ => ?_
  exact .bind (v.listD_agree (Reference.ofValue_agree s t) _) fun _ => .refl _

/-- A document that is decoded on two stacks is decoded as the same segment. -/
theorem Segment.ofValue_agree (v : Value) : Agree (Segment.ofValue s v) (Segment.ofValue t v) := by
  refine .mapError (.after fun id => ?_) _ _
  refine .bind (id.told_agree s t .segmentId) fun _ => .after fun _ => .after fun _ =>
    .after fun _ => .after fun _ => .after fun _ => ?_
  exact .bind (v.listD_agree (Span.ofValue_agree s t) _) fun _ => .refl _

end Agreement

/-! ### Processing -/

variable {inv : Inventory} {config : Config} {info : SegmentInfo} {segment : Segment}
  {segments : List Segment} {s t : Stack}

namespace Listener

variable {l : Listener} {id : Text}

end Listener

namespace Analyzer

end Analyzer

/-! ### Reports -/

namespace Report

open Analyzer (firstFault output)

/-- The first fault of the segments is that of the report. -/
theorem ofSegments_failed {f : Fault} (failed : firstFault inv config segments = some f) :
    ofSegments inv config segments = .error f := by
  rw [ofSegments, Analyzer.processAll_fresh, failed]

theorem ofSegments_done (done : firstFault inv config segments = none) :
    ofSegments inv config segments =
      ofRecords config.stack segments.length (segments.flatMap (output inv config)) := by
  obtain ⟨silent, kept, records, count⟩ :=
    Analyzer.processAll_complete (List.findSome?_eq_none_iff.mp done)
  unfold ofSegments
  rcases run : Analyzer.processAll segments (Analyzer.fresh inv config) with ⟨a, f⟩
  rw [run] at silent kept records count
  obtain rfl : f = none := silent
  dsimp only at kept records count ⊢
  rw [ofAnalyzer, kept, records, count]

/-- A stack suffices to tell some segments, and to report whatever they come to. -/
structure Suffices (inv : Inventory) (config : Config) (segments : List Segment)
    (stack : Stack) : Prop where
  told : ∀ x ∈ segments, x.Tellable stack
  reported : ∀ x ∈ segments, ∀ r ∈ output inv (config.on stack) x, r.isReportable stack = true

end Report

end TraceScope
