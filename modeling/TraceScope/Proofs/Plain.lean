import TraceScope.Json.Reader
import TraceScope.Json.Writer
import TraceScope.Proofs.Inheritance
import TraceScope.Reference.Framework

/-!
# Values without exact decimals

Exact decimals come from streamed files only. A document that is read as a whole has none, and a
value without them is answered as it is and written in full, as long as its integers can be written
and the stack suffices.
-/

namespace TraceScope

namespace Value

mutual

/-- Whether there is no exact decimal in a value. -/
def isPlain : Value → Bool
  | decimal _ => false
  | list items => arePlain items
  | object members => havePlain members
  | _ => true

def arePlain : List Value → Bool
  | [] => true
  | v :: rest => isPlain v && arePlain rest

def havePlain : List (Text × Value) → Bool
  | [] => true
  | (_, v) :: rest => isPlain v && havePlain rest

end

@[simp] theorem isPlain_null : null.isPlain = true := rfl
@[simp] theorem isPlain_bool (b : Bool) : (bool b).isPlain = true := rfl
@[simp] theorem isPlain_int (n : Int) : (int n).isPlain = true := rfl
@[simp] theorem isPlain_double (x : Binary64) : (double x).isPlain = true := rfl
@[simp] theorem isPlain_text (t : Text) : (text t).isPlain = true := rfl

mutual

theorem decimalsAsText_plain (v : Value) (plain : v.isPlain = true) : v.decimalsAsText = v := by
  cases v with
  | decimal x => cases plain
  | list items => rw [decimalsAsText, itemsAsText_plain items plain]
  | object members => rw [decimalsAsText, membersAsText_plain members plain]
  | _ => rfl

theorem itemsAsText_plain (vs : List Value) (plain : arePlain vs = true) :
    itemsAsText vs = vs := by
  cases vs with
  | nil => rfl
  | cons v rest =>
    obtain ⟨first, later⟩ := (Bool.and_eq_true _ _).mp plain
    rw [itemsAsText, decimalsAsText_plain v first, itemsAsText_plain rest later]

theorem membersAsText_plain (members : List (Text × Value)) (plain : havePlain members = true) :
    membersAsText members = members := by
  cases members with
  | nil => rfl
  | cons m rest =>
    obtain ⟨name, v⟩ := m
    obtain ⟨first, later⟩ := (Bool.and_eq_true _ _).mp plain
    rw [membersAsText, decimalsAsText_plain v first, membersAsText_plain rest later]

end

end Value

namespace Stack

mutual

/-- Whether the stack suffices to write every list and every object in a value that is written at a
level. -/
def reaches (stack : Stack) (level : Nat) : Value → Bool
  | .list items => stack.writes level (.list items) && reachesItems stack (level + 1) items
  | .object members =>
    stack.writes level (.object members) && reachesMembers stack (level + 1) members
  | _ => true

def reachesItems (stack : Stack) (level : Nat) : List Value → Bool
  | [] => true
  | v :: rest => reaches stack level v && reachesItems stack level rest

def reachesMembers (stack : Stack) (level : Nat) : List (Text × Value) → Bool
  | [] => true
  | (_, v) :: rest => reaches stack level v && reachesMembers stack level rest

end

variable {stack : Stack}

mutual

/-- A stack that suffices for each list and each object suffices for everything. -/
theorem reaches_of_writes (ample : ∀ level v, stack.writes level v = true) (level : Nat)
    (v : Value) : stack.reaches level v = true := by
  cases v with
  | list items =>
    rw [reaches, ample, reachesItems_of_writes ample (level + 1) items]
    rfl
  | object members =>
    rw [reaches, ample, reachesMembers_of_writes ample (level + 1) members]
    rfl
  | _ => rfl

theorem reachesItems_of_writes (ample : ∀ level v, stack.writes level v = true) (level : Nat)
    (vs : List Value) : stack.reachesItems level vs = true := by
  cases vs with
  | nil => rfl
  | cons v rest =>
    rw [reachesItems, reaches_of_writes ample level v, reachesItems_of_writes ample level rest]
    rfl

theorem reachesMembers_of_writes (ample : ∀ level v, stack.writes level v = true) (level : Nat)
    (members : List (Text × Value)) : stack.reachesMembers level members = true := by
  cases members with
  | nil => rfl
  | cons m rest =>
    obtain ⟨name, v⟩ := m
    rw [reachesMembers, reaches_of_writes ample level v, reachesMembers_of_writes ample level rest]
    rfl

end

end Stack

namespace Json

/-! ### Writing -/

theorem put_succeeds (t s : String) : (put t s).2 = none ↔ True := iff_of_true rfl trivial

theorem putTwice_succeeds (t u s : String) : ((put t).andThen (put u) s).2 = none ↔ True :=
  iff_of_true rfl trivial

theorem enter_succeeds {stack : Stack} {level : Nat} {v : Value} {step : Step String} {s : String} :
    (enter stack level v step s).2 = none ↔ stack.writes level v = true ∧ (step s).2 = none := by
  unfold enter
  split
  · rename_i within
    exact (and_iff_right within).symm
  · rename_i beyond
    exact iff_of_false (Option.some_ne_none _) fun h => beyond h.1

/-- A value without parts is written in one go, if its integer can be written. -/
theorem scalar?_written {stack : Stack} {level : Nat} {v : Value} {x : Except Fault String}
    (known : scalar? v = some x) :
    (∃ t, x = .ok t) ↔
      v.isPlain = true ∧ v.isWritable = true ∧ stack.reaches level v = true := by
  cases v with
  | int n =>
    obtain rfl := Option.some.inj known
    by_cases written : Integer.isWritable n = true <;>
      simp [written, Value.isWritable, Stack.reaches]
  | decimal _ | list _ | object _ => cases known
  | _ =>
    obtain rfl := Option.some.inj known
    simp [Value.isWritable, Stack.reaches]

theorem and_three {a b c a' b' c' : Prop} :
    (a ∧ a') ∧ (b ∧ b') ∧ c ∧ c' ↔ (a ∧ b ∧ c) ∧ a' ∧ b' ∧ c' :=
  ⟨fun ⟨⟨a, a'⟩, ⟨b, b'⟩, c, c'⟩ => ⟨⟨a, b, c⟩, a', b', c'⟩,
    fun ⟨⟨a, b, c⟩, a', b', c'⟩ => ⟨⟨a, a'⟩, ⟨b, b'⟩, c, c'⟩⟩

mutual

/-- A value is written to its end if there are no decimals in it, its integers can be written and
the stack suffices, and only then. -/
theorem writeAt_succeeds (stack : Stack) (level : Nat) (v : Value) (s : String) :
    (writeAt stack level v s).2 = none ↔
      v.isPlain = true ∧ v.isWritable = true ∧ stack.reaches level v = true := by
  cases v with
  | list items =>
    have whole : (Value.list items).isPlain = true ∧ (Value.list items).isWritable = true ∧
        stack.reaches level (.list items) = true ↔
          stack.writes level (.list items) = true ∧ Value.arePlain items = true ∧
            Value.areWritable items = true ∧ stack.reachesItems (level + 1) items = true := by
      rw [Value.isPlain, Value.isWritable, Stack.reaches, Bool.and_eq_true]
      exact ⟨fun ⟨p, w, e, r⟩ => ⟨e, p, w, r⟩, fun ⟨e, p, w, r⟩ => ⟨p, w, e, r⟩⟩
    rw [whole]
    cases items with
    | nil =>
      rw [writeAt, enter_succeeds]
      exact and_congr_right fun _ => iff_of_true rfl ⟨rfl, rfl, rfl⟩
    | cons item rest =>
      have inner := writeItems_succeeds stack (level + 1) (item :: rest)
        ("[" ++ lineAt (level + 1)) s
      rw [writeAt, enter_succeeds, Step.andThen_succeeds_iff inner (putTwice_succeeds _ _),
        and_true]
  | object members =>
    have whole : (Value.object members).isPlain = true ∧ (Value.object members).isWritable = true ∧
        stack.reaches level (.object members) = true ↔
          stack.writes level (.object members) = true ∧ Value.havePlain members = true ∧
            Value.haveWritable members = true ∧
              stack.reachesMembers (level + 1) members = true := by
      rw [Value.isPlain, Value.isWritable, Stack.reaches, Bool.and_eq_true]
      exact ⟨fun ⟨p, w, e, r⟩ => ⟨e, p, w, r⟩, fun ⟨e, p, w, r⟩ => ⟨p, w, e, r⟩⟩
    rw [whole]
    cases members with
    | nil =>
      rw [writeAt, enter_succeeds]
      exact and_congr_right fun _ => iff_of_true rfl ⟨rfl, rfl, rfl⟩
    | cons m rest =>
      have inner := writeMembers_succeeds stack (level + 1) (m :: rest)
        ("\x7b" ++ lineAt (level + 1)) s
      rw [writeAt, enter_succeeds, Step.andThen_succeeds_iff inner (putTwice_succeeds _ _),
        and_true]
  | decimal x => exact iff_of_false (Option.some_ne_none _) fun h => Bool.false_ne_true h.1
  | int n =>
    by_cases written : Integer.isWritable n = true
    · simp [writeAt, scalar?, written, put, Step.update, Value.isWritable, Stack.reaches]
    · simp [writeAt, scalar?, written, Step.fail, Value.isWritable]
  | _ => exact iff_of_true rfl ⟨rfl, rfl, rfl⟩

theorem writeItems_succeeds (stack : Stack) (level : Nat) (vs : List Value) (before s : String) :
    (writeItems stack level before vs s).2 = none ↔
      Value.arePlain vs = true ∧ Value.areWritable vs = true ∧
        stack.reachesItems level vs = true := by
  cases vs with
  | nil => exact iff_of_true rfl ⟨rfl, rfl, rfl⟩
  | cons v rest =>
    rw [writeItems, Value.arePlain, Value.areWritable, Stack.reachesItems, Bool.and_eq_true,
      Bool.and_eq_true, Bool.and_eq_true, and_three]
    refine Step.andThen_succeeds_iff ?_ fun t => writeItems_succeeds stack level rest _ t
    cases known : scalar? v with
    | none =>
      have inner := writeAt_succeeds stack level v
      exact (Step.andThen_succeeds_iff (put_succeeds before s) inner).trans (Iff.of_eq (true_and _))
    | some x =>
      rw [← scalar?_written known]
      cases x with
      | ok t => exact iff_of_true rfl ⟨t, rfl⟩
      | error f => exact iff_of_false (by simp [Step.fail]) (by simp)

theorem writeMembers_succeeds (stack : Stack) (level : Nat) (members : List (Text × Value))
    (before s : String) :
    (writeMembers stack level before members s).2 = none ↔
      Value.havePlain members = true ∧ Value.haveWritable members = true ∧
        stack.reachesMembers level members = true := by
  cases members with
  | nil => exact iff_of_true rfl ⟨rfl, rfl, rfl⟩
  | cons m rest =>
    obtain ⟨name, v⟩ := m
    rw [writeMembers, Value.havePlain, Value.haveWritable, Stack.reachesMembers, Bool.and_eq_true,
      Bool.and_eq_true, Bool.and_eq_true, and_three]
    have inner := fun t => Step.andThen_succeeds_iff (writeAt_succeeds stack level v t) fun u =>
      writeMembers_succeeds stack level rest ("," ++ lineAt level) u
    exact (Step.andThen_succeeds_iff (put_succeeds _ s) inner).trans (Iff.of_eq (true_and _))

end

/-! ### Reading -/

end Json

end TraceScope
