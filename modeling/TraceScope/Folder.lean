import TraceScope.Fault
import TraceScope.Table
import TraceScope.Text.Split

/-!
# Folders

The files that can be reached from a folder, and what becomes of a path that starts in it. A path is
walked step by step: each step needs a folder to start from, a step to a name may lead nowhere. A
file may go by several names, and a link leads from its own place to another one.
-/

namespace TraceScope

/-- The names on the way from the topmost folder to a file or folder. -/
abbrev Place := List Text

inductive PathStep
  | stay
  | up
  | enter (name : Text)
  deriving DecidableEq, Repr

structure Path where
  fromTop : Bool
  steps : List PathStep
  endsAsFolder : Bool
  deriving DecidableEq, Repr

namespace Path

def slash : Letter := .char '/'

def stepOf (name : Text) : PathStep :=
  if name = "." then .stay else if name = ".." then .up else .enter name

def ofText (t : Text) : Path where
  fromTop := t.letters.head? = some slash
  steps := ((splitAtEach slash t.letters).filter (!·.isEmpty)).map fun name => stepOf ⟨name⟩
  endsAsFolder := t.letters.getLast? = some slash

/-- Halves of pairs that stand for single bytes in names. -/
def isByte (l : Letter) : Bool := decide (0xdc80 ≤ l.code ∧ l.code ≤ 0xdcff)

def byteSize : Letter → Nat
  | .char c => c.utf8Size
  | .half _ => 1

def size (t : Text) : Nat := t.letters.foldl (fun n l => n + byteSize l) 0

def maxNameSize : Nat := 255

/-- The least number of bytes that is too much for a path. -/
def sizeLimit : Nat := 4096

def isHalf : Letter → Bool
  | .char _ => false
  | .half _ => true

/-- The fault of the first halves of pairs that stand for no bytes, up to the end of their run. -/
def halvesFault? (t : Text) : Option Fault :=
  let before := t.letters.takeWhile fun l => !isHalf l || isByte l
  match t.letters.drop before.length with
  | [] => none
  | l :: rest => some (.halvesInPath l.code before.length
      (before.length + (rest.takeWhile isHalf).length))

def read (t : Text) : Except Fault Path :=
  match halvesFault? t with
  | some f => .error f
  | none =>
    if t.letters.contains (.char (Char.ofNat 0)) then .error .nullInPath
    else if t.isEmpty then .error (.noFile t)
    else if sizeLimit ≤ size t then .error (.nameTooLong t)
    else .ok (ofText t)

end Path

/-- A folder: its own place, the files that can be reached from it with what they hold, the links,
and the folders besides those on the way to it. Places with the same number are names of one
file. -/
structure Folder where
  location : Place := []
  files : Table Place Nat := {}
  contents : Table Nat ByteArray := {}
  links : Table Place Place := {}
  folders : List Place := []
  /-- The number of links that are followed one after the other. -/
  linkLimit : Nat := 40

/-- What a disk makes of bytes that are to be stored: it takes them, or fails, either after some of
them or before it lets go of what was there. -/
inductive Storing
  | whole
  | cut (n : Nat) (f : Fault)
  | refused (f : Fault)

namespace Folder

def get? (f : Folder) (place : Place) : Option ByteArray :=
  (f.files.get? place).map fun n => (f.contents.get? n).getD .empty

def isFolder (f : Folder) (place : Place) : Bool :=
  place.isPrefixOf f.location || f.folders.contains place

def needFolder (f : Folder) (path : Text) (place : Place) : Except Fault Unit :=
  if f.isFolder place then .ok ()
  else if (f.files.get? place).isSome then .error (.notDirectory path)
  else .error (.noFile path)

def follow (f : Folder) (path : Text) : Nat → Place → Except Fault Place
  | limit, place => match f.links.get? place, limit with
    | none, _ => .ok place
    | some _, 0 => .error (.tooManyLinks path)
    | some next, limit + 1 => follow f path limit next

def enter (path : Text) (place : Place) (name : Text) : Except Fault Place :=
  if Path.maxNameSize < Path.size name then .error (.nameTooLong path) else .ok (place ++ [name])

def advance (f : Folder) (path : Text) (place : Place) : PathStep → Except Fault Place
  | .stay => .ok place
  | .up => .ok place.dropLast
  | .enter name => do f.follow path f.linkLimit (← enter path place name)

def walk (f : Folder) (path : Text) (place : Place) : List PathStep → Except Fault Place
  | [] => .ok place
  | step :: rest => do
    f.needFolder path place
    f.walk path (← f.advance path place step) rest

def start (f : Folder) (p : Path) : Place := if p.fromTop then [] else f.location

def read (f : Folder) (path : Text) : Except Fault ByteArray := do
  let p ← Path.read path
  let place ← f.walk path (f.start p) p.steps
  if f.isFolder place then .error (.isDirectory path)
  else
    match f.get? place with
    | some bytes => if p.endsAsFolder then .error (.notDirectory path) else .ok bytes
    | none => .error (.noFile path)

/-- The place that a path names, whatever is there. -/
def entry (f : Folder) (path : Text) : Except Fault Place := do
  let p ← Path.read path
  match p.steps.getLast? with
  | some (.enter name) =>
    let parent ← f.walk path (f.start p) p.steps.dropLast
    f.needFolder path parent
    if p.endsAsFolder then .error (.isDirectory path) else enter path parent name
  | _ =>
    let _ ← f.walk path (f.start p) p.steps
    .error (.isDirectory path)

/-- The place of the file that is written when a path is written to. -/
def target (f : Folder) (path : Text) : Except Fault Place := do
  let place ← f.follow path f.linkLimit (← f.entry path)
  f.needFolder path place.dropLast
  if f.isFolder place then .error (.isDirectory path) else .ok place

def unused (f : Folder) : Nat := f.files.entries.foldl (fun n e => max n (e.2 + 1)) 0

/-- Writes the file at a place, under all of its names, or a new one. -/
def write (f : Folder) (place : Place) (bytes : ByteArray) : Folder :=
  match f.files.get? place with
  | some n => { f with contents := f.contents.insert n bytes }
  | none =>
    { f with
      files := f.files.insert place f.unused
      contents := f.contents.insert f.unused bytes }

def writeHere (f : Folder) (name : Text) (bytes : ByteArray) : Folder :=
  f.write (f.location ++ [name]) bytes

def store (f : Folder) (how : Storing) (place : Place) (bytes : ByteArray) :
    Folder × Option Fault :=
  match how with
  | .whole => (f.write place bytes, none)
  | .cut n fault => (f.write place (bytes.extract 0 n), some fault)
  | .refused fault => (f, some fault)

/-- Takes away the file or the link at a place. What a link leads to stays, and so does a file under
its other names. -/
def remove (f : Folder) (place : Place) : Folder :=
  { f with files := f.files.erase place, links := f.links.erase place }

def pathBelow? (location place : Place) : Option Text :=
  if location.isPrefixOf place then
    some (Text.intercalate "/" (place.drop location.length))
  else none

/-! ### What is found -/

/-- Two places are names of one file. -/
def SameFile (f : Folder) (a b : Place) : Prop :=
  ∃ n, f.files.get? a = some n ∧ f.files.get? b = some n

theorem lt_foldl_unused {place : Place} {n : Nat} (es : List (Place × Nat)) (m : Nat) :
    m ≤ es.foldl (fun n e => max n (e.2 + 1)) m ∧
      (Table.lookup place es = some n → n < es.foldl (fun n e => max n (e.2 + 1)) m) := by
  induction es generalizing m with
  | nil => exact ⟨Nat.le_refl m, nofun⟩
  | cons e rest ih =>
    obtain ⟨grows, above⟩ := ih (max m (e.2 + 1))
    refine ⟨Nat.le_trans (Nat.le_max_left _ _) grows, fun known => ?_⟩
    rw [Table.lookup] at known
    split at known
    · obtain rfl := Option.some.inj known
      exact Nat.le_trans (Nat.le_max_right m _) grows
    · exact above known

theorem files_ne_unused {f : Folder} {place : Place} {n : Nat}
    (known : f.files.get? place = some n) : f.unused ≠ n :=
  Nat.ne_of_gt ((lt_foldl_unused f.files.entries 0).2 known)

/-- What was written is found under every name of the file. -/
theorem get?_write {f : Folder} {place other : Place} (bytes : ByteArray)
    (same : place = other ∨ f.SameFile place other) :
    (f.write place bytes).get? other = some bytes := by
  unfold write get?
  cases known : f.files.get? place with
  | some n =>
    have there : f.files.get? other = some n := by
      rcases same with rfl | ⟨m, here, there⟩
      · exact known
      · exact there.trans (here.symm.trans known)
    dsimp only
    rw [there, Option.map_some, Table.get?_insert, if_pos rfl]
    rfl
  | none =>
    rcases same with rfl | ⟨m, here, _⟩
    · dsimp only
      rw [Table.get?_insert, if_pos rfl, Option.map_some, Table.get?_insert, if_pos rfl]
      rfl
    · rw [known] at here
      cases here

/-- Other files are as they were before one was written. -/
theorem get?_write_other {f : Folder} {place other : Place} (bytes : ByteArray)
    (distinct : place ≠ other) (apart : ¬f.SameFile place other) :
    (f.write place bytes).get? other = f.get? other := by
  unfold write get?
  cases known : f.files.get? place with
  | some n =>
    dsimp only
    cases there : f.files.get? other with
    | none => rfl
    | some m =>
      have different : n ≠ m := fun same => apart ⟨n, known, same ▸ there⟩
      rw [Option.map_some, Option.map_some, Table.get?_insert, if_neg different]
  | none =>
    dsimp only
    rw [Table.get?_insert, if_neg distinct]
    cases there : f.files.get? other with
    | none => rfl
    | some m =>
      rw [Option.map_some, Option.map_some, Table.get?_insert, if_neg (files_ne_unused there)]

theorem get?_remove (f : Folder) (place other : Place) :
    (f.remove place).get? other = if place = other then none else f.get? other := by
  unfold remove get?
  dsimp only
  rw [Table.get?_erase]
  split
  · rfl
  · rfl

end Folder

end TraceScope
