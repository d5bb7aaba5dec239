import TraceScope.Folder
import TraceScope.Proofs.Composition

/-!
# Where paths lead

A path leads to the same place before and after a file was written, so what is written to it is read
from it again. The entry that a plain name stands for is in the folder itself, wherever a link there
may lead.
-/

namespace TraceScope

namespace Folder

variable {f g : Folder} {path : Text} {place other there : Place} {bytes : ByteArray}

/-- Both folders stand in the same place, with the same folders around and the same links. -/
structure SameShape (f g : Folder) : Prop where
  location : f.location = g.location
  folders : f.folders = g.folders
  links : f.links = g.links
  linkLimit : f.linkLimit = g.linkLimit

theorem SameShape.refl (f : Folder) : f.SameShape f := ⟨rfl, rfl, rfl, rfl⟩

theorem write_shape (f : Folder) (place : Place) (bytes : ByteArray) :
    f.SameShape (f.write place bytes) := by
  unfold write
  split
  · exact ⟨rfl, rfl, rfl, rfl⟩
  · exact ⟨rfl, rfl, rfl, rfl⟩

theorem needFolder_ok_iff :
    f.needFolder path place = .ok () ↔ f.isFolder place = true := by
  unfold needFolder
  split
  · rename_i folder
    exact iff_of_true rfl folder
  · rename_i other
    refine iff_of_false (fun found => ?_) other
    split at found
    · cases found
    · cases found

namespace SameShape

variable (same : f.SameShape g)

include same

theorem isFolder (place : Place) : f.isFolder place = g.isFolder place := by
  rw [Folder.isFolder, Folder.isFolder, same.location, same.folders]

theorem start (p : Path) : f.start p = g.start p := by
  rw [Folder.start, Folder.start, same.location]

theorem follow (limit : Nat) (place : Place) :
    f.follow path limit place = g.follow path limit place := by
  induction limit generalizing place with
  | zero =>
    unfold Folder.follow
    rw [same.links]
    cases g.links.get? place <;> rfl
  | succ limit ih =>
    unfold Folder.follow
    rw [same.links]
    cases g.links.get? place with
    | none => rfl
    | some next => exact ih next

theorem advance (place : Place) (step : PathStep) :
    f.advance path place step = g.advance path place step := by
  cases step with
  | stay => rfl
  | up => rfl
  | enter name =>
    unfold Folder.advance
    rw [same.linkLimit]
    exact bind_congr fun there => same.follow _ there

theorem walk {steps : List PathStep} {reached : Place}
    (done : f.walk path place steps = .ok reached) : g.walk path place steps = .ok reached := by
  induction steps generalizing place with
  | nil => exact done
  | cons step rest ih =>
    rw [Folder.walk] at done ⊢
    obtain ⟨_, found, done⟩ := bind_ok_iff.mp done
    obtain ⟨next, advanced, done⟩ := bind_ok_iff.mp done
    have folder := (same.isFolder place).symm.trans (needFolder_ok_iff.mp found)
    refine bind_ok_iff.mpr ⟨(), needFolder_ok_iff.mpr folder, bind_ok_iff.mpr ⟨next, ?_, ih done⟩⟩
    exact (same.advance place step).symm.trans advanced

end SameShape

theorem walk_append (steps more : List PathStep) :
    f.walk path place (steps ++ more) =
      f.walk path place steps >>= fun reached => f.walk path reached more := by
  induction steps generalizing place with
  | nil => rfl
  | cons step rest ih =>
    rw [List.cons_append, walk, walk, bind_assoc]
    refine bind_congr fun _ => ?_
    rw [bind_assoc]
    exact bind_congr fun next => ih

/-! ### Entries -/

/-- A path to an entry: it leads through folders to the one that the entry is in. -/
structure Enters (f : Folder) (path : Text) (there : Place) (p : Path) (before : List PathStep)
    (name : Text) (parent : Place) : Prop where
  read : Path.read path = .ok p
  steps : p.steps = before ++ [.enter name]
  walked : f.walk path (f.start p) before = .ok parent
  opened : f.isFolder parent = true
  asFile : p.endsAsFolder = false
  entered : enter path parent name = .ok there

theorem entry_ok_iff :
    f.entry path = .ok there ↔
      ∃ p before name parent, f.Enters path there p before name parent := by
  constructor
  · intro found
    obtain ⟨p, read, found⟩ := bind_ok_iff.mp found
    split at found
    · rename_i name last
      obtain ⟨before, steps⟩ := List.getLast?_eq_some_iff.mp last
      obtain ⟨parent, walked, found⟩ := bind_ok_iff.mp found
      obtain ⟨_, opened, found⟩ := bind_ok_iff.mp found
      rw [steps, List.dropLast_concat] at walked
      split at found
      · cases found
      · rename_i asFile
        exact ⟨p, before, name, parent, read, steps, walked, needFolder_ok_iff.mp opened,
          Bool.not_eq_true _ ▸ asFile, found⟩
    · obtain ⟨_, _, found⟩ := bind_ok_iff.mp found
      cases found
  · rintro ⟨p, before, name, parent, h⟩
    refine bind_ok_iff.mpr ⟨p, h.read, ?_⟩
    rw [h.steps, List.getLast?_concat, List.dropLast_concat]
    refine bind_ok_iff.mpr ⟨parent, h.walked, bind_ok_iff.mpr ⟨(), ?_, ?_⟩⟩
    · exact needFolder_ok_iff.mpr h.opened
    · rw [h.asFile]
      exact h.entered

theorem SameShape.entry (same : f.SameShape g) (found : f.entry path = .ok there) :
    g.entry path = .ok there := by
  obtain ⟨p, before, name, parent, h⟩ := entry_ok_iff.mp found
  refine entry_ok_iff.mpr ⟨p, before, name, parent, { h with walked := ?_, opened := ?_ }⟩
  · rw [← same.start]
    exact same.walk h.walked
  · rw [← same.isFolder]
    exact h.opened

/-- What is written to a path goes where the links at its entry lead. -/
theorem target_ok_iff :
    f.target path = .ok place ↔ ∃ there, f.entry path = .ok there ∧
      f.follow path f.linkLimit there = .ok place ∧ f.isFolder place.dropLast = true ∧
        f.isFolder place = false := by
  constructor
  · intro found
    obtain ⟨there, entered, found⟩ := bind_ok_iff.mp found
    obtain ⟨reached, followed, found⟩ := bind_ok_iff.mp found
    obtain ⟨_, opened, found⟩ := bind_ok_iff.mp found
    split at found
    · cases found
    · rename_i file
      obtain rfl := Except.ok.inj found
      exact ⟨there, entered, followed, needFolder_ok_iff.mp opened, Bool.not_eq_true _ ▸ file⟩
  · rintro ⟨there, entered, followed, opened, file⟩
    refine bind_ok_iff.mpr ⟨there, entered, bind_ok_iff.mpr ⟨place, followed,
      bind_ok_iff.mpr ⟨(), needFolder_ok_iff.mpr opened, ?_⟩⟩⟩
    rw [file]
    rfl

/-- What was written to a path is read from it. -/
theorem read_write (found : f.target path = .ok place) :
    (f.write place bytes).read path = .ok bytes := by
  obtain ⟨there, entered, followed, _, file⟩ := target_ok_iff.mp found
  have same := f.write_shape place bytes
  obtain ⟨p, before, name, parent, h⟩ := entry_ok_iff.mp entered
  have walked : f.walk path (f.start p) p.steps = .ok place := by
    rw [h.steps, walk_append, h.walked]
    change f.walk path parent [.enter name] = _
    rw [walk]
    refine bind_ok_iff.mpr ⟨(), needFolder_ok_iff.mpr h.opened, bind_ok_iff.mpr ⟨place, ?_, rfl⟩⟩
    exact bind_ok_iff.mpr ⟨there, h.entered, followed⟩
  refine bind_ok_iff.mpr ⟨p, h.read, bind_ok_iff.mpr ⟨place, ?_, ?_⟩⟩
  · rw [← same.start]
    exact same.walk walked
  · rw [← same.isFolder, file, get?_write bytes (.inl rfl), h.asFile]
    rfl

theorem read_stored {how : Storing} (found : f.target path = .ok place)
    (whole : (f.store how place bytes).2 = none) :
    (f.store how place bytes).1.read path = .ok bytes := by
  cases how with
  | whole => exact read_write found
  | cut n fault => cases whole
  | refused fault => cases whole

end Folder

/-! ### Plain names -/

namespace Path

variable {name : Text} {p : Path}

/-- A name that stands for an entry of a folder and nothing else. -/
structure IsPlain (name : Text) : Prop where
  some : name.isEmpty = false
  slashless : slash ∉ name.letters
  entry : name ≠ "." ∧ name ≠ ".."

theorem IsPlain.ofText (plain : IsPlain name) :
    (ofText name).fromTop = false ∧ (ofText name).steps = [.enter name] := by
  constructor
  · exact decide_eq_false fun first => plain.slashless (List.mem_of_head? first)
  · have some : name.letters.isEmpty = false := plain.some
    rw [Path.ofText, splitAtEach_of_not_mem plain.slashless, List.filter_cons, some]
    change [stepOf name] = _
    rw [stepOf, if_neg plain.entry.1, if_neg plain.entry.2]

theorem ofText_of_read (known : read name = .ok p) : p = ofText name := by
  unfold read at known
  split at known
  · cases known
  · split at known
    · cases known
    · split at known
      · cases known
      · split at known
        · cases known
        · exact (Except.ok.inj known).symm

end Path

/-- A plain name is that of an entry in the folder itself. -/
theorem Folder.entry_of_plain {f : Folder} {name : Text} {there : Place}
    (plain : Path.IsPlain name) (found : f.entry name = .ok there) :
    there = f.location ++ [name] := by
  obtain ⟨p, before, last, parent, h⟩ := entry_ok_iff.mp found
  obtain rfl := Path.ofText_of_read h.read
  obtain ⟨relative, steps⟩ := plain.ofText
  have single : before ++ [.enter last] = [] ++ [.enter name] := h.steps.symm.trans steps
  obtain ⟨rfl, same⟩ := List.append_inj' single rfl
  obtain rfl : last = name := PathStep.enter.inj (List.cons.inj same).1
  have start : f.start (Path.ofText last) = f.location := by
    rw [Folder.start, relative]
    rfl
  have walked := h.walked
  rw [start] at walked
  obtain rfl : f.location = parent := Except.ok.inj walked
  have entered := h.entered
  unfold Folder.enter at entered
  split at entered
  · cases entered
  · exact (Except.ok.inj entered).symm

end TraceScope
