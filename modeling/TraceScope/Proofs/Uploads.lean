import TraceScope.Proofs.Surfaces

/-!
# What an upload leaves behind

An uploaded file is kept in a folder under its plain name while it is analysed. Afterwards nothing
is left under that name, whatever the answer is, unless the disk fails. What went by that name
before is gone: a file, or a link, whose file holds what was uploaded.
-/

namespace TraceScope

/-! ### Folders -/

namespace Folder

variable {f g : Folder} {path : Text} {here place : Place} {bytes : ByteArray}

/-- Both folders stand in the same place, with the same folders around, the same links and the same
files with the same contents. -/
structure SameFiles (f g : Folder) : Prop where
  location : f.location = g.location
  folders : f.folders = g.folders
  links : ∀ place, f.links.get? place = g.links.get? place
  files : ∀ place, f.get? place = g.get? place

/-- One folder is the other one after the file at a place was written, under all of its names. -/
structure Overwritten (f g : Folder) (place : Place) (bytes : ByteArray) : Prop where
  shape : f.SameShape g
  written : ∀ other, place = other ∨ f.SameFile place other → g.get? other = some bytes
  others : ∀ other, place ≠ other → ¬f.SameFile place other → g.get? other = f.get? other

/-- One folder is the other one after the file at a place was written, and what is here was taken
away. -/
structure Cleared (f g : Folder) (here place : Place) (bytes : ByteArray) : Prop where
  location : f.location = g.location
  folders : f.folders = g.folders
  gone : g.get? here = none ∧ g.links.get? here = none
  links : ∀ other, here ≠ other → g.links.get? other = f.links.get? other
  written : ∀ other, here ≠ other → place = other ∨ f.SameFile place other →
    g.get? other = some bytes
  others : ∀ other, here ≠ other → place ≠ other → ¬f.SameFile place other →
    g.get? other = f.get? other

theorem write_overwrites (f : Folder) (place : Place) (bytes : ByteArray) :
    f.Overwritten (f.write place bytes) place bytes where
  shape := f.write_shape place bytes
  written _ same := get?_write bytes same
  others _ distinct apart := get?_write_other bytes distinct apart

theorem Overwritten.cleared (h : f.Overwritten g place bytes) (here : Place) :
    f.Cleared (g.remove here) here place bytes := by
  have found : ∀ other, here ≠ other → (g.remove here).get? other = g.get? other :=
    fun other distinct => (get?_remove g here other).trans (if_neg distinct)
  refine ⟨h.shape.location, h.shape.folders, ⟨?_, ?_⟩, fun other distinct => ?_,
    fun other distinct same => ?_, fun other distinct away apart => ?_⟩
  · exact (get?_remove g here here).trans (if_pos rfl)
  · exact (Table.get?_erase g.links here here).trans (if_pos rfl)
  · rw [h.shape.links]
    exact (Table.get?_erase g.links here other).trans (if_neg distinct)
  · exact (found other distinct).trans (h.written other same)
  · exact (found other distinct).trans (h.others other away apart)

/-- Where there is no link, a file is written in its own place. -/
theorem eq_of_follow {limit : Nat} (unlinked : f.links.get? here = none)
    (leads : f.follow path limit here = .ok place) : here = place := by
  unfold follow at leads
  rw [unlinked] at leads
  exact Except.ok.inj leads

/-- To write a file and to take it away again changes nothing if there was neither a file nor a link
before, and only then. -/
theorem Cleared.sameFiles_iff (h : f.Cleared g here place bytes)
    (leads : f.links.get? here = none → here = place) :
    f.SameFiles g ↔ f.get? here = none ∧ f.links.get? here = none := by
  constructor
  · exact fun same => ⟨(same.files here).trans h.gone.1, (same.links here).trans h.gone.2⟩
  · rintro ⟨absent, unlinked⟩
    obtain rfl := leads unlinked
    have single : ∀ other, ¬f.SameFile here other := by
      rintro other ⟨n, known, _⟩
      rw [get?, known] at absent
      cases absent
    refine ⟨h.location, h.folders, fun other => ?_, fun other => ?_⟩
    · by_cases same : here = other
      · rw [← same, unlinked, h.gone.2]
      · exact (h.links other same).symm
    · by_cases same : here = other
      · rw [← same, absent, h.gone.1]
      · exact (h.others other same same (single other)).symm

end Folder

/-! ### Statuses -/

namespace Server

variable {server : Server}

theorem status_among {statuses : List Nat} {status : Nat} (v : Value)
    (members : status ∈ statuses ∧ 500 ∈ statuses) :
    (server.json status v).status ∈ statuses := by
  rcases server.status_json status v with same | same
  · rw [same]
    exact members.1
  · rw [same]
    exact members.2

theorem status_unreadable (f : Fault) : (server.unreadable f).status ∈ [400, 500] := by
  unfold unreadable
  split
  · exact status_among _ (by decide)
  · exact (by decide : 500 ∈ [400, 500])

/-- An analysis is answered with a report, or it is blamed on the data, on the format or on the
server. -/
theorem status_ofAnalysis (inv : Inventory) (config : Config) (analysis : Step Analyzer) :
    (server.ofAnalysis inv config analysis).status ∈ [200, 400, 422, 500] := by
  unfold ofAnalysis
  split
  · unfold ofReport
    split
    · exact status_among _ (by decide)
    · decide
  · exact (by decide : [400, 422, 500] ⊆ [200, 400, 422, 500]) (server.status_failed _)

end Server

/-! ### Uploads -/

namespace Upload

variable {server : Server} {folder : Folder} {request : Incoming Form} {form : Form}
  {segmentFile inventoryFile : SentFile} {here place : Place}

/-- An upload gets as far as the disk: it is taken in, both files are there, they have names of JSON
files, the options and the inventory can be read, and there is a place for the file. The file goes
by its plain name, from which links may lead to the place that it is written to. -/
structure Stores (server : Server) (folder : Folder) (request : Incoming Form) (form : Form)
    (segmentFile inventoryFile : SentFile) (here place : Place) : Prop where
  taken : request.taken = .ok form
  listed : form.files.lookup segmentsName = some segmentFile ∧
    form.files.lookup inventoryName = some inventoryFile
  named : isJsonName segmentFile.name = true ∧ isJsonName inventoryFile.name = true
  setup : ∃ setup, readSetup server.stack form inventoryFile.content = .ok setup
  target : folder.target (server.plainName segmentFile.name) = .ok place
  entry : folder.entry (server.plainName segmentFile.name) = .ok here

theorem Stores.leads
    (stores : Stores server folder request form segmentFile inventoryFile here place) :
    folder.follow (server.plainName segmentFile.name) folder.linkLimit here = .ok place := by
  obtain ⟨there, entered, leads, _⟩ := Folder.target_ok_iff.mp stores.target
  obtain rfl := Except.ok.inj (entered.symm.trans stores.entry)
  exact leads

/-- What becomes of a file that got as far as the disk: it is taken away again if all of it was
stored. -/
theorem Stores.respond_eq
    (stores : Stores server folder request form segmentFile inventoryFile here place) :
    let content := segmentFile.content
    let stored := folder.store (server.storing place content) place content
    (∀ f, stored.2 = some f → respond server folder request = (stored.1, .serverError)) ∧
      (stored.2 = none → ∀ f, server.removing here = some f →
        respond server folder request = (stored.1, .serverError)) ∧
      (stored.2 = none → server.removing here = none → ∃ answer : Response,
        answer.status ∈ [200, 400, 422, 500] ∧
          respond server folder request = (stored.1.remove here, answer)) := by
  intro content stored
  obtain ⟨⟨config, inv⟩, read⟩ := stores.setup
  have segmentsNamed := Job.nonempty_of_isJsonName stores.named.1
  have inventoryNamed := Job.nonempty_of_isJsonName stores.named.2
  have reached : respond server folder request =
      respondToFiles server folder form segmentFile inventoryFile := by
    simp only [respond, stores.taken, respondToForm, stores.listed, segmentsNamed, inventoryNamed,
      stores.named, Bool.or_self, Bool.and_self, Bool.false_eq_true, if_false, if_true]
  have shape : folder.SameShape stored.1 := by
    change folder.SameShape (folder.store (server.storing place content) place content).1
    cases server.storing place content with
    | whole => exact folder.write_shape place content
    | cut n f => exact folder.write_shape place _
    | refused f => exact .refl folder
  have again := shape.entry stores.entry
  rw [reached]
  have parts : folder.store (server.storing place segmentFile.content) place segmentFile.content =
      (stored.1, stored.2) := rfl
  simp only [respondToFiles, read, stores.target, parts]
  refine ⟨fun f broken => ?_, fun kept f stuck => ?_, fun kept removed => ?_⟩
  · rw [broken]
  · simp only [kept, removeFrom, again, stuck]
  · simp only [kept, removeFrom, again, removed]
    exact ⟨_, server.status_ofAnalysis inv config _, rfl⟩

theorem respondToFiles_refused (server : Server) (folder : Folder) (form : Form)
    (segmentFile inventoryFile : SentFile) :
    (∃ setup place, readSetup server.stack form inventoryFile.content = .ok setup ∧
        folder.target (server.plainName segmentFile.name) = .ok place) ∨
      (respondToFiles server folder form segmentFile inventoryFile).1 = folder ∧
        (respondToFiles server folder form segmentFile inventoryFile).2.status ∈ [400, 500] := by
  unfold respondToFiles
  cases readSetup server.stack form inventoryFile.content with
  | error f => exact Or.inr ⟨rfl, server.status_unreadable f⟩
  | ok setup =>
    dsimp only
    cases folder.target (server.plainName segmentFile.name) with
    | error f => exact Or.inr ⟨rfl, (by decide : 500 ∈ [400, 500])⟩
    | ok place => exact Or.inl ⟨setup, place, rfl, rfl⟩

theorem stores_or_refused (server : Server) (folder : Folder) (request : Incoming Form) :
    (∃ form segmentFile inventoryFile here place,
        Stores server folder request form segmentFile inventoryFile here place) ∨
      (respond server folder request).1 = folder ∧
        (request.taken = .error (respond server folder request).2 ∨
          (respond server folder request).2.status ∈ [400, 500]) := by
  have refused : ∀ message, (server.problem 400 message).status ∈ [400, 500] :=
    fun message => server.status_among _ (by decide)
  unfold respond
  cases taken : request.taken with
  | error refusal => exact Or.inr ⟨rfl, Or.inl rfl⟩
  | ok form =>
    dsimp only
    unfold respondToForm
    split
    · rename_i segmentFile inventoryFile segments inventory
      split
      · exact Or.inr ⟨rfl, Or.inr (refused _)⟩
      · split
        · rename_i named
          refine (respondToFiles_refused server folder form segmentFile inventoryFile).imp ?_
            (And.imp_right Or.inr)
          rintro ⟨setup, place, read, target⟩
          obtain ⟨here, entered, _⟩ := Folder.target_ok_iff.mp target
          exact ⟨form, segmentFile, inventoryFile, here, place, taken, ⟨segments, inventory⟩,
            (Bool.and_eq_true _ _).mp named, ⟨setup, read⟩, target, entered⟩
        · exact Or.inr ⟨rfl, Or.inr (refused _)⟩
    · exact Or.inr ⟨rfl, Or.inr (refused _)⟩

/-- An upload that is refused, or that the disk takes nothing of, leaves the folder as it was. What
is stored is written where the links at the plain name of the file lead, and is taken away again
under that name, whatever the answer is: the folder is as it was before exactly if there was neither
a file nor a link of that name. What the disk breaks off or does not let go of is left behind, and
is a server error. -/
theorem respond_frame (server : Server) (folder : Folder) (request : Incoming Form)
    (plain : ∀ name, isJsonName name = true → Path.IsPlain (server.plainName name)) :
    let after := (respond server folder request).1
    let answer := (respond server folder request).2
    (after = folder ∧ (request.taken = .error answer ∨ answer.status ∈ [400, 500])) ∨
      ∃ form segmentFile inventoryFile here place,
        let content := segmentFile.content
        let name : Text := server.plainName segmentFile.name
        Stores server folder request form segmentFile inventoryFile here place ∧
          here = folder.location ++ [name] ∧
          folder.follow name folder.linkLimit here = .ok place ∧
          ((∃ n f, server.storing place content = .cut n f ∧ answer = .serverError ∧
              folder.Overwritten after place (content.extract 0 n)) ∨
            (server.storing place content = .whole ∧ ∃ f, server.removing here = some f ∧
              answer = .serverError ∧ folder.Overwritten after place content) ∨
            (server.storing place content = .whole ∧ server.removing here = none ∧
              answer.status ∈ [200, 400, 422, 500] ∧
              folder.Cleared after here place content ∧
              (folder.SameFiles after ↔
                folder.get? here = none ∧ folder.links.get? here = none))) := by
  intro after answer
  rcases stores_or_refused server folder request with
    ⟨form, segmentFile, inventoryFile, here, place, stores⟩ | unchanged
  case inr => exact Or.inl unchanged
  have named := Folder.entry_of_plain (plain _ stores.named.1) stores.entry
  obtain ⟨broken, stuck, removed⟩ := stores.respond_eq
  have written := folder.write_overwrites place segmentFile.content
  cases disk : server.storing place segmentFile.content with
  | refused f =>
    rw [disk] at broken
    have same : (after, answer) = (folder, .serverError) := broken f rfl
    obtain ⟨kept, answered⟩ := Prod.mk.inj same
    exact Or.inl ⟨kept, Or.inr (answered ▸ (by decide : 500 ∈ [400, 500]))⟩
  | cut n f =>
    rw [disk] at broken
    have same : (after, answer) = (_, .serverError) := broken f rfl
    obtain ⟨kept, answered⟩ := Prod.mk.inj same
    refine Or.inr ⟨form, segmentFile, inventoryFile, here, place, stores, named, stores.leads,
      Or.inl ⟨n, f, disk, answered, ?_⟩⟩
    rw [kept]
    exact folder.write_overwrites place _
  | whole =>
    rw [disk] at stuck removed
    refine Or.inr ⟨form, segmentFile, inventoryFile, here, place, stores, named, stores.leads,
      Or.inr ?_⟩
    cases letsGo : server.removing here with
    | some f =>
      have same : (after, answer) = (_, .serverError) := stuck rfl f letsGo
      obtain ⟨kept, answered⟩ := Prod.mk.inj same
      refine Or.inl ⟨disk, f, rfl, answered, ?_⟩
      rw [kept]
      exact written
    | none =>
      obtain ⟨reply, among, same⟩ := removed rfl letsGo
      obtain ⟨kept, answered⟩ := Prod.mk.inj (show (after, answer) = _ from same)
      have cleared : folder.Cleared after here place segmentFile.content := by
        rw [kept]
        exact written.cleared here
      exact Or.inr ⟨disk, rfl, answered ▸ among, cleared,
        cleared.sameFiles_iff fun unlinked => Folder.eq_of_follow unlinked stores.leads⟩

/-! ### A small upload -/

/-- A framework that keeps every file under one name, on a disk. -/
def keeper (storing : Place → ByteArray → Storing) : Server :=
  { Job.framework with plainName := fun _ => "s.json", storing }

def smallUpload : Incoming Form where
  contentLength := 400
  received := .handed Job.smallForm

theorem plain_keeper (storing : Place → ByteArray → Storing) (name : String) :
    Path.IsPlain ((keeper storing).plainName name) := by
  change Path.IsPlain "s.json"
  exact ⟨rfl, by decide, by decide⟩

theorem smallUpload_stored {folder : Folder} {here place : Place}
    (storing : Place → ByteArray → Storing) (target : folder.target "s.json" = .ok place)
    (entry : folder.entry "s.json" = .ok here) :
    Stores (keeper storing) folder smallUpload Job.smallForm ⟨"s.json", Job.smallText.toUTF8⟩
      ⟨"i.json", "\x7b\x7d".toUTF8⟩ here place where
  taken := rfl
  listed := ⟨rfl, rfl⟩
  named := by decide
  setup := ⟨_, rfl⟩
  target := target
  entry := entry

theorem smallUpload_removed {folder : Folder} {here place : Place}
    (target : folder.target "s.json" = .ok place) (entry : folder.entry "s.json" = .ok here) :
    (respond (keeper fun _ _ => .whole) folder smallUpload).1 =
      (folder.write place Job.smallText.toUTF8).remove here := by
  obtain ⟨_, _, removed⟩ := (smallUpload_stored (fun _ _ => .whole) target entry).respond_eq
  obtain ⟨answer, _, answered⟩ := removed rfl rfl
  rw [answered]
  rfl

def oldFolder : Folder := Folder.writeHere {} "s.json" "old".toUTF8

/-- A folder with a link that goes by the name of the uploaded file. -/
def linkedFolder : Folder :=
  { Folder.writeHere {} "other" "old".toUTF8 with
    links := Table.insert {} ["s.json"] ["other"] }

theorem respond_frame_smallUpload :
    let server := keeper fun _ _ => .whole
    let after := (respond server oldFolder smallUpload).1
    (∀ name, isJsonName name = true → Path.IsPlain (server.plainName name)) ∧
      ∃ place content, oldFolder.Cleared after ["s.json"] place content ∧
        ¬oldFolder.SameFiles after := by
  intro server after
  have plain : ∀ name, isJsonName name = true → Path.IsPlain (server.plainName name) :=
    fun name _ => plain_keeper _ name
  have present : oldFolder.get? ["s.json"] = some "old".toUTF8 := rfl
  refine ⟨plain, ?_⟩
  rcases respond_frame server oldFolder smallUpload plain with
    ⟨unchanged, _⟩ | ⟨_, file, _, here, place, _, named, _, outcome⟩
  · have removed := @smallUpload_removed oldFolder ["s.json"] ["s.json"] rfl rfl
    rw [unchanged] at removed
    rw [removed, Folder.get?_remove, if_pos rfl] at present
    cases present
  · obtain rfl : here = [Text.ofString "s.json"] := named
    obtain ⟨_, _, broken, _⟩ | ⟨_, _, stuck, _⟩ | ⟨_, _, _, cleared, same⟩ := outcome
    · cases broken
    · cases stuck
    · refine ⟨place, _, cleared, fun kept => ?_⟩
      have absent := (same.mp kept).1
      rw [present] at absent
      cases absent

/-- What goes by the name of the uploaded file is not there afterwards: neither a file nor a link,
whose file holds what was uploaded. What the disk breaks off is left over. -/
theorem respond_removes :
    let whole := keeper fun _ _ => .whole
    let cut := keeper fun _ _ => .cut 1 (.system "No space left on device")
    oldFolder.get? ["s.json"] = some "old".toUTF8 ∧
      (respond whole oldFolder smallUpload).1.get? ["s.json"] = none ∧
      linkedFolder.get? ["other"] = some "old".toUTF8 ∧
      (respond whole linkedFolder smallUpload).1.get? ["other"] = some Job.smallText.toUTF8 ∧
      (respond whole linkedFolder smallUpload).1.links.get? ["s.json"] = none ∧
      Folder.get? {} ["s.json"] = none ∧
      (respond cut {} smallUpload).1.get? ["s.json"] =
        some (Job.smallText.toUTF8.extract 0 1) := by
  intro whole cut
  have old := @smallUpload_removed oldFolder ["s.json"] ["s.json"] rfl rfl
  have linked := @smallUpload_removed linkedFolder ["s.json"] ["other"] rfl rfl
  have stored : Stores cut {} smallUpload _ _ _ ["s.json"] ["s.json"] :=
    smallUpload_stored _ rfl rfl
  have broken := stored.respond_eq.1 _ rfl
  refine ⟨rfl, ?_, rfl, ?_, ?_, rfl, ?_⟩
  · rw [old, Folder.get?_remove, if_pos rfl]
  · rw [linked, Folder.get?_remove, if_neg (by decide), Folder.get?_write _ (Or.inl rfl)]
  · rw [linked]
    rfl
  · rw [broken]
    exact Folder.get?_write _ (Or.inl rfl)

end Upload

end TraceScope
