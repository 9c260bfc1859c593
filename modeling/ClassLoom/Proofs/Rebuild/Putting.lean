import ClassLoom.Proofs.Files.Linkless
import ClassLoom.Proofs.Rebuild.Surveying

namespace ClassLoom
namespace Rebuild

/-!
# What can be staged

An entry is staged at names below the staging directory.  Nothing prevents that where directories, or
nothing, are on the way, and where nothing of another kind is at its end.  Then the directories that are
missing are made, the directory or file is there, and nothing else is different.

Nothing of another kind is there where everything is of the kind that it is in a directory in which the
entries have been staged before.
-/

open Files (FileTree FileWork Path IsName)
open Files.FileTree (Askable)

variable {rebuilder : Rebuilder} {tree model before after : FileTree} {region top : Files.Location}
  {names : List String} {isDirectory : Bool} {content : Bytes} {member : Zip.Member}

/-! ## Places -/

/-- Names below a directory at which a directory or a file can be put. -/
structure Takes (tree : FileTree) (region : Files.Location) (names : List String) (isDirectory : Bool) :
    Prop where
  sound : tree.Sound
  clear : Clear tree region
  below : region ≠ []
  nonempty : names ≠ []
  named : ∀ name ∈ names, IsName name
  askable : Askable (under (FileTree.pathOf region) names)
  free : ∀ front, front <+: names → front ≠ names →
    tree.at? (region ++ front) = none ∨ tree.at? (region ++ front) = some .directory
  fits : ∀ {entry : Files.Entry}, tree.at? (region ++ names) = some entry →
    FileTree.Entry.isDirectory entry = isDirectory

/-- A directory or a file has been put at some names, with directories on the way. -/
structure Puts (before after : FileTree) (region : Files.Location) (names : List String)
    (isDirectory : Bool) : Prop where
  here : Holds after (region ++ names) isDirectory
  kept : ∀ {place : Files.Location} {folder : Bool}, Holds before place folder → Holds after place folder
  places : ∀ place, place ≠ region ++ names → after.at? place = before.at? place ∨
    after.at? place = some .directory ∧ ∃ front, front <+: names ∧ front ≠ names ∧ place = region ++ front

/-- A file has been put at some names just now, with a content. -/
structure Fills (before after : FileTree) (region : Files.Location) (names : List String)
    (content : Bytes) : Prop where
  puts : Puts before after region names false
  filled : ∃ file, after.at? (region ++ names) = some (.file file) ∧ file.content = content ∧
    file.modified = before.clock
  clock : after.clock = before.clock

/-- What is in a directory is of the kind that it is in another. -/
def Agrees (tree : FileTree) (region : Files.Location) (model : FileTree) (top : Files.Location) : Prop :=
  ∀ {names : List String} {entry : Files.Entry}, tree.at? (region ++ names) = some entry →
    Holds model (top ++ names) (FileTree.Entry.isDirectory entry)

theorem eq_directory {entry : Files.Entry} (kind : FileTree.Entry.isDirectory entry = true) :
    entry = .directory := by
  cases entry with
  | directory => rfl
  | file file => cases kind
  | link target => cases kind

namespace Agrees

/-- On the way to what is there elsewhere, there are directories elsewhere. -/
theorem free (agrees : Agrees tree region model top) (sound : model.Sound)
    (held : Holds model (top ++ names) isDirectory) {front : List String} (start : front <+: names)
    (proper : front ≠ names) :
    tree.at? (region ++ front) = none ∨ tree.at? (region ++ front) = some .directory := by
  obtain ⟨entry, found, _⟩ := held
  have above := sound.alive_of_prefix found start proper
  cases here : tree.at? (region ++ front) with
  | none => exact .inl rfl
  | some other =>
      obtain ⟨twin, there, same⟩ := agrees here
      obtain rfl := Option.some.inj (above.symm.trans there)
      rw [eq_directory same.symm]
      exact .inr rfl

theorem takes (agrees : Agrees tree region model top) (sound : tree.Sound) (clear : Clear tree region)
    (below : region ≠ []) (modelSound : model.Sound) (nonempty : names ≠ [])
    (askable : Askable (under (FileTree.pathOf region) names))
    (held : Holds model (top ++ names) isDirectory) : Takes tree region names isDirectory where
  sound := sound
  clear := clear
  below := below
  nonempty := nonempty
  named name among := by
    obtain ⟨entry, found, _⟩ := held
    exact modelSound.named found name (List.mem_append_right top among)
  askable := askable
  free front start proper := agrees.free modelSound held start proper
  fits found := by
    obtain ⟨entry, there, same⟩ := held
    obtain ⟨twin, here, kind⟩ := agrees found
    obtain rfl := Option.some.inj (there.symm.trans here)
    exact kind.symm.trans same

/-- What is put where it is elsewhere is of that kind. -/
theorem puts (agrees : Agrees before region model top) (sound : model.Sound)
    (held : Holds model (top ++ names) isDirectory) (puts : Puts before after region names isDirectory) :
    Agrees after region model top := by
  intro spot entry found
  by_cases here : spot = names
  · obtain ⟨other, there, same⟩ := puts.here
    rw [here] at found ⊢
    obtain rfl := Option.some.inj (found.symm.trans there)
    exact same ▸ held
  · have apart : region ++ spot ≠ region ++ names := fun same => here (List.append_cancel_left same)
    rcases puts.places (region ++ spot) apart with same | ⟨made, front, start, proper, there⟩
    · exact agrees (same ▸ found)
    · obtain rfl := List.append_cancel_left there
      obtain rfl := Option.some.inj (found.symm.trans made)
      obtain ⟨other, there, _⟩ := held
      exact ⟨.directory, sound.alive_of_prefix there start proper, rfl⟩

end Agrees

/-- Time does not matter for what is where. -/
theorem Takes.clock {moment : Files.Moment} (takes : Takes tree region names isDirectory) :
    Takes { tree with clock := moment } region names isDirectory where
  sound := takes.sound.clock moment
  clear := ⟨takes.clear.alive, takes.clear.plain⟩
  below := takes.below
  nonempty := takes.nonempty
  named := takes.named
  askable := takes.askable
  free := takes.free
  fits := takes.fits

/-! ## Making directories -/

/-- What begins a way through a directory ends above it, or goes on below it. -/
theorem prefix_cases {front : List String} (start : front <+: region ++ names) :
    front <+: region ∨ ∃ further, front = region ++ further ∧ further <+: names := by
  rcases List.prefix_or_prefix_of_prefix start (List.prefix_append region names) with above | ⟨further, rfl⟩
  · exact .inl above
  · exact .inr ⟨further, rfl, (List.prefix_append_right_inj region).1 start⟩

/-- Directories are made below a directory where directories or nothing is. -/
theorem createDirectory_below (sound : tree.Sound) (alive : tree.at? region = some .directory)
    (below : region ≠ []) (named : ∀ name ∈ names, IsName name)
    (askable : Askable (under (FileTree.pathOf region) names))
    (free : ∀ front, front <+: names →
      tree.at? (region ++ front) = none ∨ tree.at? (region ++ front) = some .directory) :
    ∃ after, FileWork.createDirectory (under (FileTree.pathOf region) names).toString tree =
        (.ok (), after) ∧ FileTree.Paved tree after region names := by
  have top : tree.at? [] = some .directory := rfl
  have proper : (FileTree.pathOf []).Proper := ⟨.inr (.inl rfl), nofun⟩
  have filled : region ++ names ≠ [] := fun empty => below (List.append_eq_nil_iff.1 empty).1
  have allNamed : ∀ name ∈ region ++ names, IsName name := by
    intro name member
    rcases List.mem_append.1 member with above | later
    · exact sound.named alive name above
    · exact named name later
  have directories : ∀ {front}, front <+: region → tree.at? front = some .directory := by
    intro front above
    by_cases same : front = region
    · exact same ▸ alive
    · exact sound.at?_above alive (FileTree.isBelow_iff.2 above) fun equal => same equal.symm
  obtain ⟨after, makes, paved⟩ := FileWork.createDirectory_run (sound.reaches_pathOf top nofun) sound top
    proper filled allNamed askable fun front start => by
      rcases prefix_cases start with above | ⟨further, rfl, more⟩
      · exact .inr (directories above)
      · exact free further more
  refine ⟨after, makes, paved.alive, fun place => ?_, paved.grown, paved.clock⟩
  rcases paved.places place with same | ⟨absent, made, front, start, there⟩
  · exact .inl same
  · obtain rfl : place = front := there
    rcases prefix_cases start with above | ⟨further, rfl, more⟩
    · rw [directories above] at absent
      cases absent
    · exact .inr ⟨absent, made, further, more, rfl⟩

theorem Puts.of_paved (paved : FileTree.Paved before after region names) :
    Puts before after region names true where
  here := ⟨.directory, paved.alive, rfl⟩
  kept held := by
    obtain ⟨entry, found, kind⟩ := held
    exact ⟨entry, paved.grown.at?_of_some found, kind⟩
  places place apart := by
    rcases paved.places place with same | ⟨_, made, front, start, there⟩
    · exact .inl same
    · refine .inr ⟨made, front, start, ?_, there⟩
      rintro rfl
      exact apart there

namespace Takes

theorem alive (takes : Takes tree region names isDirectory) : tree.at? region = some .directory :=
  takes.clear.alive

theorem reaches (takes : Takes tree region names isDirectory) :
    tree.Reaches (FileTree.pathOf region) region :=
  takes.sound.reaches_pathOf takes.alive fun name among =>
    takes.askable.short name (List.mem_append_left names among)

theorem proper (takes : Takes tree region names isDirectory) : (FileTree.pathOf region).Proper :=
  ⟨.inr (.inl rfl), fun part among => (takes.sound.named takes.alive part among).1⟩

/-- A directory is made. -/
theorem createDirectory_run (takes : Takes tree region names true) :
    ∃ after, FileWork.createDirectory (under (FileTree.pathOf region) names).toString tree =
        (.ok (), after) ∧ Puts tree after region names true := by
  obtain ⟨after, makes, paved⟩ := createDirectory_below takes.sound takes.alive takes.below takes.named
    takes.askable fun front start => by
      by_cases whole : front = names
      · rw [whole]
        cases found : tree.at? (region ++ names) with
        | none => exact .inl rfl
        | some entry => rw [eq_directory (takes.fits found)]; exact .inr rfl
      · exact takes.free front start whole
  exact ⟨after, makes, .of_paved paved⟩

/-! ## Writing files -/

theorem ne_of_prefix_dropLast (takes : Takes tree region names isDirectory) {front : List String}
    (start : front <+: names.dropLast) : front ≠ names := by
  rintro rfl
  have length := start.length_le
  have positive := List.length_pos_iff.2 takes.nonempty
  rw [List.length_dropLast] at length
  omega

/-- The directories on the way are made. -/
theorem createParents_run (takes : Takes tree region names isDirectory) :
    ∃ after, FileWork.createDirectory (under (FileTree.pathOf region) names).parent.toString tree =
        (.ok (), after) ∧ FileTree.Paved tree after region names.dropLast := by
  have parent : (under (FileTree.pathOf region) names).parent =
      under (FileTree.pathOf region) names.dropLast := by
    rw [Path.parent, under, under, List.dropLast_append_of_ne_nil takes.nonempty]
  rw [parent]
  exact createDirectory_below takes.sound takes.alive takes.below
    (fun name among => takes.named name (List.dropLast_subset names among))
    (takes.askable.of_prefix (List.dropLast_prefix names)) fun front start =>
      takes.free front (start.trans (List.dropLast_prefix names)) (takes.ne_of_prefix_dropLast start)

/-- Once the directories on the way are made, the file can be written. -/
theorem write_run {middle : FileTree} (takes : Takes tree region names false)
    (paved : FileTree.Paved tree middle region names.dropLast) (content : Bytes) :
    ∃ after, middle.write (under (FileTree.pathOf region) names).toString content = .ok after ∧
      FileTree.Written middle after (region ++ names) content := by
  have same : middle.at? (region ++ names) = tree.at? (region ++ names) := by
    rcases paved.places (region ++ names) with same | ⟨_, _, front, start, there⟩
    · exact same
    · exact absurd (List.append_cancel_left there).symm (takes.ne_of_prefix_dropLast start)
  have bare : middle.at? (region ++ names) = none ∨
      ∃ file, middle.at? (region ++ names) = some (.file file) := by
    rw [same]
    cases found : tree.at? (region ++ names) with
    | none => exact .inl rfl
    | some entry =>
        cases entry with
        | file file => exact .inr ⟨file, rfl⟩
        | directory => cases takes.fits found
        | link target => exact absurd found (takes.clear.plain (FileTree.isBelow_append region names))
  exact (takes.reaches.mono paved.grown.carries paved.grown.start).exists_write_under
    (paved.grown.sound takes.sound) takes.proper takes.nonempty takes.named takes.askable paved.alive bare
    content

theorem written {middle after : FileTree} (takes : Takes tree region names false)
    (paved : FileTree.Paved tree middle region names.dropLast)
    (written : FileTree.Written middle after (region ++ names) content) :
    Fills tree after region names content := by
  obtain ⟨id, places⟩ := written.places
  have held := (places (region ++ names)).trans (if_pos rfl)
  have here : Holds after (region ++ names) false := ⟨_, held, rfl⟩
  refine ⟨⟨here, fun {place folder} held => ?_, fun place apart => ?_⟩, ⟨_, held, rfl, paved.clock⟩,
    written.clock.trans paved.clock⟩
  · obtain ⟨entry, found, kind⟩ := held
    by_cases same : place = region ++ names
    · rw [same] at found ⊢
      rw [← kind, takes.fits found]
      exact here
    · exact ⟨entry, by rw [places, if_neg same, paved.grown.at?_of_some found], kind⟩
  · rw [places, if_neg apart]
    rcases paved.places place with same | ⟨_, made, front, start, there⟩
    · exact .inl same
    · exact .inr ⟨made, front, start.trans (List.dropLast_prefix names),
        takes.ne_of_prefix_dropLast start, there⟩

/-- A file is written. -/
theorem writeFileInParents_run (takes : Takes tree region names false) (content : Bytes) :
    ∃ after, FileWork.writeFileInParents (under (FileTree.pathOf region) names).toString content tree =
        (.ok (), after) ∧ Fills tree after region names content := by
  have proper : (under (FileTree.pathOf region) names).Proper :=
    proper_under (takes.sound.named takes.alive) takes.named
  obtain ⟨middle, makes, paved⟩ := takes.createParents_run
  obtain ⟨after, done, written⟩ := takes.write_run paved content
  refine ⟨after, ?_, takes.written paved written⟩
  rw [FileWork.writeFileInParents, Path.ofString_toString proper, run_bind, makes]
  exact FileWork.change_of_ok done

/-- Other files stay. -/
theorem kept_of_fills {spot : List String} {file : Files.File} (takes : Takes before region names false)
    (fills : Fills before after region names content) (apart : spot ≠ names)
    (held : before.at? (region ++ spot) = some (.file file)) :
    after.at? (region ++ spot) = some (.file file) := by
  have away : region ++ spot ≠ region ++ names := fun same => apart (List.append_cancel_left same)
  rcases fills.puts.places _ away with same | ⟨_, front, start, proper, there⟩
  · exact same.trans held
  · -- On the way there is no file.
    rw [there] at held
    rcases takes.free front start proper with none | directory
    · rw [none] at held
      cases held
    · rw [directory] at held
      cases held

end Takes

/-! ## Copying -/

/-- An entry that can be read can be copied part by part. -/
theorem readParts_of_read {width : Nat} {bytes : Bytes} (read : member.read bytes = .ok content) :
    ∃ parts, member.readParts width bytes = .ok (parts, none) := by
  unfold Zip.Member.read at read
  unfold Zip.Member.readParts
  cases located : member.locate bytes with
  | error error =>
      rw [located] at read
      cases read
  | ok packed =>
      rw [located] at read
      rcases unpacked : member.unpack packed with ⟨data, stop⟩
      simp only [bind, Except.bind, unpacked] at read ⊢
      cases stop with
      | some error => cases read
      | none => exact ⟨_, rfl⟩

section Staging

variable {before : Workspace}

/-- Once the directories on the way are made, an entry can be copied. -/
theorem copyEntry_run (takes : Takes tree region names false)
    (paved : FileTree.Paved tree before.files region names.dropLast) {file : Nat}
    (read : member.read ((before.files.contentOf file).getD []) = .ok content) :
    ∃ files, Rebuilder.copyEntry file member (under (FileTree.pathOf region) names).toString before =
        (.ok none, { before with files }) ∧ Fills tree files region names content := by
  obtain ⟨parts, parted⟩ : ∃ parts, member.readParts Rebuilder.copyWidth _ = .ok (parts, none) :=
    readParts_of_read read
  have whole : (Files.copyStream parts []).2 = content := by
    have again := read_of_readParts (by decide) parted
    exact Except.ok.inj (again.symm.trans read)
  obtain ⟨emptied, clears, empty⟩ := takes.write_run paved []
  have sound := paved.grown.sound takes.sound
  have reaches := (takes.reaches.mono paved.grown.carries paved.grown.start).mono empty.carries empty.start
  obtain ⟨_, here⟩ := empty.at?_self
  obtain ⟨files, fills, full⟩ := reaches.exists_write_under (empty.sound sound) takes.proper
    takes.nonempty takes.named takes.askable (empty.carries paved.alive rfl) (.inr ⟨_, here⟩)
    (Files.copyStream parts []).2
  refine ⟨files, ?_, whole ▸ takes.written paved (empty.again full)⟩
  rw [Rebuilder.copyEntry, Work.files_bind, parted]
  simp only
  rw [Work.files_bind, clears]
  simp only [fills]
  rfl

/-! ## Entries -/

/-- Where something can be put, the path of an entry is found. -/
theorem pathFor_run (rooted : Rooted rebuilder region) (linkless : before.files.Linkless) {name : String}
    (takes : Takes before.files region (nameParts name) isDirectory) :
    rebuilder.pathFor name before = (.ok (under (FileTree.pathOf region) (nameParts name)), before) := by
  have resolves := linkless.resolve_eq (settles_under takes.sound takes.clear takes.named)
  have filled : (nameParts name).isEmpty = false := by simpa using takes.nonempty
  have inside : FileTree.isBelow (region ++ nameParts name) (FileTree.pathOf region).parts = true :=
    FileTree.isBelow_append region (nameParts name)
  rw [Rebuilder.pathFor, rooted.root]
  simp only [filled, descend_eq_under, takes.askable.clean, Bool.false_eq_true, if_false]
  rw [Work.files_bind, resolves]
  simp only [inside, if_true]
  rfl

/-- A rebuilder that has staged one more entry, which keeps its date. -/
structure Adds (rebuilder recorded : Rebuilder) (member : Zip.Member) (isDirectory : Bool) : Prop where
  root : recorded.root = rebuilder.root
  paths : recorded.paths = rebuilder.paths
  staged : recorded.staged = rebuilder.staged ++ [(keyOf member.name isDirectory,
    ⟨member.name, isDirectory, some member.stamp, member.attributes, false⟩)]

/-- An entry that is new is remembered. -/
theorem record_of_fresh (fresh : rebuilder.staged.lookup (keyOf member.name isDirectory) = none)
    (transformed : Bool) :
    rebuilder.record member isDirectory transformed = .ok { rebuilder with
      staged := rebuilder.staged ++ [(keyOf member.name isDirectory, ⟨member.name, isDirectory,
        if transformed then none else some member.stamp, member.attributes, transformed⟩)] } := by
  rw [Rebuilder.record]
  simp only [fresh]

theorem record_run (fresh : rebuilder.staged.lookup (keyOf member.name isDirectory) = none) :
    ∃ recorded, rebuilder.record member isDirectory false = .ok recorded ∧
      Adds rebuilder recorded member isDirectory :=
  ⟨_, record_of_fresh fresh false, rfl, rfl, rfl⟩

theorem stageDirectory_run (rooted : Rooted rebuilder region) (linkless : before.files.Linkless)
    (takes : Takes before.files region (nameParts member.name) true)
    (fresh : rebuilder.staged.lookup (keyOf member.name true) = none) :
    ∃ path recorded files, rebuilder.stageDirectory member before =
        (.ok (path, recorded), { before with files }) ∧ Adds rebuilder recorded member true ∧
      Puts before.files files region (nameParts member.name) true := by
  obtain ⟨files, makes, puts⟩ := takes.createDirectory_run
  obtain ⟨recorded, records, adds⟩ := record_run fresh
  refine ⟨under (FileTree.pathOf region) (nameParts member.name), recorded, files, ?_, adds, puts⟩
  rw [Rebuilder.stageDirectory, bind_of_ok (pathFor_run rooted linkless takes),
    bind_of_ok (Work.onFiles_of_run makes), records]
  rfl

/-- An entry that is kept is copied, and remembered if none before has its key. -/
theorem stageCopy_eq (rooted : Rooted rebuilder region) (linkless : before.files.Linkless)
    (takes : Takes before.files region (nameParts member.name) false) {place : Files.Location}
    {old : Files.File} (held : before.files.at? place = some (.file old))
    (read : member.read old.content = .ok content) :
    ∃ files, rebuilder.stageCopy old.id member before =
        ((rebuilder.record member false false).map fun recorded =>
          (under (FileTree.pathOf region) (nameParts member.name), recorded), { before with files }) ∧
      Fills before.files files region (nameParts member.name) content := by
  obtain ⟨middle, makes, paved⟩ := takes.createParents_run
  let made : Workspace := { before with files := middle }
  have readHere : member.read ((made.files.contentOf old.id).getD []) = .ok content := by
    have sound := paved.grown.sound takes.sound
    rw [sound.contentOf_eq (paved.grown.at?_of_some held), Option.getD_some]
    exact read
  obtain ⟨files, copies, fills⟩ := copyEntry_run takes paved readHere
  refine ⟨files, ?_, fills⟩
  have creates : Work.onFiles (FileWork.createDirectory
      (under (FileTree.pathOf region) (nameParts member.name)).parent.toString) before = (.ok (), made) :=
    Work.onFiles_of_run makes
  rw [Rebuilder.stageCopy, bind_of_ok (pathFor_run rooted linkless takes), bind_of_ok creates,
    bind_of_ok copies]
  simp only
  cases rebuilder.record member false false <;> rfl

/-- An entry that is kept is staged. -/
theorem stageCopy_run (rooted : Rooted rebuilder region) (linkless : before.files.Linkless)
    (takes : Takes before.files region (nameParts member.name) false)
    (fresh : rebuilder.staged.lookup (keyOf member.name false) = none) {place : Files.Location}
    {old : Files.File} (held : before.files.at? place = some (.file old))
    (read : member.read old.content = .ok content) :
    ∃ path recorded files, rebuilder.stageCopy old.id member before =
        (.ok (path, recorded), { before with files }) ∧ Adds rebuilder recorded member false ∧
      Fills before.files files region (nameParts member.name) content := by
  obtain ⟨files, stages, fills⟩ := stageCopy_eq rooted linkless takes held read
  obtain ⟨recorded, records, adds⟩ := record_run fresh
  rw [records] at stages
  exact ⟨_, recorded, files, stages, adds, fills⟩

end Staging

end Rebuild
end ClassLoom
