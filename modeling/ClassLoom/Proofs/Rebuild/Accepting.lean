import ClassLoom.Proofs.Rebuild.AllOrNothing
import ClassLoom.Proofs.Rebuild.Calls

namespace ClassLoom
namespace Rebuild

/-!
# What has been accepted is written

A call that stages an entry remembers it by the text of its name.  The walk through the staging directory
looks for it by the text of the way on which it comes to it, where no segment goes up.  So an entry whose
name goes up is put where its path leads, and is not found there.

Every other name leads to the place that it spells.  A call that is accepted has put its entry there and made
the directories on the way, and nothing else, so the entries before it are still found.  Hence after calls
that have all been accepted the archive is written if no name goes up, and only then.
-/

open Files (FileTree FileWork Path IsName)
open Files.FileTree (Askable)

variable {rebuilder recorded final : Rebuilder} {region directory : Files.Location} {path : Path}
  {name : String} {names : List String} {isDirectory : Bool} {tree model : FileTree}
  {before middle after : Workspace} {member : Zip.Member} {call : Call} {calls : List Call}

/-! ## One call -/

/-- Names that have been looked for can be asked for. -/
theorem askable_of_find (named : ∀ name ∈ region, IsName name) (nonempty : names ≠ [])
    (below : ∀ name ∈ names, IsName name)
    (clean : FileTree.hasNul (under (FileTree.pathOf region) names).toString = false) {spot : FileTree.Spot}
    (found : tree.find true (under (FileTree.pathOf region) names).toString = .ok spot) :
    Askable (under (FileTree.pathOf region) names) := by
  have proper := proper_under named fun name among => below name (List.dropLast_subset names among)
  rw [← child_dropLast_under nonempty] at clean found ⊢
  obtain ⟨_, reaches, fits⟩ := FileTree.exists_reaches proper (below _ (List.getLast_mem nonempty)) found
  exact reaches.askable fits clean

theorem Agrees.trans {last : FileTree} {place top : Files.Location} (first : Agrees tree region model place)
    (second : Agrees model place last top) : Agrees tree region last top := by
  intro names entry found
  obtain ⟨other, there, kind⟩ := first found
  exact kind ▸ second there

theorem agrees_of_grown (grown : FileTree.Grown tree model) : Agrees tree region model region :=
  fun found => ⟨_, grown.at?_of_some found, rfl⟩

/-- A file is laid where there was a file or nothing. -/
theorem agrees_of_lays {content : Bytes} (clear : Clear tree region)
    (lays : Lays tree model (region ++ names) content) : Agrees tree region model region := by
  intro spot entry found
  by_cases here : region ++ spot = region ++ names
  · obtain ⟨file, there, _⟩ := lays.here
    rw [here] at found ⊢
    refine ⟨.file file, there, ?_⟩
    cases entry with
    | file old => rfl
    | directory => exact absurd found lays.bare
    | link target => exact absurd found (clear.plain (FileTree.isBelow_append region names))
  · exact ⟨entry, lays.kept here found, rfl⟩

section Putting

variable (rooted : Rooted rebuilder region) (below : region ≠ []) (healthy : before.Healthy)
  (clear : Clear before.files region)

include rooted below healthy clear

theorem puts_of_stageDirectory (named : ∀ part ∈ nameParts member.name, IsName part) {target : Path}
    (run : rebuilder.stageDirectory member before = (.ok (target, recorded), after)) :
    Takes before.files region (nameParts member.name) true ∧
      Puts before.files after.files region (nameParts member.name) true := by
  obtain ⟨placed, makes, _⟩ := stageDirectory_ok run
  obtain ⟨_, filled, rfl, clean, _⟩ := pathFor_ok rooted placed
  rw [descend_eq_under] at makes clean
  obtain ⟨grown, alive⟩ := directory_of_createDirectory healthy clear filled named makes
  have sound := grown.sound healthy.files
  have askable : Askable (under (FileTree.pathOf region) (nameParts member.name)) := by
    obtain ⟨files, made, rfl⟩ := Work.onFiles_cases makes
    obtain ⟨_, seen⟩ := stat_of_createDirectory_under rooted.named filled named made
    exact askable_of_find rooted.named filled named clean (FileTree.stat_eq_ok_iff.1 seen).2
  have takes := Agrees.takes (agrees_of_grown grown) healthy.files clear below sound filled askable
    ⟨.directory, alive, rfl⟩
  obtain ⟨files, again, puts⟩ := takes.createDirectory_run
  obtain rfl := (Prod.mk.inj (makes.symm.trans (Work.onFiles_of_run again))).2
  exact ⟨takes, puts⟩

theorem puts_of_stageCopy (named : ∀ part ∈ nameParts member.name, IsName part) {file : Nat} {target : Path}
    (run : rebuilder.stageCopy file member before = (.ok (target, recorded), after)) :
    Takes before.files region (nameParts member.name) false ∧
      Puts before.files after.files region (nameParts member.name) false := by
  obtain ⟨healthyAfter, _⟩ := (keeps_stageCopy rooted file member).run run healthy
  obtain ⟨placed, ⟨made, makes, copies⟩, _⟩ := stageCopy_ok run
  obtain ⟨_, filled, rfl, clean, _⟩ := pathFor_ok rooted placed
  rw [descend_eq_under] at makes copies clean
  have grown := grown_of_creating makes
  have healthyMade := healthy_of_creating healthy makes
  have clearMade : Clear made.files region := clear.within (@Within.of_grown region _ _ grown)
  obtain ⟨content, read, lays⟩ := copyEntry_ok healthyMade clearMade filled named copies
  have askable : Askable (under (FileTree.pathOf region) (nameParts member.name)) := by
    obtain ⟨emptied, clears⟩ := Rebuilder.exists_write_of_copyEntry copies
    obtain ⟨_, found⟩ := find_of_write_under healthyMade.files rooted.named filled named clears
    exact askable_of_find rooted.named filled named clean found
  have here : Holds after.files (region ++ nameParts member.name) false := by
    obtain ⟨file, there, _⟩ := lays.here
    exact ⟨.file file, there, rfl⟩
  have takes := Agrees.takes (Agrees.trans (agrees_of_grown grown) (agrees_of_lays clearMade lays))
    healthy.files clear below healthyAfter.files filled askable here
  -- What has been done is what is done where the entry can be put.
  obtain ⟨parents, again, paved⟩ := takes.createParents_run
  obtain rfl := (Prod.mk.inj (makes.symm.trans (Work.onFiles_of_run again))).2
  obtain ⟨files, copied, fills⟩ := copyEntry_run takes paved read
  obtain rfl := (Prod.mk.inj (copies.symm.trans copied)).2
  exact ⟨takes, fills.puts⟩

/-- A call that is accepted, for a name that does not go up, has put its entry at the names. -/
theorem puts_of_perform (named : ∀ part ∈ call.names, IsName part)
    (run : call.perform rebuilder before = (.ok recorded, after)) :
    Takes before.files region call.names call.isDirectory ∧
      Puts before.files after.files region call.names call.isDirectory := by
  cases call with
  | directory member =>
      obtain ⟨_, _, staging, answer⟩ := bind_ok run
      obtain ⟨_, rfl⟩ := pure_ok answer
      exact puts_of_stageDirectory rooted below healthy clear named staging
  | copy file member =>
      obtain ⟨_, _, staging, answer⟩ := bind_ok run
      obtain ⟨_, rfl⟩ := pure_ok answer
      exact puts_of_stageCopy rooted below healthy clear named staging

end Putting

/-! ## The staging directory -/

namespace Stocked

/-- In a new directory nothing has been staged. -/
theorem of_empty (sound : tree.Sound) (alive : tree.at? region = some .directory)
    (askable : Askable (FileTree.pathOf region)) (empty : ∀ names ≠ [], tree.at? (region ++ names) = none)
    (fresh : rebuilder.staged = []) : Stocked rebuilder tree region where
  sound := sound
  clear := by
    refine ⟨alive, fun {place target} inside held => ?_⟩
    obtain ⟨names, rfl⟩ := FileTree.exists_append_of_isBelow inside
    by_cases here : names = []
    · rw [here, List.append_nil, alive] at held
      cases held
    · rw [empty names here] at held
      cases held
  askable := askable
  passable filled held := by
    rw [empty _ filled] at held
    cases held
  dated := by simp [fresh]
  held := by simp [fresh]

/-- What is put in the directory can be gone through, and hides nothing that has been staged. -/
theorem puts {after : FileTree} (stocked : Stocked rebuilder tree region)
    (takes : Takes tree region names isDirectory) (put : Puts tree after region names isDirectory)
    (sound : after.Sound) (clear : Clear after region) : Stocked rebuilder after region where
  sound := sound
  clear := clear
  askable := stocked.askable
  passable {spot entry} filled found := by
    by_cases here : region ++ spot = region ++ names
    · exact .inl (List.append_cancel_left here ▸ takes.askable)
    · rcases put.places _ here with same | ⟨_, front, start, _, there⟩
      · exact stocked.passable filled (same ▸ found)
      · exact .inl (List.append_cancel_left there ▸ takes.askable.of_prefix start)
  dated := stocked.dated
  held key among := by
    obtain ⟨spot, folder, spelled, filled, askable, held⟩ := stocked.held key among
    exact ⟨spot, folder, spelled, filled, askable, put.kept held⟩

theorem adds (stocked : Stocked rebuilder tree region)
    (adds : Adds rebuilder recorded member isDirectory) (nonempty : nameParts member.name ≠ [])
    (askable : Askable (under (FileTree.pathOf region) (nameParts member.name)))
    (here : Holds tree (region ++ nameParts member.name) isDirectory) : Stocked recorded tree region where
  sound := stocked.sound
  clear := stocked.clear
  askable := stocked.askable
  passable := stocked.passable
  dated item among := by
    rw [adds.staged] at among
    rcases List.mem_append.1 among with earlier | now
    · exact stocked.dated item earlier
    · rw [List.mem_singleton.1 now]
      exact ⟨_, rfl⟩
  held key among := by
    rw [adds.staged, List.map_append] at among
    rcases List.mem_append.1 among with earlier | now
    · exact stocked.held key earlier
    · rw [List.mem_singleton.1 now]
      exact ⟨_, isDirectory, keyOf_eq_keyAt _ _, nonempty, askable, here⟩

theorem perform (stocked : Stocked rebuilder before.files region) (rooted : Rooted rebuilder region)
    (below : region ≠ []) (healthy : before.Healthy) (named : ∀ part ∈ call.names, IsName part)
    (run : call.perform rebuilder before = (.ok recorded, after)) : Stocked recorded after.files region := by
  obtain ⟨healthyAfter, within⟩ := (keeps_perform rooted call).run run healthy
  obtain ⟨takes, put⟩ := puts_of_perform rooted below healthy stocked.clear named run
  exact (stocked.puts takes put healthyAfter.files (stocked.clear.within within)).adds
    (adds_of_perform run).2 takes.nonempty takes.askable put.here

end Stocked

/-! ## Calls one after the other -/

/-- What calls leave that have all been accepted: each of them is remembered, and none twice. -/
structure Accepted (region : Files.Location) (calls : List Call) (rebuilder final : Rebuilder)
    (before after : Workspace) : Prop where
  rooted : Rooted final region
  healthy : after.Healthy
  within : Within region before.files after.files
  paths : final.paths = rebuilder.paths
  keys : final.staged.map Prod.fst = rebuilder.staged.map Prod.fst ++ calls.map Call.key
  once : (final.staged.map Prod.fst).Nodup

theorem Accepted.perform (accepted : Accepted region calls rebuilder recorded before middle)
    (run : call.perform recorded middle = (.ok final, after)) :
    Accepted region (calls ++ [call]) rebuilder final before after := by
  obtain ⟨healthy, within⟩ := (keeps_perform accepted.rooted call).run run accepted.healthy
  obtain ⟨fresh, adds⟩ := adds_of_perform run
  have keys : final.staged.map Prod.fst = recorded.staged.map Prod.fst ++ [call.key] := by
    rw [adds.staged, List.map_append]
    rfl
  refine ⟨adds.rooted accepted.rooted, healthy, trans_of (Within region) accepted.within within,
    adds.paths.trans accepted.paths, ?_, ?_⟩
  · rw [keys, accepted.keys, List.map_append, List.append_assoc]
    rfl
  · rw [keys, List.nodup_append]
    refine ⟨accepted.once, List.nodup_singleton _, fun key among other now same => ?_⟩
    obtain ⟨_, known⟩ := mem_of_lookup_ne_none among
    rw [same, List.mem_singleton.1 now, fresh] at known
    cases known

theorem accepted_of_calls (rooted : Rooted rebuilder region) (healthy : before.Healthy)
    (once : (rebuilder.staged.map Prod.fst).Nodup)
    (run : calls.foldlM Call.perform rebuilder before = (.ok final, after)) :
    Accepted region calls rebuilder final before after :=
  foldlM_ok (fun past value state => Accepted region past rebuilder value before state)
    (fun _ accepted step => accepted.perform step)
    ⟨rooted, healthy, refl_of (Within region) _, rfl, (List.append_nil _).symm, once⟩ run

/-- If no name goes up, everything that has been accepted is found again. -/
theorem stocked_of_calls (rooted : Rooted rebuilder region) (healthy : before.Healthy) (below : region ≠ [])
    (stocked : Stocked rebuilder before.files region)
    (named : ∀ call ∈ calls, ∀ part ∈ call.names, IsName part)
    (run : calls.foldlM Call.perform rebuilder before = (.ok final, after)) :
    Stocked final after.files region := by
  refine (foldlM_ok (fun _ value state => Rooted value region ∧ state.Healthy ∧
    Stocked value state.files region) ?_ ⟨rooted, healthy, stocked⟩ run).2.2
  rintro past rest value next call state last whole ⟨rootedHere, healthyHere, stockedHere⟩ step
  have plain := named call (by rw [whole]; exact List.mem_append_right _ List.mem_cons_self)
  exact ⟨(adds_of_perform step).2.rooted rootedHere,
    ((keeps_perform rootedHere call).run step healthyHere).1,
    stockedHere.perform rootedHere below healthyHere plain step⟩

/-! ## The archive -/

/-- An entry that is found is one whose name does not go up. -/
theorem named_of_archiveBytes {root : Path} {manifest : Option Manifest} {bytes : Bytes}
    (healthy : before.Healthy) (run : rebuilder.archiveBytes root manifest before = (.ok bytes, after))
    (staged : call.key ∈ rebuilder.staged.map Prod.fst) : ∀ part ∈ call.names, IsName part := by
  intro part among
  obtain ⟨written, finds, complete, _⟩ := archiveBytes_ok healthy run
  obtain ⟨names, isDirectory, spelled, nonempty, named⟩ := exists_names_of_complete finds complete staged
  have segments : ∀ part ∈ call.names, Files.IsSegment part := fun _ => isSegment_of_mem_nameParts
  obtain ⟨same, _⟩ := keyAt_injective (List.ne_nil_of_mem among) nonempty segments
    (fun name member => (named name member).1) ((keyOf_eq_keyAt _ _).symm.trans spelled)
  exact named part (same ▸ among)

section Serializing

variable (rooted : Rooted rebuilder region) (below : region ≠ [])
  (stocked : Stocked rebuilder before.files region) (once : (rebuilder.staged.map Prod.fst).Nodup)
  (unhindered : Unhindered rebuilder path name directory ["copy-" ++ name] before)
  (apart : ∀ rest, FileTree.isBelow (region ++ rest) (directory ++ ["copy-" ++ name]) = false)
  (run : calls.foldlM Call.perform rebuilder before = (.ok final, middle)) (manifest : Option Manifest)

include rooted below stocked once unhindered apart run

/-- If no name goes up, the archive is written, with every entry that has been accepted. -/
theorem exists_packed_of_calls (named : ∀ call ∈ calls, ∀ part ∈ call.names, IsName part) :
    ∃ after file written, final.serialize manifest middle = (.ok rebuilder.paths.copy, after) ∧
      after.files.at? (directory ++ ["copy-" ++ name]) = some (.file file) ∧
      Packed final middle.files region written ∧
      (written.map Prod.fst).Perm (rebuilder.staged.map Prod.fst ++ calls.map Call.key) ∧
      file.content = Zip.encode ((manifest.map Manifest.record).toList ++ written.map (·.2)) [] := by
  have accepted := accepted_of_calls rooted unhindered.healthy once run
  have stockedLast := stocked_of_calls rooted unhindered.healthy below stocked named run
  have still := unhindered.within accepted.paths accepted.healthy accepted.within
  obtain ⟨after, serializes⟩ := still.serialize_run accepted.rooted stockedLast.furnished apart manifest
  obtain ⟨_, _, ⟨_, file, written, there, packed, whole⟩ | ⟨⟨_, failed⟩, _⟩⟩ :=
    still.all_or_nothing_of_serialize accepted.rooted accepted.once
      (stockedLast.clear.direct stockedLast.sound) apart serializes
  · rw [accepted.paths] at serializes
    exact ⟨after, file, written, serializes, there, packed, accepted.keys ▸ packed.keys, whole⟩
  · cases failed

/-- After calls that have all been accepted, the archive is written exactly if no name goes up. -/
theorem serializes_iff_of_calls :
    (∃ after, final.serialize manifest middle = (.ok rebuilder.paths.copy, after)) ↔
      ∀ call ∈ calls, ∀ part ∈ call.names, IsName part := by
  refine ⟨fun ⟨after, serializes⟩ call among => ?_, fun named => ?_⟩
  · have accepted := accepted_of_calls rooted unhindered.healthy once run
    have still := unhindered.within accepted.paths accepted.healthy accepted.within
    obtain ⟨_, _, opened, _, _, healthy, _, collects, ⟨_, _, rfl, _⟩ | ⟨⟨_, failed⟩, _⟩⟩ :=
      still.serialize_ends accepted.rooted.root serializes
    · refine named_of_archiveBytes healthy collects ?_
      rw [accepted.keys]
      exact List.mem_append_right _ (List.mem_map_of_mem among)
    · cases failed
  · obtain ⟨after, _, _, serializes, _⟩ :=
      exists_packed_of_calls rooted below stocked once unhindered apart run manifest named
    exact ⟨after, serializes⟩

end Serializing

/-- In a new staging directory, too, it is the names alone that decide. -/
theorem serializes_iff_of_empty (rooted : Rooted rebuilder region) (below : region ≠ [])
    (unhindered : Unhindered rebuilder path name directory ["copy-" ++ name] before)
    (apart : ∀ rest, FileTree.isBelow (region ++ rest) (directory ++ ["copy-" ++ name]) = false)
    (alive : before.files.at? region = some .directory) (askable : Askable (FileTree.pathOf region))
    (empty : ∀ names ≠ [], before.files.at? (region ++ names) = none) (fresh : rebuilder.staged = [])
    (run : calls.foldlM Call.perform rebuilder before = (.ok final, middle)) (manifest : Option Manifest) :
    (∃ after, final.serialize manifest middle = (.ok rebuilder.paths.copy, after)) ↔
      ∀ call ∈ calls, ∀ part ∈ call.names, IsName part :=
  serializes_iff_of_calls rooted below
    (.of_empty unhindered.healthy.files alive askable empty fresh) (by simp [fresh]) unhindered apart run
    manifest

end Rebuild
end ClassLoom
