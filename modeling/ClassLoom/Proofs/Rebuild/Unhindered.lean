import ClassLoom.Proofs.Rebuild.Succeeding

namespace ClassLoom
namespace Rebuild

/-!
# What hinders a step

A step of a rebuild touches some of the names beside the archive.  Whether it can do what it is there for
is decided by what is at these names, unless something hinders it: a name or a path that is too long, a
link at one of the names, or a way to them that leads through what is at one of them, so that it is lost
as soon as that is taken away.

Where nothing hinders, the way stays open for as long as only these names are touched.
-/

open Files (FileTree FileWork Path IsName)
open Files.FileTree (Askable)

variable {rebuilder : Rebuilder} {path : Path} {name : String} {directory : Files.Location}
  {names others : List String} {tree middle after : FileTree} {before : Workspace}

/-! ## What is beside -/

theorem not_isBelow_beside {first second : String} (different : first ≠ second) (rest : Files.Location) :
    FileTree.isBelow (directory ++ [first] ++ rest) (directory ++ [second]) = false := by
  rw [List.append_assoc]
  exact FileTree.not_isBelow_sibling different rest

/-- What is at one place, and below it, another tree has at another. -/
def SameAt (tree : FileTree) (source : Files.Location) (after : FileTree) (target : Files.Location) :
    Prop :=
  ∀ rest, after.at? (target ++ rest) = tree.at? (source ++ rest)

/-- Nothing is at a place, nor below it. -/
def EmptyAt (tree : FileTree) (place : Files.Location) : Prop := ∀ rest, tree.at? (place ++ rest) = none

section At

variable {source target place : Files.Location}

theorem SameAt.trans {last : Files.Location} (first : SameAt tree source middle target)
    (second : SameAt middle target after last) : SameAt tree source after last :=
  fun rest => (second rest).trans (first rest)

theorem SameAt.here (same : SameAt tree source after target) : after.at? target = tree.at? source := by
  simpa using same []

theorem SameAt.empty (same : SameAt tree source after target) (empty : EmptyAt tree source) :
    EmptyAt after target := fun rest => (same rest).trans (empty rest)

theorem EmptyAt.here (empty : EmptyAt tree place) : tree.at? place = none := by simpa using empty []

theorem EmptyAt.of_absent (sound : tree.Sound) (absent : tree.at? place = none) : EmptyAt tree place :=
  fun rest => sound.free_of_absent absent _ (FileTree.isBelow_append _ rest)

end At

/-- Outside of some names in a directory the tree is the same. -/
structure SparesOthers (directory : Files.Location) (names : List String) (tree after : FileTree) :
    Prop where
  places : ∀ {place : Files.Location},
    (∀ other ∈ names, FileTree.isBelow place (directory ++ [other]) = false) →
    after.at? place = tree.at? place
  start : after.start = tree.start

namespace SparesOthers

theorem refl (tree : FileTree) : SparesOthers directory names tree tree := ⟨fun _ => rfl, rfl⟩

theorem trans (first : SparesOthers directory names tree middle)
    (second : SparesOthers directory names middle after) : SparesOthers directory names tree after :=
  ⟨fun outside => (second.places outside).trans (first.places outside), second.start.trans first.start⟩

theorem mono (spares : SparesOthers directory names tree after) (more : names ⊆ others) :
    SparesOthers directory others tree after :=
  ⟨fun outside => spares.places fun other among => outside other (more among), spares.start⟩

theorem of_eroded (eroded : FileTree.Eroded tree after (directory ++ [name])) :
    SparesOthers directory [name] tree after :=
  ⟨fun outside => eroded.at?_of_outside (outside _ List.mem_cons_self), eroded.start⟩

theorem of_written {content : Bytes} (written : FileTree.Written tree after (directory ++ [name]) content) :
    SparesOthers directory [name] tree after := by
  refine ⟨fun {place} outside => written.at?_of_ne ?_, written.start⟩
  rintro rfl
  have below := outside name List.mem_cons_self
  rw [FileTree.isBelow_refl] at below
  cases below

theorem of_moved {first second : String}
    (moved : FileTree.Moved tree after (directory ++ [first]) (directory ++ [second])) :
    SparesOthers directory [first, second] tree after :=
  ⟨fun outside => moved.elsewhere (outside _ (by simp)) (outside _ (by simp)), moved.start⟩

theorem alive (spares : SparesOthers directory names tree after)
    (alive : tree.at? directory = some .directory) : after.at? directory = some .directory :=
  (spares.places fun other _ => not_isBelow_self directory other).trans alive

/-- Under another name nothing has changed. -/
theorem beside (spares : SparesOthers directory names tree after) {other : String}
    (away : other ∉ names) : SameAt tree (directory ++ [other]) after (directory ++ [other]) :=
  fun rest => spares.places fun touched among => not_isBelow_beside (fun same => away (by rwa [same])) rest

end SparesOthers

/-! ## The way to the names -/

/-- A tree without what has one of some names in a directory. -/
def stripped (directory : Files.Location) (names : List String) (tree : FileTree) : FileTree :=
  names.foldl (fun tree other => tree.drop (directory ++ [other])) tree

theorem at?_stripped (names : List String) (place : Files.Location) :
    (stripped directory names tree).at? place =
      if place ≠ [] ∧ ∃ other ∈ names, FileTree.isBelow place (directory ++ [other]) = true then none
      else tree.at? place := by
  induction names generalizing tree with
  | nil => simp [stripped]
  | cons name rest inductionHypothesis =>
      change (stripped directory rest (tree.drop (directory ++ [name]))).at? place = _
      rw [inductionHypothesis, FileTree.at?_drop]
      by_cases here : place ≠ [] ∧ FileTree.isBelow place (directory ++ [name]) = true
      · rw [if_pos here, ite_self, if_pos ⟨here.1, name, by simp, here.2⟩]
      · have same : (place ≠ [] ∧ ∃ other ∈ name :: rest,
            FileTree.isBelow place (directory ++ [other]) = true) ↔
            place ≠ [] ∧ ∃ other ∈ rest, FileTree.isBelow place (directory ++ [other]) = true := by
          simp only [List.exists_mem_cons_iff]
          tauto
        simp only [if_neg here, same]

theorem sound_stripped (sound : tree.Sound) (names : List String) :
    (stripped directory names tree).Sound ∧ (stripped directory names tree).start = tree.start := by
  induction names generalizing tree with
  | nil => exact ⟨sound, rfl⟩
  | cons name rest inductionHypothesis => exact inductionHypothesis (sound.drop _)

/-- Without the names nothing has changed. -/
theorem SparesOthers.same_stripped (spares : SparesOthers directory names tree after)
    (place : Files.Location) :
    (stripped directory names after).at? place = (stripped directory names tree).at? place := by
  by_cases root : place = []
  · subst root
    rfl
  rw [at?_stripped, at?_stripped]
  split
  · rfl
  next outside =>
    refine spares.places fun other among => ?_
    by_contra below
    exact outside ⟨root, other, among, by simpa using below⟩

/-- A way that needs nothing at the names leads where it did as long as the rest is the same. -/
theorem SparesOthers.reaches (spares : SparesOthers directory names tree after) (sound : tree.Sound)
    (way : (stripped directory names tree).Reaches path directory) : after.Reaches path directory := by
  refine way.mono (fun {place entry} kept _ => ?_) (spares.start.trans (sound_stripped sound _).2.symm)
  rw [← spares.same_stripped place, at?_stripped] at kept
  split at kept
  · cases kept
  · exact kept

/-- A way of plain names through a tree without links leads through nothing that is in the directory to
which it leads. -/
theorem stripped_reaches (linkless : tree.Linkless) (sound : tree.Sound)
    (named : ∀ part ∈ path.parts, IsName part) (alive : tree.at? directory = some .directory)
    (reaches : tree.Reaches path directory) (names : List String) :
    (stripped directory names tree).Reaches path directory := by
  obtain ⟨left, leads⟩ := reaches
  have spelled : directory = tree.base path ++ path.parts :=
    leads.settles.unique (.straight named fun _ _ => linkless _)
  obtain ⟨soundStripped, start⟩ : (stripped directory names tree).Sound ∧ _ := sound_stripped sound names
  have based : (stripped directory names tree).base path = tree.base path := by
    rw [FileTree.base, FileTree.base, start]
  have kept : (stripped directory names tree).at? (tree.base path ++ path.parts) = some .directory := by
    rw [← spelled, at?_stripped, if_neg, alive]
    rintro ⟨_, other, _, below⟩
    rw [not_isBelow_self] at below
    cases below
  have down := soundStripped.leads_down FileTree.linkLimit kept leads.short
  rw [← spelled] at down
  exact ⟨FileTree.linkLimit, based ▸ down⟩

/-- Nothing leads through files. -/
theorem stripped_reaches_of_bare (sound : tree.Sound) {names : List String}
    (bare : ∀ other ∈ names, tree.at? (directory ++ [other]) = none ∨
      ∃ file, tree.at? (directory ++ [other]) = some (.file file))
    (reaches : tree.Reaches path directory) : (stripped directory names tree).Reaches path directory := by
  refine reaches.mono (fun {place entry} held leadsOn => ?_) (sound_stripped sound names).2
  rw [at?_stripped, if_neg, held]
  rintro ⟨_, other, among, below⟩
  have top : tree.at? (directory ++ [other]) = some .directory ∨ place = directory ++ [other] := by
    by_cases here : place = directory ++ [other]
    · exact .inr here
    · exact .inl (sound.at?_above held below here)
  rcases top with upper | rfl
  · rcases bare other among with none | ⟨file, some⟩
    · rw [none] at upper
      cases upper
    · rw [some] at upper
      cases upper
  · rcases bare other among with none | ⟨file, some⟩
    · rw [none] at held
      cases held
    · rw [some] at held
      obtain rfl := Option.some.inj held
      cases leadsOn

/-! ## Nothing hinders -/

/-- A rebuilder and a state that leave it to some names what a step can do. -/
structure Unhindered (rebuilder : Rebuilder) (path : Path) (name : String) (directory : Files.Location)
    (names : List String) (before : Workspace) : Prop where
  paths : Named rebuilder path name
  healthy : before.Healthy
  askable : Askable (path.child ("copy-" ++ name))
  alive : before.files.at? directory = some .directory
  way : (stripped directory names before.files).Reaches path directory
  plain : ∀ other ∈ names, ∀ target, before.files.at? (directory ++ [other]) ≠ some (.link target)

/-- Where a path goes down only, in a tree without links, nothing hinders. -/
theorem unhindered_of_linkless (paths : Named rebuilder path name) (healthy : before.Healthy)
    (linkless : before.files.Linkless) (askable : Askable (path.child ("copy-" ++ name)))
    (reaches : before.files.Reaches path directory) (alive : before.files.at? directory = some .directory)
    (named : ∀ part ∈ path.parts, IsName part) (names : List String) :
    Unhindered rebuilder path name directory names before where
  paths := paths
  healthy := healthy
  askable := askable
  alive := alive
  way := stripped_reaches linkless healthy.files named alive reaches _
  plain _ _ := linkless _

/-- Where there are no more than files, nothing hinders. -/
theorem unhindered_of_bare (paths : Named rebuilder path name) (healthy : before.Healthy)
    (askable : Askable (path.child ("copy-" ++ name))) (reaches : before.files.Reaches path directory)
    (alive : before.files.at? directory = some .directory) {names : List String}
    (bare : ∀ other ∈ names, before.files.at? (directory ++ [other]) = none ∨
      ∃ file, before.files.at? (directory ++ [other]) = some (.file file)) :
    Unhindered rebuilder path name directory names before where
  paths := paths
  healthy := healthy
  askable := askable
  alive := alive
  way := stripped_reaches_of_bare healthy.files bare reaches
  plain other among target linked := by
    rcases bare other among with none | ⟨file, some⟩
    · rw [none] at linked
      cases linked
    · rw [some] at linked
      cases linked

namespace Unhindered

theorem archive (unhindered : Unhindered rebuilder path name directory names before) :
    IsName name ∧ Askable (path.child name) :=
  ⟨unhindered.paths.named, askable_beside unhindered.askable (by simp)⟩

theorem copy (unhindered : Unhindered rebuilder path name directory names before) :
    IsName ("copy-" ++ name) ∧ Askable (path.child ("copy-" ++ name)) :=
  ⟨isName_copy unhindered.paths.named, unhindered.askable⟩

theorem backup (unhindered : Unhindered rebuilder path name directory names before) :
    IsName ("old-" ++ name) ∧ Askable (path.child ("old-" ++ name)) :=
  ⟨isName_backup unhindered.paths.named, askable_beside unhindered.askable (by simp)⟩

/-- While only the names are touched, the way to them is open. -/
theorem open_of_spares (unhindered : Unhindered rebuilder path name directory names before)
    (spares : SparesOthers directory names before.files after) :
    after.Reaches path directory ∧ after.at? directory = some .directory :=
  ⟨spares.reaches unhindered.healthy.files unhindered.way, spares.alive unhindered.alive⟩

/-- What an earlier run has left under one of the names is discarded. -/
theorem discarded_run (unhindered : Unhindered rebuilder path name directory names before) {other : String}
    (among : other ∈ names) (segment : IsName other ∧ Askable (path.child other)) (notice : String)
    (cause : String → FileFailure → ArchiveCause) :
    ∃ cleared, rebuilder.discard (path.child other) notice cause before = (.ok (), cleared) ∧
      cleared.Healthy ∧ SparesOthers directory [other] before.files cleared.files ∧
      EmptyAt cleared.files (directory ++ [other]) := by
  have reaches := (unhindered.open_of_spares (.refl _)).1
  have dropped : SparesOthers directory [other] before.files (before.files.drop (directory ++ [other])) :=
    .of_eroded (FileTree.eroded_drop _ (FileTree.isBelow_refl _))
  have apart := (unhindered.open_of_spares (dropped.mono (by simpa using among))).1
  obtain ⟨cleared, clears, healthy, gone, _, eroded⟩ : ∃ cleared, rebuilder.discard (path.child other) notice
      cause before = (.ok (), cleared) ∧ _ :=
    discard_run unhindered.healthy reaches unhindered.paths.proper segment.1 segment.2
      (unhindered.plain _ among) fun _ => apart
  exact ⟨cleared, clears, healthy, .of_eroded eroded, .of_absent healthy.files gone⟩

/-- Under fewer names there is less to hinder. -/
theorem mono (unhindered : Unhindered rebuilder path name directory names before) {others : List String}
    (fewer : others ⊆ names) : Unhindered rebuilder path name directory others before where
  paths := unhindered.paths
  healthy := unhindered.healthy
  askable := unhindered.askable
  alive := unhindered.alive
  way := by
    refine unhindered.way.mono (fun {place entry} kept _ => ?_)
      ((sound_stripped unhindered.healthy.files _).2.trans
        (sound_stripped unhindered.healthy.files _).2.symm)
    rw [at?_stripped] at kept ⊢
    split at kept
    · cases kept
    next outside =>
      rw [if_neg fun ⟨root, other, among, below⟩ => outside ⟨root, other, fewer among, below⟩]
      exact kept
  plain other among := unhindered.plain other (fewer among)

/-- While only the names are touched, and none becomes a link, nothing comes to hinder. -/
theorem of_spares {last : Workspace} (unhindered : Unhindered rebuilder path name directory names before)
    (healthy : last.Healthy) (spares : SparesOthers directory names before.files last.files)
    (plain : ∀ other ∈ names, ∀ target, last.files.at? (directory ++ [other]) ≠ some (.link target)) :
    Unhindered rebuilder path name directory names last where
  paths := unhindered.paths
  healthy := healthy
  askable := unhindered.askable
  alive := spares.alive unhindered.alive
  way := unhindered.way.mono (fun kept _ => (spares.same_stripped _).trans kept)
    ((sound_stripped healthy.files _).2.trans
      (spares.start.trans (sound_stripped unhindered.healthy.files _).2.symm))
  plain := plain

/-- What a step does in a region, making no links and taking nothing away, hinders nothing. -/
theorem within {region : Files.Location} {final : Rebuilder} {last : Workspace}
    (unhindered : Unhindered rebuilder path name directory names before)
    (paths : final.paths = rebuilder.paths) (healthy : last.Healthy)
    (within : Within region before.files last.files) :
    Unhindered final path name directory names last where
  paths := unhindered.paths.of_same paths
  healthy := healthy
  askable := unhindered.askable
  alive := within.carries unhindered.alive rfl
  way := by
    have start : (stripped directory names before.files).start = before.files.start :=
      (sound_stripped unhindered.healthy.files names).2
    have startLast : (stripped directory names last.files).start = last.files.start :=
      (sound_stripped healthy.files names).2
    refine unhindered.way.mono (fun {place entry} kept leadsOn => ?_)
      (startLast.trans (within.start.trans start.symm))
    rw [at?_stripped] at kept ⊢
    split at kept
    · cases kept
    next outside => rw [if_neg outside, within.carries kept leadsOn]
  plain other among target held := unhindered.plain other among target (within.links held)

end Unhindered

end Rebuild
end ClassLoom
