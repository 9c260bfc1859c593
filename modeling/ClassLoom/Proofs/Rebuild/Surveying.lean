import ClassLoom.Proofs.Answering
import ClassLoom.Proofs.Files.Granting
import ClassLoom.Proofs.Rebuild.Collecting
import ClassLoom.Proofs.Rebuild.Copy
import ClassLoom.Proofs.Rebuild.Placing

namespace ClassLoom

/-!
# What can be gone through

The walk through the staging directory asks what is at every name that it is told of, and a name that is
too long, or at the end of a path that is too long, ends it with a failure.  A name with a NUL does not:
nothing is seen there, and what is below is not gone through.  So where the walk has come to its end,
whatever is there can be asked for or is not seen, and the walk comes to its end again.
-/

open Files (FileTree Path IsName IsSegment)
open Files.FileTree (Askable)

/-- What holds of every step of a run over a list that succeeds: it has been taken in some state that is
related to the one before, and has succeeded. -/
theorem steps_of_foldlM {σ α ι : Type} {related : σ → σ → Prop} [IsPreorder σ related]
    {step : α → ι → ExceptT Failure (StateM σ) α} {items : List ι} {start value : α} {before after : σ}
    (kept : ∀ value item, Keeps related (step value item))
    (run : items.foldlM step start before = (.ok value, after)) {item : ι} (among : item ∈ items) :
    ∃ here state next last, related before state ∧ step here item state = (.ok next, last) := by
  have every := foldlM_ok (fun past _ state => related before state ∧ ∀ item ∈ past,
      ∃ here state next last, related before state ∧ step here item state = (.ok next, last))
    ?_ ⟨refl_of related before, by simp⟩ run
  · exact every.2 item among
  rintro past rest value next item state last - ⟨so, each⟩ done
  refine ⟨trans_of related so ((kept value item).run done), fun other member => ?_⟩
  rcases List.mem_append.1 member with earlier | now
  · exact each other earlier
  · obtain rfl := List.mem_singleton.1 now
    exact ⟨value, state, next, last, so, done⟩

namespace Rebuild

variable {rebuilder : Rebuilder} {region : Files.Location} {tree : FileTree} {before after : Workspace}
  {path root : Path} {name : String} {directory place : Files.Location} {names front : List String}

/-! ## Paths -/

/-- A path that can be asked for, or at which nothing is seen because it holds a NUL. -/
def Passable (path : Path) : Prop := Askable path ∨ FileTree.hasNul path.toString = true

theorem hasNul_child (nul : FileTree.hasNul path.toString = true) (name : String) :
    FileTree.hasNul (path.child name).toString = true := by
  rw [FileTree.toString_child, FileTree.hasNul_append]
  split
  next bare =>
    rw [Path.toString_of_bare bare] at nul
    split at nul
    · exact absurd nul (by decide)
    · rw [nul, Bool.true_or]
  next => rw [FileTree.hasNul_append, nul, Bool.true_or, Bool.true_or]

theorem hasNul_under (nul : FileTree.hasNul (under root front).toString = true) (names : List String) :
    FileTree.hasNul (under root (front ++ names)).toString = true := by
  induction names using List.reverseRecOn with
  | nil => rwa [List.append_nil]
  | append_singleton names name inductionHypothesis =>
      rw [← List.append_assoc, ← child_under]
      exact hasNul_child inductionHypothesis name

/-- A question about a name is answered if the name can be asked for, or holds a NUL. -/
theorem passable_of_answer (reaches : tree.Reaches path directory) (proper : path.Proper)
    (named : IsName name) {question : Files.Entry → Bool} {answer : Bool}
    (answered : tree.test question (path.child name) = .ok answer) : Passable (path.child name) := by
  cases nul : FileTree.hasNul (path.child name).toString with
  | true => exact .inr nul
  | false =>
      refine .inl (reaches.askable ?_ nul)
      cases found : tree.find true (path.child name).toString with
      | ok spot =>
          obtain ⟨_, _, fits⟩ := FileTree.exists_reaches proper named found
          exact fits
      | error cause =>
          have bearable : cause ≠ .nameTooLong := by
            rintro rfl
            rw [FileTree.test, FileTree.stat, nul, found] at answered
            cases answered
          rw [FileTree.find_child proper named.1] at found
          split at found
          next => exact absurd (Except.error.inj found).symm bearable
          next whole =>
            obtain ⟨left, leads⟩ := reaches
            rw [leads.search_append (List.cons_ne_nil name []), FileTree.search_name named.1.2 named.2] at found
            split at found
            next => exact absurd (Except.error.inj found).symm bearable
            next short => exact ⟨not_lt.1 short, not_lt.1 whole⟩

/-! ## The walk -/

section Walk

variable {depth : Nat} {above : String} {written result : Written}

/-- What the walk is told of is answered for, and directories are gone through. -/
theorem collectName_answers {descend : Path → String → Written → Work Written} {child : Path}
    {key : String} (run : collectName rebuilder descend child key written before = (.ok result, after)) :
    ∃ answer, before.files.isDirectory? child = .ok answer ∧ (answer = true →
      ∃ middle state, Follows Eq before state ∧ descend child (key ++ "/") middle state = (.ok result, after)) := by
  obtain ⟨answer, _, asked, further⟩ := bind_ok run
  obtain ⟨rfl, answered⟩ := Work.ask_ok asked
  refine ⟨answer, answered, ?_⟩
  rintro rfl
  obtain ⟨middle, state, collected, descending⟩ := bind_ok further
  exact ⟨middle, state, (keeps_collectDirectory _ _ _).run collected, descending⟩

/-- Whatever is below a directory through which the walk has gone can be asked for, or is not seen. -/
theorem passable_of_collect (healthy : before.Healthy) (clear : Clear before.files region)
    (askable : Askable (under (FileTree.pathOf region) front))
    (deep : FileTree.pathLimit ≤ depth + front.length)
    (run : collect rebuilder depth (under (FileTree.pathOf region) front) above written before =
      (.ok result, after)) (nonempty : names ≠ []) {entry : Files.Entry}
    (held : before.files.at? (region ++ (front ++ names)) = some entry) :
    Passable (under (FileTree.pathOf region) (front ++ names)) := by
  induction depth generalizing front above written result before after names entry with
  | zero =>
      have proper := proper_under (healthy.files.named clear.alive) fun name member =>
        healthy.files.named held name (List.mem_append_right region (List.mem_append_left names member))
      have short := askable.length_lt proper
      rw [under, List.length_append] at short
      omega
  | succ depth inductionHypothesis =>
      have sound := healthy.files
      have regionNamed := sound.named clear.alive
      have named : ∀ name ∈ front ++ names, IsName name := fun name member =>
        sound.named held name (List.mem_append_right region member)
      obtain ⟨name, rest, rfl⟩ := List.exists_cons_of_ne_nil nonempty
      have whole : front ++ name :: rest = front ++ [name] ++ rest := by simp
      have proper : (under (FileTree.pathOf region) front).Proper :=
        proper_under regionNamed fun name member => named name (List.mem_append_left _ member)
      have rootProper : (FileTree.pathOf region).Proper := ⟨.inr (.inl rfl), fun part member =>
        (regionNamed part member).1⟩
      have here : IsName name := named name (by simp)
      have alive : before.files.at? (region ++ front) = some .directory :=
        sound.alive_of_prefix held (List.prefix_append front _) (by simp)
      have reaches : before.files.Reaches (FileTree.pathOf region) region :=
        sound.reaches_pathOf clear.alive fun part member => askable.short part (List.mem_append_left _ member)
      have reachesHere : before.files.Reaches (under (FileTree.pathOf region) front) (region ++ front) :=
        reaches.under sound alive fun part member => askable.short part (List.mem_append_right _ member)
      obtain ⟨listing, listed, asked, folding⟩ := bind_ok run
      obtain ⟨rfl, answered⟩ := Work.ask_ok asked
      have seen := reaches.stat_under sound clear.alive rootProper askable alive rfl
      rw [FileTree.list_of_stat seen] at answered
      obtain rfl := Except.ok.inj answered
      obtain ⟨there, heldHere⟩ : ∃ there, listed.files.at? (region ++ (front ++ [name])) = some there := by
        cases rest with
        | nil => exact ⟨entry, held⟩
        | cons next further =>
            refine ⟨.directory, sound.alive_of_prefix held ?_ (by simp)⟩
            exact whole ▸ List.prefix_append _ _
      have among : (name, there) ∈ FileTree.inOrder (listed.files.children (region ++ front)) := by
        rw [(FileTree.perm_inOrder _).mem_iff, FileTree.mem_children_iff sound, List.append_assoc]
        exact heldHere
      have kept : ∀ (written : Written) (item : String × Files.Entry), Keeps (Follows Eq)
          (collectName rebuilder (collect rebuilder depth)
            ((under (FileTree.pathOf region) front).child item.1) (above ++ item.1) written) := fun _ _ =>
        keeps_collectName (fun _ _ _ => keeps_collect _ _ _ _ _) _ _ _
      obtain ⟨_, state, _, _, follows, step⟩ := steps_of_foldlM kept folding among
      simp only [child_under] at step
      obtain ⟨healthyState, same⟩ := follows healthy
      obtain ⟨answer, asking, descends⟩ := collectName_answers step
      rw [← same] at asking
      rw [whole]
      have passable : Passable (under (FileTree.pathOf region) (front ++ [name])) := by
        rw [← child_under] at asking ⊢
        exact passable_of_answer reachesHere proper here asking
      rcases passable with askableHere | nul
      · cases rest with
        | nil => rw [List.append_nil]; exact .inl askableHere
        | cons next further =>
            have aliveHere : listed.files.at? (region ++ (front ++ [name])) = some .directory :=
              sound.alive_of_prefix held (whole ▸ List.prefix_append _ _) (by simp)
            rw [FileTree.isDirectory?, FileTree.test_of_stat (reaches.stat_under sound clear.alive rootProper
              askableHere aliveHere rfl)] at asking
            obtain ⟨middle, last, further, descending⟩ := descends (Except.ok.inj asking).symm
            obtain ⟨healthyLast, sameLast⟩ := further healthyState
            rw [same, sameLast] at held clear
            exact inductionHypothesis healthyLast clear askableHere (by simp; omega) descending (by simp)
              (whole ▸ held)
      · exact .inr (hasNul_under nul rest)

end Walk

/-! ## What has been staged -/

/-- A directory, or a file, is at a place. -/
def Holds (tree : FileTree) (place : Files.Location) (isDirectory : Bool) : Prop :=
  ∃ entry, tree.at? place = some entry ∧ FileTree.Entry.isDirectory entry = isDirectory

/-- A staging directory that can be gone through, in which everything that has been staged is found,
whatever else it holds. -/
structure Surveyable (rebuilder : Rebuilder) (tree : FileTree) (region : Files.Location) : Prop where
  sound : tree.Sound
  clear : Clear tree region
  askable : Askable (FileTree.pathOf region)
  passable : ∀ {names : List String} {entry : Files.Entry}, names ≠ [] →
    tree.at? (region ++ names) = some entry → Passable (under (FileTree.pathOf region) names)
  held : ∀ key ∈ rebuilder.staged.map Prod.fst, ∃ names isDirectory, key = keyAt names isDirectory ∧
    names ≠ [] ∧ Askable (under (FileTree.pathOf region) names) ∧ Holds tree (region ++ names) isDirectory

/-- A staging directory in which everything that has been staged is found and comes to a record. -/
structure Furnished (rebuilder : Rebuilder) (tree : FileTree) (region : Files.Location) : Prop
    extends Surveyable rebuilder tree region where
  fileRecord : ∀ {names : List String} {file : Files.File} {staged : StagedEntry},
    tree.at? (region ++ names) = some (.file file) →
    rebuilder.staged.lookup (keyAt names false) = some staged → ∃ record, staged.fileRecord file = .ok record
  directoryRecord : ∀ {names : List String} {staged : StagedEntry},
    rebuilder.staged.lookup (keyAt names true) = some staged →
    ∀ clock, ∃ record, staged.directoryRecord clock = .ok record

/-- A staging directory in which everything that has been staged is found, and all of it has a date. -/
structure Stocked (rebuilder : Rebuilder) (tree : FileTree) (region : Files.Location) : Prop
    extends Surveyable rebuilder tree region where
  dated : ∀ item ∈ rebuilder.staged, ∃ stamp, item.2.stamp = some stamp

/-- Among what has been written is everything that has been staged at certain places. -/
def Covers (rebuilder : Rebuilder) (tree : FileTree) (region : Files.Location)
    (spots : List String → Prop) (added : Written) : Prop :=
  ∀ {names : List String} {isDirectory : Bool}, spots names →
    keyAt names isDirectory ∈ rebuilder.staged.map Prod.fst →
    Askable (under (FileTree.pathOf region) names) → Holds tree (region ++ names) isDirectory →
    keyAt names isDirectory ∈ added.map Prod.fst

theorem mem_of_lookup_ne_none {α : Type} {entries : List (String × α)} {key : String}
    (member : key ∈ entries.map Prod.fst) : ∃ value, entries.lookup key = some value := by
  cases found : entries.lookup key with
  | some value => exact ⟨value, rfl⟩
  | none =>
      obtain ⟨item, among, rfl⟩ := List.mem_map.1 member
      have differs := List.lookup_eq_none_iff.1 found item among
      simp at differs

theorem Stocked.furnished (stocked : Stocked rebuilder tree region) : Furnished rebuilder tree region where
  toSurveyable := stocked.toSurveyable
  fileRecord _ known := by
    obtain ⟨stamp, dated⟩ := stocked.dated _ (mem_of_lookup known)
    rw [StagedEntry.fileRecord, dated]
    exact ⟨_, rfl⟩
  directoryRecord known clock := by
    obtain ⟨stamp, dated⟩ := stocked.dated _ (mem_of_lookup known)
    rw [StagedEntry.directoryRecord, dated]
    exact ⟨_, rfl⟩

namespace Furnished

variable {file : Files.File} {entry : Files.Entry}

/-- Only what is in the staging directory counts. -/
theorem of_same {other : FileTree} (furnished : Furnished rebuilder tree region) (sound : other.Sound)
    (same : ∀ names, other.at? (region ++ names) = tree.at? (region ++ names)) :
    Furnished rebuilder other region where
  sound := sound
  clear := by
    refine ⟨?_, fun {place target} below held => ?_⟩
    · rw [← List.append_nil region, same, List.append_nil]
      exact furnished.clear.alive
    · obtain ⟨names, rfl⟩ := FileTree.isBelow_iff.1 below
      exact furnished.clear.plain below (same names ▸ held)
  askable := furnished.askable
  passable filled held := furnished.passable filled (same _ ▸ held)
  fileRecord held := furnished.fileRecord (same _ ▸ held)
  directoryRecord := furnished.directoryRecord
  held key among := by
    obtain ⟨names, isDirectory, spelled, filled, askable, entry, held, kind⟩ := furnished.held key among
    exact ⟨names, isDirectory, spelled, filled, askable, entry, (same names).trans held, kind⟩

theorem proper (furnished : Furnished rebuilder tree region) : (FileTree.pathOf region).Proper :=
  ⟨.inr (.inl rfl), fun part member => (furnished.sound.named furnished.clear.alive part member).1⟩

theorem reaches (furnished : Furnished rebuilder tree region) :
    tree.Reaches (FileTree.pathOf region) region :=
  furnished.sound.reaches_pathOf furnished.clear.alive furnished.askable.short

theorem stat_under (furnished : Furnished rebuilder tree region)
    (askable : Askable (under (FileTree.pathOf region) names))
    (held : tree.at? (region ++ names) = some entry) :
    tree.stat true (under (FileTree.pathOf region) names).toString = .ok (region ++ names, entry) := by
  refine furnished.reaches.stat_under furnished.sound furnished.clear.alive furnished.proper askable held ?_
  cases entry with
  | link target => exact absurd held (furnished.clear.plain (FileTree.isBelow_append region names))
  | file file => rfl
  | directory => rfl

/-- A file that has been staged is written, and any other is passed over. -/
theorem collectFile_run (furnished : Furnished rebuilder tree region) (same : before.files = tree)
    (quiet : before.LogsToNoFile) (askable : Askable (under (FileTree.pathOf region) names))
    (held : tree.at? (region ++ names) = some (.file file)) (written : Written) :
    ∃ added after, collectFile rebuilder (under (FileTree.pathOf region) names) (keyAt names false) written
        before = (.ok (written ++ added), after) ∧ Logged before after ∧
      (keyAt names false ∈ rebuilder.staged.map Prod.fst → keyAt names false ∈ added.map Prod.fst) := by
  rw [collectFile]
  cases known : rebuilder.staged.lookup (keyAt names false) with
  | some staged =>
      obtain ⟨record, made⟩ := furnished.fileRecord held known
      have opened : Work.ask (·.openFile (under (FileTree.pathOf region) names).toString) before =
          (.ok (region ++ names, file), before) :=
        Work.ask_of_ok (same ▸ FileTree.openFile_of_stat (furnished.stat_under askable held))
      refine ⟨[(keyAt names false, record)], before, ?_, .refl quiet, fun _ => by simp⟩
      simp only
      rw [bind_of_ok opened]
      simp only [made]
      rfl
  | none =>
      obtain ⟨after, done, logged⟩ := Log.logged_write quiet rebuilder.logger .debug
        ("Skipping stale staging file: " ++ (under (FileTree.pathOf region) names).toString) [] none
      refine ⟨[], after, ?_, logged, fun member => ?_⟩
      · simp only
        rw [Log.debug, bind_of_ok done, List.append_nil]
        rfl
      · obtain ⟨_, found⟩ := mem_of_lookup_ne_none member
        rw [known] at found
        cases found

/-- A directory that has been staged is written. -/
theorem collectDirectory_run (furnished : Furnished rebuilder tree region) (names : List String)
    (written : Written) (before : Workspace) :
    ∃ added, collectDirectory rebuilder (keyAt names true) written before =
        (.ok (written ++ added), before) ∧
      (keyAt names true ∈ rebuilder.staged.map Prod.fst → keyAt names true ∈ added.map Prod.fst) := by
  rw [collectDirectory]
  cases known : rebuilder.staged.lookup (keyAt names true) with
  | some staged =>
      obtain ⟨record, made⟩ := furnished.directoryRecord known before.files.clock
      refine ⟨[(keyAt names true, record)], ?_, fun _ => by simp⟩
      simp only
      rw [Work.files_bind, made]
      rfl
  | none =>
      refine ⟨[], ?_, fun member => ?_⟩
      · rw [List.append_nil]
        rfl
      · obtain ⟨_, found⟩ := mem_of_lookup_ne_none member
        rw [known] at found
        cases found

end Furnished

/-- Work of the walk that writes all that has been staged at certain places. -/
def Gathers (rebuilder : Rebuilder) (tree : FileTree) (region : Files.Location)
    (spots : List String → Prop) (work : Written → Work Written) : Prop :=
  ∀ {before : Workspace} (written : Written), before.files = tree → before.LogsToNoFile →
    ∃ added after, work written before = (.ok (written ++ added), after) ∧ Logged before after ∧
      Covers rebuilder tree region spots added

/-- Where a name holds a NUL nothing is seen, and nothing has been staged. -/
theorem collectName_of_hasNul {descend : Path → String → Written → Work Written} {key : String}
    (nul : FileTree.hasNul (under (FileTree.pathOf region) names).toString = true) :
    Gathers rebuilder tree region (fun spot => names <+: spot)
      (collectName rebuilder descend (under (FileTree.pathOf region) names) key) := by
  intro before written same quiet
  have unseen : ∀ question, before.files.test question (under (FileTree.pathOf region) names) = .ok false := by
    intro question
    rw [FileTree.test, FileTree.stat, nul]
    rfl
  have asked : Work.ask (·.isDirectory? (under (FileTree.pathOf region) names)) before =
      (.ok false, before) := Work.ask_of_ok (unseen _)
  have askedFile : Work.ask (·.isFile? (under (FileTree.pathOf region) names)) before =
      (.ok false, before) := Work.ask_of_ok (unseen _)
  refine ⟨[], before, ?_, .refl quiet, ?_⟩
  · rw [collectName, bind_of_ok asked, if_neg Bool.false_ne_true, bind_of_ok askedFile,
      if_neg Bool.false_ne_true, List.append_nil]
    rfl
  · rintro spot _ ⟨rest, rfl⟩ _ askable _
    have unclean := hasNul_under nul rest
    rw [askable.clean] at unclean
    cases unclean

/-- What is at some names, and below them, is gathered, if what is below a directory is. -/
theorem Furnished.collectName_run {descend : Path → String → Written → Work Written}
    {entry : Files.Entry} (furnished : Furnished rebuilder tree region)
    (held : tree.at? (region ++ names) = some entry) (nonempty : names ≠ [])
    (below : tree.at? (region ++ names) = some .directory →
      Askable (under (FileTree.pathOf region) names) →
      Gathers rebuilder tree region (fun spot => names <+: spot ∧ spot ≠ names)
        (descend (under (FileTree.pathOf region) names) (keyAt names false ++ "/"))) :
    Gathers rebuilder tree region (fun spot => names <+: spot)
      (collectName rebuilder descend (under (FileTree.pathOf region) names) (keyAt names false)) := by
  rcases furnished.passable nonempty held with askable | nul
  case inr => exact collectName_of_hasNul nul
  intro before written same quiet
  have seen := furnished.stat_under askable held
  have asked : Work.ask (·.isDirectory? (under (FileTree.pathOf region) names)) before =
      (.ok (FileTree.Entry.isDirectory entry), before) :=
    Work.ask_of_ok (same ▸ FileTree.test_of_stat seen)
  have askedFile : Work.ask (·.isFile? (under (FileTree.pathOf region) names)) before =
      (.ok (FileTree.Entry.isFile entry), before) := Work.ask_of_ok (same ▸ FileTree.test_of_stat seen)
  rw [collectName, bind_of_ok asked]
  cases entry with
  | link target => exact absurd held (furnished.clear.plain (FileTree.isBelow_append region names))
  | directory =>
      have spelled : keyAt names false ++ "/" = keyAt names true := by
        rw [keyAt, keyAt, if_neg (by decide), String.append_empty, if_pos rfl]
      obtain ⟨first, collects, here⟩ := furnished.collectDirectory_run names written before
      obtain ⟨added, after, descends, logged, covers⟩ := below held askable (written ++ first) same quiet
      refine ⟨first ++ added, after, ?_, logged, fun {spot isDirectory} start staged clean there => ?_⟩
      · change (collectDirectory rebuilder (keyAt names false ++ "/") written >>= fun written =>
          descend (under (FileTree.pathOf region) names) (keyAt names false ++ "/") written) before = _
        rw [spelled, bind_of_ok collects, ← spelled, descends, List.append_assoc]
      · rw [List.map_append]
        by_cases same : spot = names
        · obtain ⟨_, found, rfl⟩ := there
          rw [same, held] at found
          obtain rfl := Option.some.inj found
          rw [same] at staged ⊢
          exact List.mem_append_left _ (here staged)
        · exact List.mem_append_right _ (covers ⟨start, same⟩ staged clean there)
  | file file =>
      obtain ⟨added, after, collects, logged, here⟩ := furnished.collectFile_run same quiet askable held written
      refine ⟨added, after, ?_, logged, fun {spot isDirectory} start staged clean there => ?_⟩
      · change (Work.ask (·.isFile? (under (FileTree.pathOf region) names)) >>= fun isFile =>
          if isFile then collectFile rebuilder (under (FileTree.pathOf region) names) (keyAt names false) written
          else pure written) before = _
        rw [bind_of_ok askedFile]
        exact collects
      · -- Nothing is below a file.
        obtain ⟨_, found, rfl⟩ := there
        obtain rfl : names = spot := by
          by_contra apart
          rw [furnished.sound.alive_of_prefix found start apart] at held
          cases held
        rw [held] at found
        obtain rfl := Option.some.inj found
        exact here staged

/-- The walk gathers all that has been staged strictly below where it starts. -/
theorem Furnished.collect_run (furnished : Furnished rebuilder tree region) (depth : Nat) {above : String}
    (alive : tree.at? (region ++ front) = some .directory)
    (askable : Askable (under (FileTree.pathOf region) front))
    (deep : FileTree.pathLimit ≤ depth + front.length)
    (spelled : ∀ name, above ++ name = "/".intercalate (front ++ [name])) :
    Gathers rebuilder tree region (fun spot => front <+: spot ∧ spot ≠ front)
      (collect rebuilder depth (under (FileTree.pathOf region) front) above) := by
  induction depth generalizing front above with
  | zero =>
      have proper := proper_under (furnished.sound.named furnished.clear.alive) fun name member =>
        furnished.sound.named alive name (List.mem_append_right region member)
      have short := askable.length_lt proper
      rw [under, List.length_append] at short
      omega
  | succ depth inductionHypothesis =>
      intro before written same quiet
      have listed : Work.ask (·.list (under (FileTree.pathOf region) front).toString) before =
          (.ok (FileTree.inOrder (tree.children (region ++ front))), before) :=
        Work.ask_of_ok (by rw [same]; exact FileTree.list_of_stat (furnished.stat_under askable alive))
      have among : ∀ {name : String} {entry : Files.Entry},
          (name, entry) ∈ FileTree.inOrder (tree.children (region ++ front)) ↔
            tree.at? (region ++ (front ++ [name])) = some entry := by
        intro name entry
        rw [(FileTree.perm_inOrder _).mem_iff, FileTree.mem_children_iff furnished.sound, List.append_assoc]
      let gathered := fun (past : List (String × Files.Entry)) (value : Written) (state : Workspace) =>
        Logged before state ∧ ∃ added, value = written ++ added ∧ Covers rebuilder tree region
          (fun spot => ∃ name ∈ past.map Prod.fst, front ++ [name] <+: spot) added
      have steps : ∀ {past rest : List (String × Files.Entry)} {item : String × Files.Entry}
          {value : Written} {state : Workspace},
          FileTree.inOrder (tree.children (region ++ front)) = past ++ item :: rest →
          gathered past value state → ∃ next after,
            collectName rebuilder (collect rebuilder depth)
                ((under (FileTree.pathOf region) front).child item.1) (above ++ item.1) value state =
              (.ok next, after) ∧ gathered (past ++ [item]) next after := by
        rintro past rest ⟨name, entry⟩ _ state whole ⟨logged, added, rfl, covers⟩
        have held : tree.at? (region ++ (front ++ [name])) = some entry :=
          among.1 (by rw [whole]; exact List.mem_append_right past List.mem_cons_self)
        have filled : front ++ [name] ≠ [] := by simp
        have spelledHere : above ++ name = keyAt (front ++ [name]) false :=
          (spelled name).trans String.append_empty.symm
        obtain ⟨more, after, collects, further, others⟩ := furnished.collectName_run held filled
          (fun there clean => inductionHypothesis there clean (by simp; omega) fun other => by
            rw [Files.intercalate_concat filled, ← spelled name, spelledHere])
          (written ++ added) (logged.files.trans same) logged.quiet
        refine ⟨written ++ added ++ more, after, ?_, logged.trans further, added ++ more,
          List.append_assoc _ _ _, fun {spot isDirectory} inside staged clean there => ?_⟩
        · rw [child_under, spelledHere]
          exact collects
        · obtain ⟨other, listed, start⟩ := inside
          rw [List.map_append]
          rcases List.mem_append.1 (List.map_append ▸ listed) with earlier | now
          · exact List.mem_append_left _ (covers ⟨other, earlier, start⟩ staged clean there)
          · obtain rfl : other = name := List.mem_singleton.1 now
            exact List.mem_append_right _ (others start staged clean there)
      have nothing : gathered [] written before :=
        ⟨.refl quiet, [], (List.append_nil written).symm, by rintro _ _ ⟨_, ⟨⟩, _⟩⟩
      obtain ⟨result, after, folds, logged, added, rfl, covers⟩ := foldlM_run gathered steps nothing
      refine ⟨added, after, ?_, logged, fun {spot isDirectory} inside staged clean there =>
        covers ?_ staged clean there⟩
      · rw [collect, bind_of_ok listed]
        exact folds
      · -- The first name of the way from the front is among the names of the listing.
        obtain ⟨⟨way, rfl⟩, apart⟩ := inside
        obtain ⟨entry, found, _⟩ := there
        cases way with
        | nil => exact absurd (List.append_nil front) apart
        | cons name rest =>
            rw [List.append_cons] at found ⊢
            obtain ⟨here, held⟩ : ∃ here, tree.at? (region ++ (front ++ [name])) = some here := by
              by_cases last : rest = []
              · rw [last, List.append_nil] at found
                exact ⟨entry, found⟩
              · exact ⟨.directory, furnished.sound.alive_of_prefix found
                  (List.prefix_append _ rest) (by simpa using last)⟩
            exact ⟨name, List.mem_map_of_mem (among.2 held), List.prefix_append _ rest⟩

/-- The archive is made of everything that has been staged. -/
theorem Furnished.archiveBytes_run (furnished : Furnished rebuilder before.files region)
    (quiet : before.LogsToNoFile) (manifest : Option Manifest) :
    ∃ bytes after, rebuilder.archiveBytes (FileTree.pathOf region) manifest before = (.ok bytes, after) ∧
      Logged before after := by
  have whole : under (FileTree.pathOf region) [] = FileTree.pathOf region := by simp [under]
  have alive : before.files.at? (region ++ []) = some .directory := by
    rw [List.append_nil]
    exact furnished.clear.alive
  have bare : ∀ name, "" ++ name = "/".intercalate ([] ++ [name]) := fun name => by simp
  obtain ⟨written, after, collects, logged, covers⟩ := furnished.collect_run FileTree.pathLimit alive
    (whole.symm ▸ furnished.askable) (Nat.le_add_right _ _) bare [] rfl quiet
  rw [List.nil_append, whole] at collects
  have complete : missingNames rebuilder written = [] := by
    have found : ∀ item ∈ rebuilder.staged, ¬(written.lookup item.1).isNone = true := by
      intro item member absent
      have staged := List.mem_map_of_mem (f := Prod.fst) member
      obtain ⟨names, isDirectory, spelled, nonempty, askable, held⟩ := furnished.held item.1 staged
      rw [spelled] at staged absent
      obtain ⟨_, found⟩ := mem_of_lookup_ne_none
        (covers ⟨List.nil_prefix, nonempty⟩ staged askable held)
      rw [found] at absent
      cases absent
    rw [missingNames, List.filter_eq_nil_iff.2 found]
    simp
  refine ⟨Zip.encode ((manifest.map Manifest.record).toList ++ written.map (·.2)) [], after, ?_, logged⟩
  rw [Rebuilder.archiveBytes, bind_of_ok collects]
  simp only [complete]
  rfl

end Rebuild
end ClassLoom
