import ClassLoom.Pattern.PathFilter
import ClassLoom.Proofs.Failing
import Mathlib

namespace ClassLoom
namespace Pattern

/-!
# Why patterns are refused

Nearly everything that is wrong with a pattern is wrong with its form, and is told with its place.  Two
complaints are of another kind: a repetition counts further than a machine word does, or the flags for the
whole pattern exclude each other.  The first needs a number of that size in the text of the pattern, the
second a parenthesis with a question mark after it.

Reading goes on through the tokens and never back, but for the brace that starts no repetition.  So what is
blamed on the tokens from some place on is blamed on the pattern.
-/

/-! ## Steps of reading -/

/-- Digits that stand together in the tokens. -/
structure Digits (tokens : List String) (digits : List Char) : Prop where
  within : digits.map String.singleton <:+: tokens
  each : ∀ c ∈ digits, c.isDigit = true

/-- Digits of the tokens write a number which no repetition counts. -/
def Overcounts (tokens : List String) : Prop :=
  ∃ digits, Digits tokens digits ∧ repetitionLimit ≤ numberOf 10 (String.ofList digits)

/-- What may be wrong with tokens that are read. -/
inductive Blames (tokens : List String) : Complaint → Prop
  | form (cause : Cause) (place : Option Nat) : Blames tokens (.malformed cause place)
  | count : Overcounts tokens → Blames tokens .repetitionTooLarge
  | flags : ["(", "?"] <:+: tokens → Blames tokens .mixedTypes

/-- A cursor that reading comes to from another one.  Flags for the whole pattern are set in a group. -/
structure Further (before after : Cursor) : Prop where
  tokens : after.tokens <:+ before.tokens
  flags : after.flags = before.flags ∨ ["(", "?"] <:+: before.tokens

/-- How a step of reading from a cursor may end. -/
def Ends {α : Type} (before : Cursor) : Except Complaint (α × Cursor) → Prop
  | .ok (_, after) => Further before after
  | .error complaint => Blames before.tokens complaint

/-- A step of reading goes on through the tokens, or is refused for what they are. -/
def Reads {α : Type} (reader : Reader α) : Prop := ∀ before, Ends before (reader before)

theorem Blames.mono {tokens more : List String} {complaint : Complaint} (blames : Blames tokens complaint)
    (inside : tokens <:+: more) : Blames more complaint := by
  cases blames with
  | form cause place => exact .form cause place
  | count overcounts =>
      obtain ⟨digits, ⟨within, each⟩, large⟩ := overcounts
      exact .count ⟨digits, ⟨within.trans inside, each⟩, large⟩
  | flags opens => exact .flags (opens.trans inside)

namespace Further

variable {before middle after : Cursor}

theorem refl (cursor : Cursor) : Further cursor cursor := ⟨List.suffix_rfl, .inl rfl⟩

theorem trans (first : Further before middle) (second : Further middle after) : Further before after where
  tokens := second.tokens.trans first.tokens
  flags := by
    rcases second.flags with same | opens
    · rcases first.flags with sameToo | opens
      · exact .inl (same.trans sameToo)
      · exact .inr opens
    · exact .inr (opens.trans first.tokens.isInfix)

end Further

theorem Ends.after {α : Type} {before middle : Cursor} {result : Except Complaint (α × Cursor)}
    (ends : Ends middle result) (further : Further before middle) : Ends before result := by
  cases result with
  | error complaint => exact ends.mono further.tokens.isInfix
  | ok done => exact further.trans ends

section Steps

variable {α β : Type} {reader : Reader α} {before middle : Cursor}

theorem bind_run {next : α → Reader β} : (reader >>= next) before =
    (match reader before with
      | .ok (value, middle) => next value middle
      | .error complaint => .error complaint) := by
  change (reader before >>= fun done => next done.1 done.2) = _
  rcases reader before with complaint | ⟨value, middle⟩ <;> rfl

theorem Ends.bind {next : α → Reader β} (first : Ends before (reader middle))
    (second : ∀ value after, reader middle = .ok (value, after) → Further before after →
      Ends before (next value after)) :
    Ends before ((reader >>= next) middle) := by
  rw [bind_run]
  rcases run : reader middle with complaint | ⟨value, after⟩
  · rw [run] at first
    exact first
  · rw [run] at first
    exact second value after run first

theorem ok_of_bind {next : α → Reader β} {value : β} {after : Cursor}
    (run : (reader >>= next) before = .ok (value, after)) :
    ∃ first middle, reader before = .ok (first, middle) ∧ next first middle = .ok (value, after) := by
  rw [bind_run] at run
  rcases done : reader before with complaint | ⟨first, middle⟩
  · rw [done] at run
    cases run
  · rw [done] at run
    exact ⟨first, middle, rfl, run⟩

theorem Reads.bind {next : α → Reader β} (first : Reads reader) (second : ∀ value, Reads (next value)) :
    Reads (reader >>= next) :=
  fun before => (first before).bind fun value after _ further => (second value after).after further

theorem get_run (next : Cursor → Reader β) (before : Cursor) :
    ((get : Reader Cursor) >>= next) before = next before before := rfl

theorem reads_pure (value : α) : Reads (pure value : Reader α) := fun before => .refl before

theorem Reads.map (first : Reads reader) (change : α → β) : Reads (change <$> reader) :=
  first.bind fun value => reads_pure (change value)

theorem reads_ite {condition : Prop} [Decidable condition] {first second : Reader α} (holds : Reads first)
    (fails : Reads second) : Reads (if condition then first else second) := by
  split
  · exact holds
  · exact fails

/-- A check is made before reading goes on. -/
theorem reads_check {condition : Prop} [Decidable condition] {check : Reader PUnit} {next : PUnit → Reader β}
    (checks : Reads check) (goes : ∀ done, Reads (next done)) :
    Reads (if condition then check >>= next else next ⟨⟩) :=
  reads_ite (checks.bind goes) (goes ⟨⟩)

/-- One of two steps is made before reading goes on. -/
theorem Ends.ite_bind {condition : Prop} [Decidable condition] {first second : Reader α}
    {next : α → Reader β} (holds : Ends before (first middle)) (fails : Ends before (second middle))
    (goes : ∀ value after, Further before after → Ends before (next value after)) :
    Ends before ((if condition then first >>= next else second >>= next) middle) := by
  split
  · exact holds.bind fun value after _ further => goes value after further
  · exact fails.bind fun value after _ further => goes value after further

theorem reads_get : Reads (get : Reader Cursor) := fun before => .refl before

/-- What is changed beside the tokens and the flags has no part in it. -/
theorem reads_modify (change : Cursor → Cursor) (tokens : ∀ cursor, (change cursor).tokens = cursor.tokens)
    (flags : ∀ cursor, (change cursor).flags = cursor.flags) :
    Reads (modify change : Reader PUnit) :=
  fun before => ⟨tokens before ▸ List.suffix_rfl, .inl (flags before)⟩

theorem reads_refuseAt (cause : Cause) (place : Nat) : Reads (Reader.refuseAt cause place : Reader α) :=
  fun _ => .form cause (some place)

theorem reads_refuse (cause : Cause) (back : Nat) : Reads (Reader.refuse cause back : Reader α) :=
  reads_get.bind fun _ => reads_refuseAt _ _

end Steps

/-! ## Tokens -/

section Tokens

variable {before after : Cursor}

theorem reads_next? : Reads Reader.next? := reads_get.bind fun _ => reads_pure _

theorem reads_place : Reads Reader.place := reads_get.bind fun _ => reads_pure _

theorem reads_checkEnd : Reads Reader.checkEnd := by
  refine reads_get.bind fun cursor => ?_
  split
  · exact reads_refuseAt _ _
  · exact reads_pure _

theorem checkEnd_ok (run : Reader.checkEnd before = .ok ((), after)) : after = before := by
  rw [Reader.checkEnd, get_run] at run
  split at run
  · cases run
  · exact (congrArg Prod.snd (Except.ok.inj run)).symm

theorem reads_take? : Reads Reader.take? := by
  intro before
  rw [Reader.take?, get_run]
  rcases held : before.tokens with _ | ⟨token, rest⟩
  · exact .refl before
  · refine Ends.after ((reads_checkEnd.bind fun _ => reads_pure (some token))
      { before with tokens := rest, place := before.place + token.length }) ?_
    exact ⟨held ▸ List.suffix_cons token rest, .inl rfl⟩

/-- The first token is taken off, if there is one. -/
theorem tokens_of_take? {taken : Option String} (run : Reader.take? before = .ok (taken, after)) :
    after.tokens = before.tokens.tail := by
  rw [Reader.take?, get_run] at run
  rcases held : before.tokens with _ | ⟨token, rest⟩
  · rw [held] at run
    cases run
    exact held
  · rw [held] at run
    obtain ⟨_, _, ⟨⟩, run⟩ := ok_of_bind run
    obtain ⟨_, _, checked, run⟩ := ok_of_bind run
    cases run
    rw [checkEnd_ok checked]
    rfl

theorem reads_accept (token : String) : Reads (Reader.accept token) := by
  refine reads_next?.bind fun next => ?_
  split
  · exact reads_take?.bind fun _ => reads_pure _
  · exact reads_pure _

/-- What is accepted is the next token. -/
theorem accept_ok {token : String} (run : Reader.accept token before = .ok (true, after)) :
    before.tokens = token :: after.tokens := by
  obtain ⟨_, _, ⟨⟩, run⟩ := ok_of_bind run
  split at run
  next next =>
    obtain ⟨_, _, taking, run⟩ := ok_of_bind run
    cases run
    rw [tokens_of_take? taking]
    exact List.eq_cons_of_mem_head? (beq_iff_eq.1 next)
  next => cases run

theorem reads_takeWhile (kind : Char → Bool) (count : Nat) : Reads (Reader.takeWhile kind count) := by
  induction count with
  | zero => exact reads_pure _
  | succ count inductionHypothesis =>
      refine reads_next?.bind fun next => ?_
      split
      · split
        · split
          · exact reads_take?.bind fun _ => inductionHypothesis.bind fun _ => reads_pure _
          · exact reads_pure _
        · exact reads_pure _
      · exact reads_pure _

/-- What is taken is spelled by a run of single characters of the kind. -/
theorem takeWhile_ok {kind : Char → Bool} {count : Nat} {text : String}
    (run : Reader.takeWhile kind count before = .ok (text, after)) : ∃ taken : List Char,
      before.tokens = taken.map String.singleton ++ after.tokens ∧ (∀ c ∈ taken, kind c = true) ∧
        text = String.ofList taken := by
  induction count generalizing before text with
  | zero =>
      cases run
      exact ⟨[], rfl, nofun, rfl⟩
  | succ count inductionHypothesis =>
      have stopped {rest : List String} (here : before.tokens = rest)
          (same : (.ok ("", before) : Except Complaint (String × Cursor)) = .ok (text, after)) :
          ∃ taken : List Char, rest = taken.map String.singleton ++ after.tokens ∧
            (∀ c ∈ taken, kind c = true) ∧ text = String.ofList taken := by
        cases same
        exact ⟨[], here.symm, nofun, rfl⟩
      obtain ⟨_, _, ⟨⟩, run⟩ := ok_of_bind run
      rcases held : before.tokens with _ | ⟨token, rest⟩
      · rw [held] at run
        exact stopped held run
      rw [held, List.head?_cons] at run
      simp only at run
      rcases spelled : token.toList with _ | ⟨c, _ | ⟨d, more⟩⟩
      · rw [spelled] at run
        exact stopped held run
      · rw [spelled] at run
        simp only at run
        split at run
        next holds =>
          obtain ⟨_, middle, taking, run⟩ := ok_of_bind run
          obtain ⟨more, _, further, run⟩ := ok_of_bind run
          cases run
          obtain ⟨taken, split, each, rfl⟩ := inductionHypothesis further
          have first : token = String.singleton c := by
            rw [← String.toList_inj, spelled, String.toList_singleton]
          refine ⟨c :: taken, ?_, List.forall_mem_cons.2 ⟨holds, each⟩, ?_⟩
          · rw [List.map_cons, List.cons_append, ← split, tokens_of_take? taking, held, ← first]
            rfl
          · rw [first, ← String.toList_inj]
            simp
        next => exact stopped held run
      · rw [spelled] at run
        exact stopped held run

end Tokens

/-! ## Names, groups and escapes -/

section Readers

theorem reads_takeName_go (terminator what : String) (fuel : Nat) (name : String) :
    Reads (Reader.takeName.go terminator what fuel name) := by
  induction fuel generalizing name with
  | zero => exact reads_pure _
  | succ fuel inductionHypothesis =>
      refine reads_take?.bind fun taken => ?_
      cases taken with
      | none =>
          simp only
          split
          · exact reads_refuse _ _
          · exact reads_refuse _ _
      | some token =>
          simp only
          split
          · split
            · exact reads_refuse _ _
            · exact reads_pure _
          · exact inductionHypothesis _

theorem reads_takeName (terminator what : String) : Reads (Reader.takeName terminator what) :=
  reads_get.bind fun _ => reads_takeName_go _ _ _ _

theorem reads_openGroup (name : Option String) : Reads (Reader.openGroup name) := by
  intro before
  rw [Reader.openGroup, get_run]
  cases name with
  | none => exact ⟨List.suffix_rfl, .inl rfl⟩
  | some name =>
      simp only
      cases before.names.lookup name with
      | some first => exact (reads_refuse _ _).bind (fun _ => reads_pure _) before
      | none => exact ⟨List.suffix_rfl, .inl rfl⟩

theorem reads_closeGroup (number : Nat) (width : Width) : Reads (Reader.closeGroup number width) :=
  reads_modify _ (fun _ => rfl) fun _ => rfl

theorem reads_groupWidth? (number : Nat) : Reads (Reader.groupWidth? number) :=
  reads_get.bind fun _ => reads_pure _

theorem reads_groupWidths : Reads Reader.groupWidths := reads_get.bind fun _ => reads_pure _

theorem reads_checkLookbehind (number : Nat) : Reads (Reader.checkLookbehind number) := by
  refine reads_get.bind fun cursor => ?_
  split
  · exact reads_pure _
  · refine (reads_groupWidth? number).bind fun width => ?_
    exact reads_check (reads_refuse _ _) fun _ => reads_ite (reads_refuse _ _) (reads_pure _)

theorem reads_readHexadecimal (escape : String) (width : Nat) : Reads (readHexadecimal escape width) := by
  refine (reads_takeWhile _ _).bind fun digits => ?_
  exact reads_check (reads_refuse _ _) fun _ => reads_check (reads_refuse _ _) fun _ => reads_pure _

theorem reads_readNamed : Reads readNamed := by
  refine (reads_accept _).bind fun opened => ?_
  exact reads_check (reads_refuse _ _) fun _ => (reads_takeName _ _).bind fun name =>
    (reads_refuse _ _)

/-- A code in octal has to be in its range. -/
theorem reads_inOctal {α : Type} (text : String) (code : Nat) (value : α) : Reads (do
    if 0o377 < code then Reader.refuse (.octalOutOfRange text) text.length
    return value) :=
  reads_check (reads_refuse _ _) fun _ => reads_pure _

theorem reads_readOctal (escape : String) : Reads (readOctal escape) :=
  (reads_takeWhile _ _).bind fun _ => reads_inOctal _ _ _

theorem reads_readCode? (escape : String) (c : Char) : Reads (readCode? escape c) := by
  unfold readCode?
  split
  · exact (reads_readHexadecimal _ _).map _
  · exact (reads_readHexadecimal _ _).map _
  · exact (reads_readHexadecimal _ _).map _
  · exact reads_readNamed.map _
  · exact reads_pure _

theorem reads_readPlain (escape : String) (c : Char) : Reads (readPlain escape c) :=
  reads_check (reads_refuse _ _) fun _ => reads_pure _

theorem reads_readSetEscape (escape : String) : Reads (readSetEscape escape) := by
  unfold readSetEscape
  simp only
  split
  · exact reads_pure _
  · exact reads_pure _
  · refine (reads_readCode? _ _).bind fun code => ?_
    split
    · exact reads_pure _
    · exact reads_ite ((reads_readOctal _).bind fun _ => reads_pure _)
        ((reads_readPlain _ _).bind fun _ => reads_pure _)

/-- A group that is referred to has to be there, and closed. -/
theorem reads_toGroup (group back width : Nat) : Reads (do
    if (← get).groups.length < group then Reader.refuse (.invalidReference group) back
    if (← Reader.groupWidth? group).isNone then Reader.refuse .openGroup width
    Reader.checkLookbehind group
    return .reference group : Reader Escaped) := by
  refine reads_get.bind fun cursor => reads_check (reads_refuse _ _) fun _ => ?_
  refine (reads_groupWidth? _).bind fun width => reads_check (reads_refuse _ _) fun _ => ?_
  exact (reads_checkLookbehind _).bind fun _ => reads_pure _

theorem reads_readReference (escape : String) : Reads (readReference escape) := by
  refine (reads_takeWhile _ _).bind fun more => ?_
  simp only
  generalize (decide ((escape ++ more).length = 3) && _) = octal
  generalize numberOf 10 ((escape ++ more).drop 1).toString = group
  refine reads_ite (Reads.bind (reads_takeWhile _ _) fun third => ?_)
    (Reads.bind (reads_pure _) fun third => ?_)
  all_goals
    generalize escape ++ more ++ third = text
    generalize numberOf 8 (text.drop 1).toString = code
    exact reads_ite (reads_inOctal _ _ _) (reads_toGroup _ _ _)

theorem reads_readEscape (escape : String) : Reads (readEscape escape) := by
  unfold readEscape
  simp only
  split
  · exact reads_pure _
  · exact reads_pure _
  · exact reads_pure _
  · refine (reads_readCode? _ _).bind fun code => ?_
    split
    · exact reads_pure _
    · exact reads_ite ((reads_takeWhile _ _).bind fun _ => reads_pure _)
        (reads_ite (reads_readReference _) ((reads_readPlain _ _).bind fun _ => reads_pure _))

/-! ## Sets and repetitions -/

theorem reads_readMember (token : String) : Reads (readMember token) := by
  unfold readMember
  split
  · exact reads_readSetEscape _
  · exact reads_pure _
  · exact reads_pure _

theorem reads_readMembers (start fuel : Nat) (items : List SetItem) :
    Reads (readMembers start fuel items) := by
  induction fuel generalizing items with
  | zero => exact reads_pure _
  | succ fuel inductionHypothesis =>
      refine reads_take?.bind fun taken => ?_
      cases taken with
      | none => exact reads_refuseAt _ _
      | some token =>
          refine reads_ite (reads_pure _) ((reads_readMember _).bind fun first => ?_)
          refine (reads_accept _).bind fun dash => reads_ite (inductionHypothesis _) ?_
          refine reads_take?.bind fun taken => ?_
          split
          · exact reads_refuseAt _ _
          · exact reads_pure _
          · refine (reads_readMember _).bind fun last => ?_
            split
            · exact reads_check (reads_refuse _ _) fun _ => inductionHypothesis _
            · exact reads_refuse _ _

theorem reads_readSet : Reads readSet :=
  reads_place.bind fun _ => (reads_accept _).bind fun _ => reads_get.bind fun _ =>
    (reads_readMembers _ _ _).bind fun _ => reads_pure _

/-- Digits that are taken stand in the tokens, wherever reading began. -/
theorem digits_takeWhile {start before after : Cursor} {count : Nat} {text : String}
    (further : Further start before) (run : Reader.takeWhile Char.isDigit count before = .ok (text, after)) :
    ∃ digits, Digits start.tokens digits ∧ text = String.ofList digits := by
  obtain ⟨digits, held, each, rfl⟩ := takeWhile_ok run
  refine ⟨digits, ⟨?_, each⟩, rfl⟩
  exact (held ▸ List.prefix_append _ _ : _ <+: before.tokens).isInfix.trans further.tokens.isInfix

section Bounds

variable {before after : Cursor} {low high : List Char}

/-- A count is refused for the digits that it was read from. -/
theorem ends_readCount (further : Further before after) (digits : Digits before.tokens low) :
    Ends before (readCount (String.ofList low) after) := by
  unfold readCount
  simp only
  split
  next large => exact .count ⟨low, digits, large⟩
  next => exact further

/-- After its digits a repetition goes back to the start, or its counts are read. -/
theorem ends_bounds (further : Further before after) (least : Digits before.tokens low)
    (most : Digits before.tokens high) : Ends before ((do
      if !(← Reader.accept "\x7d") then
        set before
        return none
      let least ← if (String.ofList low).isEmpty then pure 0 else readCount (String.ofList low)
      if (String.ofList high).isEmpty then return some (least, none)
      let most ← readCount (String.ofList high)
      if most < least then Reader.refuseAt .boundsReversed before.place
      return some (least, some most) : Reader (Option (Nat × Option Nat))) after) := by
  refine Ends.bind ((reads_accept _ after).after further) fun closed behind _ further => ?_
  split
  · exact .refl before
  have ends (count : Nat) {after : Cursor} (further : Further before after) : Ends before ((do
      if (String.ofList high).isEmpty then return some (count, none)
      let most ← readCount (String.ofList high)
      if most < count then Reader.refuseAt .boundsReversed before.place
      return some (count, some most) : Reader (Option (Nat × Option Nat))) after) := by
    split
    · exact further
    · refine Ends.bind (ends_readCount further most) fun most behind _ further => ?_
      exact (reads_check (reads_refuseAt _ _) (fun _ => reads_pure _) behind).after further
  simp only
  split
  · exact ends 0 further
  · exact Ends.bind (ends_readCount further least) fun count _ _ further => ends count further

end Bounds

theorem reads_readBounds (token : String) : Reads (readBounds token) := by
  intro before
  unfold readBounds
  split
  · exact .refl before
  · exact .refl before
  · exact .refl before
  refine (reads_next? before).bind ?_
  rintro _ _ ⟨⟩ -
  split
  · exact .refl before
  refine (reads_get before).bind ?_
  rintro _ _ ⟨⟩ -
  refine (reads_takeWhile _ _ before).bind fun low afterLow run further => ?_
  obtain ⟨low, least, rfl⟩ := digits_takeWhile (.refl before) run
  refine Ends.bind ((reads_accept _ afterLow).after further) fun comma afterComma _ further => ?_
  simp only
  split
  · refine Ends.bind ((reads_takeWhile _ _ afterComma).after further) fun high afterHigh run toHigh => ?_
    obtain ⟨high, most, rfl⟩ := digits_takeWhile further run
    exact ends_bounds toHigh least most
  · exact ends_bounds further least least

theorem reads_readRepetition (token : String) (sequence : List Node) :
    Reads (readRepetition token sequence) := by
  refine reads_place.bind fun _ => (reads_readBounds _).bind fun bounds => ?_
  split
  · exact reads_pure _
  split
  · exact reads_refuseAt _ _
  · exact reads_refuseAt _ _
  · exact reads_refuseAt _ _
  · refine (reads_accept _).bind fun _ => reads_ite (reads_pure _) ?_
    exact (reads_accept _).bind fun _ => reads_ite (reads_pure _) (reads_pure _)

/-! ## Flags, names and comments -/

theorem reads_readAdded (fuel : Nat) (add : Flags) (token : String) : Reads (readAdded fuel add token) := by
  induction fuel generalizing add token with
  | zero => exact reads_pure _
  | succ fuel inductionHypothesis =>
      refine reads_check (reads_refuse _ _) fun _ => reads_check (reads_refuse _ _) fun _ => ?_
      refine reads_take?.bind fun taken => ?_
      split
      · exact reads_refuse _ _
      · exact reads_ite (reads_pure _) (reads_ite (inductionHypothesis _ _) (reads_refuse _ _))

theorem reads_readRemoved (fuel : Nat) (remove : Flags) (token : String) :
    Reads (readRemoved fuel remove token) := by
  induction fuel generalizing remove token with
  | zero => exact reads_pure _
  | succ fuel inductionHypothesis =>
      refine reads_check (reads_refuse _ _) fun _ => reads_take?.bind fun taken => ?_
      split
      · exact reads_refuse _ _
      · exact reads_pure _
      · exact reads_ite (inductionHypothesis _ _) (reads_refuse _ _)

/-- Flags for a group are read up to its colon. -/
theorem reads_groupFlags (add : Flags) (ending : String) (fuel : Nat) : Reads (do
    if isGlobal add then Reader.refuse .globalTurnedOn 1
    let remove ←
      if ending == "-" then
        match ← Reader.take? with
        | none => Reader.refuse .flagMissing 0
        | some token =>
          if (flagOf? token).isNone then
            Reader.refuse (if isLetterToken token then .unknownFlag else .flagMissing) token.length
          readRemoved fuel Flags.none token
      else pure Flags.none
    if isGlobal remove then Reader.refuse .globalTurnedOff 1
    if add.common remove ≠ Flags.none then Reader.refuse .onAndOff 1
    return some (add, remove)) := by
  have settles (remove : Flags) : Reads (do
      if isGlobal remove then Reader.refuse .globalTurnedOff 1
      if add.common remove ≠ Flags.none then Reader.refuse .onAndOff 1
      return some (add, remove)) :=
    reads_check (reads_refuse _ _) fun _ => reads_check (reads_refuse _ _) fun _ => reads_pure _
  refine reads_check (reads_refuse _ _) fun _ => ?_
  refine reads_ite (reads_take?.bind fun taken => ?_) ((reads_pure _).bind settles)
  split
  · exact (reads_refuse _ _).bind settles
  · exact reads_check (reads_refuse _ _) fun _ => (reads_readRemoved _ _ _).bind settles

/-- Flags are set for the whole pattern after a parenthesis with a question mark. -/
theorem ends_readFlags {start before : Cursor} (opens : ["(", "?"] <:+: start.tokens)
    (further : Further start before) (token : String) : Ends start (readFlags token before) := by
  refine Ends.bind ((reads_get before).after further) fun cursor after _ further => ?_
  refine Ends.ite_bind further ((reads_readAdded _ _ _ after).after further) ?_
  rintro ⟨add, ending⟩ after further
  simp only
  split
  · exact ⟨further.tokens, .inr opens⟩
  · exact (reads_groupFlags add ending _ after).after further

theorem reads_readGroupName (terminator : String) : Reads (readGroupName terminator) :=
  (reads_takeName _ _).bind fun _ => reads_check (reads_refuse _ _) fun _ => reads_pure _

theorem reads_readNamedReference : Reads readNamedReference := by
  refine (reads_readGroupName _).bind fun name => reads_get.bind fun cursor => ?_
  split
  · exact reads_refuse _ _
  · refine (reads_groupWidth? _).bind fun _ => reads_check (reads_refuse _ _) fun _ => ?_
    exact (reads_checkLookbehind _).bind fun _ => reads_pure _

theorem reads_skipComment (start fuel : Nat) : Reads (skipComment start fuel) := by
  induction fuel with
  | zero => exact reads_pure _
  | succ fuel inductionHypothesis =>
      refine reads_next?.bind fun next => ?_
      split
      · exact reads_refuseAt _ _
      · exact reads_take?.bind fun _ => reads_ite inductionHypothesis (reads_pure _)

theorem reads_skipLine (fuel : Nat) : Reads (skipLine fuel) := by
  induction fuel with
  | zero => exact reads_pure _
  | succ fuel inductionHypothesis =>
      refine reads_take?.bind fun taken => ?_
      split
      · exact reads_pure _
      · exact reads_ite inductionHypothesis (reads_pure _)

theorem reads_closeParenthesis (start : Nat) : Reads (closeParenthesis start) :=
  (reads_accept _).bind fun _ => reads_ite (reads_refuseAt _ _) (reads_pure _)

theorem reads_readCondition : Reads readCondition := by
  have settles (number : Nat) : Reads (do
      Reader.checkLookbehind number
      return number) := (reads_checkLookbehind _).bind fun _ => reads_pure _
  refine (reads_takeName _ _).bind fun name => reads_ite (reads_get.bind fun cursor => ?_) ?_
  · split
    · exact (reads_pure _).bind settles
    · exact (reads_refuse _ _).bind settles
  split
  · exact (reads_refuse _ _).bind settles
  · refine reads_check (reads_refuse _ _) fun _ => reads_check (reads_refuse _ _) fun _ => ?_
    refine reads_place.bind fun place => (reads_modify _ ?_ ?_).bind fun _ => (reads_pure _).bind settles
    · intro cursor
      split <;> rfl
    · intro cursor
      split <;> rfl

/-! ## Groups and sequences -/

theorem ends_readOpening {start before : Cursor} (opened : start.tokens = "(" :: before.tokens)
    (further : Further start before) (place : Nat) : Ends start (readOpening place before) := by
  refine Ends.bind ((reads_accept _ before).after further) fun question after run further => ?_
  cases question with
  | false => exact further
  | true =>
    have opens : ["(", "?"] <:+: start.tokens := by
      rw [opened, accept_ok run]
      exact (List.prefix_append ["(", "?"] after.tokens).isInfix
    refine Ends.bind ((reads_get after).after further) fun cursor after _ further => ?_
    refine Ends.bind ((reads_take? after).after further) fun taken after _ further => ?_
    have goesOn {reader : Reader Opening} (reads : Reads reader) : Ends start (reader after) :=
      (reads after).after further
    split
    · exact goesOn (reads_refuse _ _)
    · refine goesOn ((reads_accept _).bind fun _ => reads_ite ?_ ((reads_accept _).bind fun _ => ?_))
      · exact (reads_readGroupName _).bind fun _ => reads_pure _
      refine reads_ite (reads_readNamedReference.bind fun _ => reads_pure _) ?_
      refine reads_take?.bind fun taken => ?_
      split
      · exact reads_refuse _ _
      · exact reads_refuse _ _
    · exact further
    · exact goesOn ((reads_skipComment _ _).bind fun _ => reads_pure _)
    · exact further
    · exact further
    · refine goesOn (reads_take?.bind fun taken => ?_)
      split
      · exact reads_refuse _ _
      · exact reads_pure _
      · exact reads_pure _
      · exact reads_refuse _ _
    · exact further
    · exact further
    · split
      · refine Ends.bind (ends_readFlags opens further _) fun flags after _ further => ?_
        split
        · exact further
        · exact further
      · exact goesOn (reads_refuse _ _)

/-- A group is read after its parenthesis, which is among the tokens all the same. -/
def ReadsOpened {α : Type} (reader : Reader α) : Prop :=
  ∀ start before, start.tokens = "(" :: before.tokens → Further start before → Ends start (reader before)

section Recursion

variable {fuel : Nat}
  (choice : ∀ verbose outermost options, Reads (readChoice fuel verbose outermost options))
  (sequence : ∀ verbose first held, Reads (readSequence fuel verbose first held))
  (group : ∀ verbose first held, ReadsOpened (readGroup fuel verbose first held))

include choice sequence in
theorem reads_readChoice_succ (verbose outermost : Bool) (options : List Expression) :
    Reads (readChoice (fuel + 1) verbose outermost options) := by
  unfold readChoice
  refine (sequence _ _ _).bind fun option => (reads_accept _).bind fun bar => ?_
  exact reads_ite (reads_get.bind fun _ => choice _ _ _) (reads_pure _)

include sequence group in
theorem reads_readSequence_succ (verbose first : Bool) (held : List Node) :
    Reads (readSequence (fuel + 1) verbose first held) := by
  intro before
  unfold readSequence
  refine (reads_next? before).bind ?_
  rintro _ _ ⟨⟩ -
  rcases front : before.tokens.head? with _ | token
  · exact .refl before
  simp only
  split
  · exact .refl before
  refine (reads_take? before).bind fun taken after run further => ?_
  have goesOn {reader : Reader Expression} (reads : Reads reader) : Ends before (reader after) :=
    (reads after).after further
  split
  · exact goesOn (sequence _ _ _)
  split
  · exact goesOn (reads_get.bind fun _ => (reads_skipLine _).bind fun _ => sequence _ _ _)
  change Ends before (StateT.run _ after)
  split
  · exact goesOn ((reads_readEscape _).bind fun _ => sequence _ _ _)
  · exact goesOn (reads_readSet.bind fun _ => sequence _ _ _)
  · exact goesOn (sequence _ _ _)
  · exact goesOn (sequence _ _ _)
  · exact goesOn (sequence _ _ _)
  next spelled =>
    have opened : before.tokens = "(" :: after.tokens := by
      rw [tokens_of_take? run, ← (String.toList_inj.1 spelled : token = "(")]
      exact List.eq_cons_of_mem_head? front
    exact group _ _ _ before after opened further
  · exact goesOn (reads_ite ((reads_readRepetition _ _).bind fun _ => sequence _ _ _) (sequence _ _ _))
  · exact goesOn (sequence _ _ _)

include choice sequence in
theorem readsOpened_readGroup_succ (verbose first : Bool) (held : List Node) :
    ReadsOpened (readGroup (fuel + 1) verbose first held) := by
  intro start before opened further
  unfold readGroup
  refine Ends.bind ((reads_place before).after further) ?_
  rintro _ _ ⟨⟩ -
  refine Ends.bind (ends_readOpening opened further _) fun opening after _ further => ?_
  suffices Reads _ from (this after).after further
  cases opening with
  | nothing => exact sequence _ _ _
  | node node => exact sequence _ _ _
  | flags => exact reads_check (reads_refuseAt _ _) fun _ => reads_get.bind fun _ => sequence _ _ _
  | capturing name =>
    refine (reads_openGroup _).bind fun number => (choice _ _ _).bind fun body => ?_
    refine (reads_closeParenthesis _).bind fun _ => reads_groupWidths.bind fun widths => ?_
    exact (reads_closeGroup _ _).bind fun _ => sequence _ _ _
  | plain add remove =>
    exact (choice _ _ _).bind fun body => (reads_closeParenthesis _).bind fun _ => sequence _ _ _
  | atomic =>
    exact (choice _ _ _).bind fun body => (reads_closeParenthesis _).bind fun _ => sequence _ _ _
  | look ahead wanted =>
    refine reads_get.bind fun cursor => ?_
    refine reads_check (reads_modify _ (fun _ => rfl) fun _ => rfl) fun _ => (choice _ _ _).bind fun body => ?_
    refine reads_check (reads_modify _ (fun _ => rfl) fun _ => rfl) fun _ => ?_
    exact (reads_closeParenthesis _).bind fun _ => reads_groupWidths.bind fun _ => sequence _ _ _
  | conditional =>
    refine reads_readCondition.bind fun number => (sequence _ _ _).bind fun yes => ?_
    have closes (no : Expression) := (reads_closeParenthesis (before.place - 1)).bind fun _ =>
      sequence verbose first (.conditional number yes no :: held)
    refine (reads_accept _).bind fun bar => reads_ite ?_ ((reads_pure _).bind closes)
    refine (sequence _ _ _).bind fun no => reads_next?.bind fun _ => ?_
    exact reads_check (reads_refuse _ _) fun _ => (reads_pure _).bind closes

end Recursion

theorem reads_all (fuel : Nat) :
    (∀ verbose outermost options, Reads (readChoice fuel verbose outermost options)) ∧
      (∀ verbose first held, Reads (readSequence fuel verbose first held)) ∧
      ∀ verbose first held, ReadsOpened (readGroup fuel verbose first held) := by
  induction fuel with
  | zero =>
    refine ⟨fun _ _ _ => ?_, fun _ _ _ => ?_, fun _ _ _ start before _ further => ?_⟩
    · unfold readChoice
      exact reads_pure _
    · unfold readSequence
      exact reads_pure _
    · unfold readGroup
      exact further
  | succ fuel inductionHypothesis =>
    obtain ⟨choice, sequence, group⟩ := inductionHypothesis
    exact ⟨reads_readChoice_succ choice sequence, reads_readSequence_succ sequence group,
      readsOpened_readGroup_succ choice sequence⟩

end Readers

/-! ## Whole patterns -/

section Patterns

theorem reads_forIn {α : Type} {body : α → PUnit → Reader (ForInStep PUnit)}
    (each : ∀ item, Reads (body item ⟨⟩)) (items : List α) : Reads (forIn items ⟨⟩ body) := by
  induction items with
  | nil => exact reads_pure _
  | cons item items inductionHypothesis =>
    rw [List.forIn_cons]
    refine (each item).bind fun step => ?_
    cases step with
    | done => exact reads_pure _
    | yield => exact inductionHypothesis

/-- Reading starts without flags, so those that exclude each other have been set by the pattern. -/
theorem ends_readPattern {before : Cursor} (unflagged : before.flags = Flags.none) :
    Ends before (readPattern before) := by
  refine (reads_checkEnd before).bind fun _ after _ further => ?_
  refine Ends.bind ((reads_get after).after further) fun _ after _ further => ?_
  refine Ends.bind (((reads_all _).1 _ _ _ after).after further) fun expression after _ further => ?_
  refine Ends.bind ((reads_get after).after further) ?_
  rintro _ after ⟨⟩ further
  simp only
  split
  next mixed =>
    rcases further.flags with same | opens
    · rw [same, unflagged] at mixed
      cases mixed
    · exact .flags opens
  next =>
    refine (Reads.bind reads_next? (fun next => ?_) after).after further
    refine reads_check (reads_refuse _ _) fun _ => reads_get.bind fun cursor => ?_
    refine (reads_forIn (fun reference => ?_) cursor.references).bind fun _ => reads_pure _
    exact reads_check (reads_refuseAt _ _) fun _ => reads_pure _

mutual

/-- What is checked of the whole is its form. -/
theorem check_error {template : Bool} {complaint : Complaint} : ∀ node : Node,
    node.check template = .error complaint → ∃ cause, complaint = .malformed cause none
  | .branch options, refused => checkAny_error options refused
  | .group _ _ _ body, refused => checkAll_error body refused
  | .atomic body, refused => checkAll_error body refused
  | .look none _ body, refused => checkAll_error body refused
  | .look (some width) _ body, refused => by
    unfold Node.check at refused
    split at refused
    · exact ⟨_, (Except.error.inj refused).symm⟩
    split at refused
    · exact ⟨_, (Except.error.inj refused).symm⟩
    · exact checkAll_error body refused
  | .conditional _ yes no, refused => by
    unfold Node.check at refused
    rcases run : checkAll template yes with complaint | ⟨⟩
    · rw [run] at refused
      exact Except.error.inj refused ▸ checkAll_error yes run
    · rw [run] at refused
      exact checkAll_error no refused
  | .repetition greed _ _ body, refused => by
    unfold Node.check at refused
    split at refused
    · exact ⟨_, (Except.error.inj refused).symm⟩
    · exact checkAll_error body refused
  | .literal _, refused | .notLiteral _, refused | .set _ _, refused | .any, refused
  | .anchor _, refused | .reference _, refused => nomatch refused

theorem checkAll_error {template : Bool} {complaint : Complaint} : ∀ nodes : List Node,
    checkAll template nodes = .error complaint → ∃ cause, complaint = .malformed cause none
  | [], refused => nomatch refused
  | node :: rest, refused => by
    unfold checkAll at refused
    rcases run : node.check template with complaint | ⟨⟩
    · rw [run] at refused
      exact Except.error.inj refused ▸ check_error node run
    · rw [run] at refused
      exact checkAll_error rest refused

theorem checkAny_error {template : Bool} {complaint : Complaint} : ∀ options : List (List Node),
    checkAny template options = .error complaint → ∃ cause, complaint = .malformed cause none
  | [], refused => nomatch refused
  | option :: rest, refused => by
    unfold checkAny at refused
    rcases run : checkAll template option with complaint | ⟨⟩
    · rw [run] at refused
      exact Except.error.inj refused ▸ checkAll_error option run
    · rw [run] at refused
      exact checkAny_error rest refused

end

/-- Where reading a pattern begins. -/
def Cursor.start (pattern : String) : Cursor where
  tokens := (tokensOf pattern.toList).1
  dangling := (tokensOf pattern.toList).2
  place := 0
  size := pattern.length
  flags := Flags.none
  groups := []
  names := []
  lookbehind := none
  references := []

/-- What is wrong with a pattern is its form, or stands in its tokens. -/
theorem blames_ofString {pattern : String} {complaint : Complaint}
    (refused : Reading.ofString pattern = .error complaint) :
    Blames (tokensOf pattern.toList).1 complaint := by
  have ends : Ends (Cursor.start pattern) (readPattern (Cursor.start pattern)) := ends_readPattern rfl
  change (readPattern (Cursor.start pattern) >>= fun done => _) = _ at refused
  rcases run : readPattern (Cursor.start pattern) with wrong | ⟨reading, after⟩
  · rw [run] at refused ends
    exact Except.error.inj refused ▸ ends
  · rw [run] at refused
    change (checkAll _ _ >>= fun checked => _) = _ at refused
    rcases checked : checkAll reading.flags.template reading.expression with wrong | ⟨⟩
    · obtain ⟨cause, rfl⟩ := checkAll_error _ checked
      rw [checked] at refused
      exact Except.error.inj refused ▸ .form cause none
    · rw [checked] at refused
      cases refused

/-- The tokens of a pattern spell it, but for a lone backslash at its end. -/
theorem spelled_tokensOf (characters : List Char) :
    (tokensOf characters).1.flatMap String.toList <+: characters := by
  induction characters using tokensOf.induct with
  | case1 => exact List.nil_prefix
  | case2 => exact List.nil_prefix
  | case3 c rest tokens dangling held inductionHypothesis =>
    rw [held] at inductionHypothesis
    simpa [tokensOf, held] using inductionHypothesis
  | case4 c rest lone escape tokens dangling held inductionHypothesis =>
    rw [held] at inductionHypothesis
    simpa [tokensOf, held] using inductionHypothesis

theorem infix_of_tokensOf {characters text : List Char}
    (within : text.map String.singleton <:+: (tokensOf characters).1) : text <:+: characters := by
  obtain ⟨front, back, split⟩ := within
  refine List.IsInfix.trans ?_ (spelled_tokensOf characters).isInfix
  refine ⟨front.flatMap String.toList, back.flatMap String.toList, ?_⟩
  rw [← split]
  simp [List.flatMap_map]

/-- Digits in the text of a pattern write a number which no repetition counts. -/
def CountsTooFar (pattern : String) : Prop :=
  ∃ digits, digits <:+: pattern.toList ∧ (∀ c ∈ digits, c.isDigit = true) ∧
    repetitionLimit ≤ numberOf 10 (String.ofList digits)

/-- How compiling a pattern can fail. -/
inductive Uncompiled (pattern : String) : Failure → Prop
  | refused (cause : InvalidInput) : Uncompiled pattern (.validation cause)
  | count : CountsTooFar pattern →
      Uncompiled pattern (.fault (.outOfRange (Complaint.repetitionTooLarge.message pattern)))
  | flags : ['(', '?'] <:+: pattern.toList →
      Uncompiled pattern (.fault (.wrongValue (Complaint.mixedTypes.message pattern)))

/-- Compiling answers a filter or refuses the pattern, but for two faults: that of a repetition which
counts too far, and that of flags for the whole pattern which exclude each other. -/
theorem failsAs_compile (pattern : String) : (compile pattern).FailsAs (Uncompiled pattern) := by
  unfold compile
  split
  · exact Outcome.failsAs_error (.refused _)
  split
  next => exact Outcome.failsAs_ok _
  next refused =>
    cases blames_ofString refused with
    | count overcounts =>
      obtain ⟨digits, ⟨within, each⟩, large⟩ := overcounts
      exact Outcome.failsAs_error (.count ⟨digits, infix_of_tokensOf within, each, large⟩)
  next refused =>
    cases blames_ofString refused with
    | flags opens => exact Outcome.failsAs_error (.flags (infix_of_tokensOf opens))
  next => exact Outcome.failsAs_error (.refused _)

example : compile "a\x7b4294967295\x7d" =
    .error (.fault (.outOfRange "the repetition number is too large")) := by cbv

example : compile "(?a)(?u)x" =
    .error (.fault (.wrongValue "ASCII and UNICODE flags are incompatible")) := by cbv

/-- A pattern that counts no repetition so far and sets no flags is compiled or refused. -/
theorem refused_of_compile {pattern : String} {failure : Failure} (modest : ¬ CountsTooFar pattern)
    (unflagged : ¬ ['(', '?'] <:+: pattern.toList) (fails : compile pattern = .error failure) :
    ∃ cause, failure = .validation cause := by
  cases failsAs_compile pattern fails with
  | refused cause => exact ⟨cause, rfl⟩
  | count far => exact absurd far modest
  | flags opens => exact absurd opens unflagged

end Patterns

end Pattern
end ClassLoom
