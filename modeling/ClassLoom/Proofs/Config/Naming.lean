import ClassLoom.Config.Validation
import ClassLoom.Proofs.Failing
import Mathlib.Computability.Language

namespace ClassLoom
namespace Config

/-!
# Names of transformers

A name is a first segment and any number of further segments with a dot or a colon before each.  Every
segment starts with a Latin letter or an underscore and goes on with word characters; the first one may
hold hyphens too.  The names are a regular language, and the check reads a name from its start: after
each character what may follow is again such a language.

The check accepts the names of at most 1024 characters, and each of them with a line feed at its end: the
end that it looks for may stand before one.
-/

open Computability

/-! ## The language of names -/

/-- The texts of one character of a kind. -/
def single (kind : Char → Bool) : Language Char := {text | ∃ c, kind c = true ∧ text = [c]}

/-- Whether a character may stand between two segments. -/
def isSeparator (c : Char) : Bool := c == '.' || c == ':'

/-- Whether a character may stand inside of a segment. -/
def isInner (first : Bool) (c : Char) : Bool := Text.isWord c || (first && c == '-')

/-- Segments, the first one of a name or further ones. -/
def segment (first : Bool) : Language Char := single startsSegment * (single (isInner first))∗

/-- The names of transformers. -/
def transformerNames : Language Char := segment true * (single isSeparator * segment false)∗

/-- How a name goes on inside of a segment. -/
def goingOn (first : Bool) : Language Char :=
  (single (isInner first))∗ * (single isSeparator * segment false)∗

/-- The end of a text, or a line feed before it. -/
def textEnd : Language Char := 1 + single (· == '\n')

variable {c : Char} {rest : List Char} {first : Bool}

@[simp] theorem nil_notMem_single_mul (kind : Char → Bool) (language : Language Char) :
    [] ∉ single kind * language := by
  rintro ⟨_, ⟨c, _, rfl⟩, _, _, empty⟩
  cases empty

@[simp] theorem cons_mem_single_mul_iff {kind : Char → Bool} {language : Language Char} :
    c :: rest ∈ single kind * language ↔ kind c = true ∧ rest ∈ language := by
  rw [Language.mem_mul]
  constructor
  · rintro ⟨_, ⟨d, holds, rfl⟩, tail, member, whole⟩
    obtain ⟨rfl, rfl⟩ := List.cons.inj whole
    exact ⟨holds, member⟩
  · rintro ⟨holds, member⟩
    exact ⟨[c], ⟨c, holds, rfl⟩, rest, member, rfl⟩

theorem transformerNames_eq : transformerNames = single startsSegment * goingOn true := by
  rw [transformerNames, segment, goingOn, mul_assoc]

/-- Inside of a segment a name is at its end, or goes on with a character of the segment, or with a
separator and the start of the next segment. -/
theorem goingOn_eq (first : Bool) : goingOn first =
    1 + single isSeparator * (single startsSegment * goingOn false) +
      single (isInner first) * goingOn first := by
  have further : (single isSeparator * segment false)∗ =
      1 + single isSeparator * (single startsSegment * goingOn false) := by
    rw [← Language.one_add_self_mul_kstar_eq_kstar]
    simp only [segment, goingOn, mul_assoc]
  calc goingOn first
      = (1 + single (isInner first) * (single (isInner first))∗) *
          (single isSeparator * segment false)∗ := by
        rw [Language.one_add_self_mul_kstar_eq_kstar, goingOn]
    _ = (single isSeparator * segment false)∗ + single (isInner first) * goingOn first := by
        rw [add_mul, one_mul, mul_assoc, goingOn]
    _ = _ := by rw [further]

theorem cons_mem_textEnd_iff : c :: rest ∈ textEnd ↔ c = '\n' ∧ rest = [] := by
  rw [textEnd, Language.mem_add, Language.mem_one]
  constructor
  · rintro (empty | ⟨d, holds, whole⟩)
    · cases empty
    · obtain ⟨rfl, rfl⟩ := List.cons.inj whole
      exact ⟨eq_of_beq holds, rfl⟩
  · rintro ⟨rfl, rfl⟩
    exact .inr ⟨'\n', rfl, rfl⟩

theorem cons_mem_goingOn_mul_textEnd_iff : c :: rest ∈ goingOn first * textEnd ↔
    (c = '\n' ∧ rest = []) ∨
      (isSeparator c = true ∧ rest ∈ single startsSegment * (goingOn false * textEnd)) ∨
      (isInner first c = true ∧ rest ∈ goingOn first * textEnd) := by
  conv_lhs => rw [goingOn_eq]
  simp only [add_mul, one_mul, mul_assoc, Language.mem_add, cons_mem_single_mul_iff,
    cons_mem_textEnd_iff, or_assoc]

theorem nil_mem_goingOn_mul_textEnd (first : Bool) : [] ∈ goingOn first * textEnd :=
  ⟨[], ⟨[], Language.nil_mem_kstar _, [], Language.nil_mem_kstar _, rfl⟩, [], .inl rfl, rfl⟩

/-! ## Reading a name -/

/-- A separator and a line feed are no characters of a segment. -/
theorem isInner_eq_false (plain : isSeparator c = true ∨ c = '\n') (first : Bool) :
    isInner first c = false := by
  have marks : c = '.' ∨ c = ':' ∨ c = '\n' := by
    simpa [isSeparator, or_assoc] using plain
  rcases marks with rfl | rfl | rfl <;> cases first <;> decide +kernel

theorem inSegment_cons (kept : ¬(c = '\n' ∧ rest = [])) : inSegment first (c :: rest) =
    if isSeparator c then atSegment false rest else isInner first c && inSegment first rest := by
  rw [inSegment.eq_3 first c rest fun line last => kept ⟨line, last⟩]
  rfl

/-- What the check reads inside of a segment is how a name goes on, up to its end. -/
theorem inSegment_iff (first : Bool) (text : List Char) :
    inSegment first text = true ↔ text ∈ goingOn first * textEnd := by
  induction length : text.length using Nat.strong_induction_on generalizing first text with
  | _ _ inductionHypothesis =>
      subst length
      cases text with
      | nil => exact iff_of_true (inSegment.eq_1 first) (nil_mem_goingOn_mul_textEnd first)
      | cons c rest =>
          rw [cons_mem_goingOn_mul_textEnd_iff]
          by_cases ended : c = '\n' ∧ rest = []
          · obtain ⟨rfl, rfl⟩ := ended
            exact iff_of_true (inSegment.eq_2 first) (.inl ⟨rfl, rfl⟩)
          rw [inSegment_cons ended, or_iff_right ended]
          by_cases separates : isSeparator c = true
          · -- A segment starts with a character that is looked at before it is read.
            rw [if_pos separates, isInner_eq_false (.inl separates)]
            simp only [separates, true_and, Bool.false_eq_true, false_and, or_false]
            cases rest with
            | nil => exact iff_of_false (by simp [atSegment]) (nil_notMem_single_mul _ _)
            | cons d rest =>
                rw [atSegment, Bool.and_eq_true, cons_mem_single_mul_iff,
                  inductionHypothesis rest.length (by simp) false rest rfl]
          · rw [if_neg separates, Bool.and_eq_true,
              inductionHypothesis rest.length (by simp) first rest rfl]
            simp only [separates, Bool.false_eq_true, false_and, false_or]

/-- The check finds the names, and the names with a line feed at the end. -/
theorem isTransformerName_iff {name : String} :
    isTransformerName name = true ↔ name.toList ∈ transformerNames * textEnd := by
  rw [isTransformerName, transformerNames_eq, mul_assoc]
  cases name.toList with
  | nil => exact iff_of_false (by simp [atSegment]) (nil_notMem_single_mul _ _)
  | cons c rest => rw [atSegment, Bool.and_eq_true, cons_mem_single_mul_iff, inSegment_iff]

/-! ## The check -/

/-- A text is accepted if and only if it has at most 1024 characters and is a name, or a name with a line
feed at its end. -/
theorem checkTransformer_eq_ok_iff {name : String} : checkTransformer (.text name) = .ok () ↔
    name.length ≤ longestTransformer ∧ name.toList ∈ transformerNames * textEnd := by
  rw [← isTransformerName_iff, checkTransformer]
  split
  next missing =>
    have empty : name = "" := by simpa [Value.isTruthy] using missing
    subst empty
    exact iff_of_false nofun fun accepted => Bool.false_ne_true accepted.2
  next =>
    split
    next long => exact iff_of_false nofun fun accepted => absurd accepted.1 (Nat.not_le.2 long)
    next short =>
      split
      next named => exact iff_of_true rfl ⟨Nat.not_lt.1 short, named⟩
      next unnamed => exact iff_of_false nofun fun accepted => unnamed accepted.2

/-- Whatever is not accepted is refused as invalid input. -/
theorem failsAs_checkTransformer (value : Value) :
    (checkTransformer value).FailsAs fun failure => failure.kind? = some .validation := by
  unfold checkTransformer
  split
  · exact Outcome.failsAs_error rfl
  · split
    · split
      · exact Outcome.failsAs_error rfl
      · split
        · exact Outcome.failsAs_ok ()
        · exact Outcome.failsAs_error rfl
    · exact Outcome.failsAs_error rfl

theorem single_mono {kind other : Char → Bool} (wider : ∀ c, kind c = true → other c = true) :
    single kind ≤ single other := by
  rintro _ ⟨c, holds, rfl⟩
  exact ⟨c, wider c holds, rfl⟩

theorem forall_of_mem_kstar_single {kind : Char → Bool} {text : List Char}
    (member : text ∈ (single kind)∗) : ∀ c ∈ text, kind c = true := by
  obtain ⟨pieces, rfl, each⟩ := Language.mem_kstar.1 member
  intro c among
  obtain ⟨piece, listed, inside⟩ := List.mem_flatten.1 among
  obtain ⟨d, holds, rfl⟩ := each piece listed
  exact List.mem_singleton.1 inside ▸ holds

/-- A name has no line feed. -/
theorem lineFeed_notMem_of_mem {text : List Char} (named : text ∈ transformerNames) : '\n' ∉ text := by
  have starts : single startsSegment ≤ (single (· != '\n'))∗ :=
    (single_mono fun c holds => bne_iff_ne.2 <| by rintro rfl; cases holds).trans le_kstar
  have separates : single isSeparator ≤ (single (· != '\n'))∗ :=
    (single_mono fun c holds => bne_iff_ne.2 <| by rintro rfl; cases holds).trans le_kstar
  have inner (first : Bool) : (single (isInner first))∗ ≤ (single (· != '\n'))∗ :=
    kstar_mono <| single_mono fun c holds => bne_iff_ne.2 <| by
      rintro rfl
      exact Bool.false_ne_true ((isInner_eq_false (.inr rfl) first).symm.trans holds)
  have segments (first : Bool) : segment first ≤ (single (· != '\n'))∗ :=
    (mul_le_mul' starts (inner first)).trans (kstar_mul_kstar _).le
  have further : (single isSeparator * segment false)∗ ≤ (single (· != '\n'))∗ :=
    (kstar_mono ((mul_le_mul' separates (segments false)).trans (kstar_mul_kstar _).le)).trans
      (kstar_idem _).le
  have whole : transformerNames ≤ (single (· != '\n'))∗ :=
    (mul_le_mul' (segments true) further).trans (kstar_mul_kstar _).le
  exact fun line => bne_iff_ne.1 (forall_of_mem_kstar_single (whole named) _ line) rfl

/-- Every shorter name is accepted with a line feed at its end, though it is no name then. -/
theorem checkTransformer_lineFeed {name : String} (named : name.toList ∈ transformerNames)
    (short : name.length < longestTransformer) :
    checkTransformer (.text (name ++ "\n")) = .ok () ∧ (name ++ "\n").toList ∉ transformerNames := by
  rw [checkTransformer_eq_ok_iff, String.toList_append, String.length_append]
  refine ⟨⟨short, Language.append_mem_mul named (.inr ⟨'\n', rfl, rfl⟩)⟩, fun lined => ?_⟩
  exact lineFeed_notMem_of_mem lined (List.mem_append_right _ (List.mem_singleton.2 rfl))

example : checkTransformer (.text "identity\n") = .ok () := by rfl

/-- Without a line feed at the end, a text of at most 1024 characters is accepted if and only if it is a
name. -/
theorem checkTransformer_of_unlined {name : String} (unlined : name.toList.getLast? ≠ some '\n') :
    checkTransformer (.text name) = .ok () ↔
      name.length ≤ longestTransformer ∧ name.toList ∈ transformerNames := by
  rw [checkTransformer_eq_ok_iff, textEnd, mul_add, mul_one, Language.mem_add, or_iff_left]
  rintro ⟨front, _, _, ⟨c, line, rfl⟩, whole⟩
  rw [← whole, eq_of_beq line] at unlined
  exact unlined List.getLast?_concat

end Config
end ClassLoom
