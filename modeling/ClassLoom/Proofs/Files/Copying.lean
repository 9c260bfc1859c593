import ClassLoom.Files.Guarded
import ClassLoom.Zip.Archive

namespace ClassLoom
namespace Files

/-!
# Copying a source

A source is asked for a number of octets again and again, and answers as it likes: less than it was
asked for wherever a piece of its content ends, and nothing at its end.  Only an answer without octets
ends the copying.  So there is a copy if and only if the source ends, and the target then holds what it
held before and all that was answered, in that order.

A stream whose content is at hand is such a source.  The parts of an entry of an archive are those of a
stream too, so they may be copied as a list.
-/

/-- Parts are copied as what they are together. -/
theorem copyStream_eq (parts : List Bytes) (target : Bytes) :
    copyStream parts target = (parts.flatten.length, target ++ parts.flatten) := by
  have step : ∀ copied : Nat × Bytes, parts.foldl (fun copied part =>
      (copied.1 + part.length, copied.2 ++ part)) copied =
        (copied.1 + parts.flatten.length, copied.2 ++ parts.flatten) := by
    induction parts with
    | nil => simp
    | cons part rest inductionHypothesis =>
        intro copied
        rw [List.foldl_cons, inductionHypothesis, List.flatten_cons, List.length_append, Nat.add_assoc,
          List.append_assoc]
  exact (step (0, target)).trans (by rw [Nat.zero_add])

namespace Source

variable {σ : Type} {source : Source σ} {width : Int} {parts : List Bytes} {content target : Bytes}

/-- The parts that a source answers until it answers nothing; they may be of any length but zero. -/
inductive Delivers (width : Int) : Source σ → List Bytes → Prop
  | ended {source : Source σ} (last : (source.next width).1 = []) : Delivers width source []
  | part {source rest : Source σ} {part : Bytes} {parts : List Bytes}
      (first : source.next width = (part, rest)) (filled : part ≠ [])
      (later : Delivers width rest parts) : Delivers width source (part :: parts)

/-! ## The loop -/

theorem copyRest_of_ended (last : (source.next width).1 = []) (copied : Nat × Bytes) :
    source.copyRest width copied = some copied := by
  rw [copyRest]
  rcases answered : source.next width with ⟨part, rest⟩
  rw [answered] at last
  obtain rfl : part = [] := last
  rfl

theorem copyRest_of_part {rest : Source σ} {part : Bytes} (first : source.next width = (part, rest))
    (filled : part ≠ []) (copied : Nat × Bytes) :
    source.copyRest width copied =
      rest.copyRest width (copied.1 + part.length, copied.2 ++ part) := by
  have some : part.isEmpty = false := by simpa using filled
  rw [copyRest, first]
  simp only [some, Bool.false_eq_true, if_false]

/-- The invariant of the loop: what is still to be delivered comes behind what has been copied. -/
theorem copyRest_of_delivers (delivers : source.Delivers width parts) (copied : Nat × Bytes) :
    source.copyRest width copied =
      some (copied.1 + parts.flatten.length, copied.2 ++ parts.flatten) := by
  induction delivers generalizing copied with
  | ended last =>
      rw [copyRest_of_ended last, List.flatten_nil, List.append_nil]
      rfl
  | part first filled _ inductionHypothesis =>
      rw [copyRest_of_part first filled, inductionHypothesis, List.flatten_cons, List.length_append,
        Nat.add_assoc, List.append_assoc]

/-- Copying comes to an end at the end of the source only. -/
theorem exists_delivers_of_copyRest {copied result : Nat × Bytes}
    (done : source.copyRest width copied = some result) : ∃ parts, source.Delivers width parts := by
  refine copyRest.partial_correctness width (fun source _ _ => ∃ parts, source.Delivers width parts)
    ?_ source copied result done
  -- Of the further rounds, `loop`, nothing is known but that they end at the end of a source only.
  intro loop inductionHypothesis source copied result done
  rcases answered : source.next width with ⟨part, rest⟩
  rw [answered] at done
  by_cases filled : part = []
  · exact ⟨[], .ended (by rw [answered, filled])⟩
  · have some : part.isEmpty = false := by simpa using filled
    simp only [some, Bool.false_eq_true, if_false] at done
    obtain ⟨parts, later⟩ := inductionHypothesis rest _ result done
    exact ⟨part :: parts, .part answered filled later⟩

/-- Copying a source is copying the list of the parts that it delivers. -/
theorem copyTo_eq_copyStream (delivers : source.Delivers width parts) (target : Bytes) :
    source.copyTo width target = some (copyStream parts target) := by
  rw [copyTo, copyRest_of_delivers delivers, copyStream_eq, Nat.zero_add]

/-- Exactly the sources that do not end have no copy. -/
theorem copyTo_eq_none_iff :
    source.copyTo width target = none ↔ ∀ parts, ¬source.Delivers width parts := by
  constructor
  · intro endless parts delivers
    rw [copyTo, copyRest_of_delivers delivers] at endless
    cases endless
  · intro undelivered
    cases copied : source.copyTo width target with
    | none => rfl
    | some result =>
        obtain ⟨parts, delivers⟩ := exists_delivers_of_copyRest copied
        exact absurd delivers (undelivered parts)

/-- A source that ends is copied whole and in its order, behind what the target held, and the number of
its octets is answered.  It does not matter how many it was asked for, nor how it divided them. -/
theorem copyTo_of_delivers (delivers : source.Delivers width parts)
    (whole : parts.flatten = content) (target : Bytes) :
    source.copyTo width target = some (content.length, target ++ content) := by
  rw [copyTo, copyRest_of_delivers delivers, whole, Nat.zero_add]

/-- A source that has its content in pieces; no answer goes beyond the end of a piece. -/
def ofPieces (pieces : List Bytes) : Source (List Bytes) where
  state := pieces
  read width
    | [] => ([], [])
    | piece :: pieces =>
      if piece.length ≤ width then (piece, pieces)
      else (piece.take width.toNat, piece.drop width.toNat :: pieces)

/-- Three octets and one, read two at a time. -/
theorem copyTo_ofPieces :
    (ofPieces [[1, 2, 3], [4]]).Delivers 2 [[1, 2], [3], [4]] ∧
      ([[1, 2], [3], [4]] : List Bytes).flatten = [1, 2, 3, 4] ∧
      (ofPieces [[1, 2, 3], [4]]).copyTo 2 [0] = some (4, [0, 1, 2, 3, 4]) := by
  have delivers : (ofPieces [[1, 2, 3], [4]]).Delivers 2 [[1, 2], [3], [4]] := by
    refine .part rfl (by decide) ?_
    refine .part rfl (by decide) ?_
    refine .part rfl (by decide) ?_
    exact .ended rfl
  exact ⟨delivers, rfl, copyTo_of_delivers delivers rfl [0]⟩

/-! ## Streams at hand -/

theorem next_ofBytes_of_neg (negative : width < 0) (content : Bytes) :
    (ofBytes content).next width = (content, ofBytes []) := by
  simp only [next, ofBytes, if_pos negative]

theorem next_ofBytes (width : Nat) (content : Bytes) :
    (ofBytes content).next width = (content.take width, ofBytes (content.drop width)) := by
  have known : ¬(width : Int) < 0 := by omega
  simp only [next, ofBytes, if_neg known, Int.toNat_natCast]

theorem delivers_go {width fuel : Nat} (positive : 0 < width) (enough : content.length < fuel) :
    (ofBytes content).Delivers width (streamParts.go width fuel content) := by
  induction fuel generalizing content with
  | zero => omega
  | succ fuel inductionHypothesis =>
      rw [streamParts.go]
      by_cases empty : content = []
      · rw [if_pos (by simpa using empty)]
        exact .ended (by rw [next_ofBytes, empty, List.take_nil])
      · have some : 0 < content.length := List.length_pos_iff.2 empty
        rw [if_neg (by simpa using empty)]
        refine .part (next_ofBytes width content) ?_ (inductionHypothesis ?_)
        · rw [← List.length_pos_iff, List.length_take]
          omega
        · rw [List.length_drop]
          omega

theorem delivers_streamParts (width : Int) (content : Bytes) :
    (ofBytes content).Delivers width (streamParts width content) := by
  unfold streamParts
  split
  next zero => exact .ended (by rw [zero, ← Int.natCast_zero, next_ofBytes, List.take_zero])
  next nonzero =>
    split
    next negative =>
      have answered := next_ofBytes_of_neg negative content
      by_cases empty : content = []
      · rw [if_pos (by simpa using empty)]
        exact .ended (by rw [answered, empty])
      · rw [if_neg (by simpa using empty)]
        exact .part answered empty (.ended (by rw [next_ofBytes_of_neg negative]))
    next =>
      have delivers : (ofBytes content).Delivers width.toNat
          (streamParts.go width.toNat (content.length + 1) content) :=
        delivers_go (by omega) (by omega)
      rwa [Int.toNat_of_nonneg (by omega)] at delivers

theorem flatten_go {width fuel : Nat} (positive : 0 < width) (enough : content.length < fuel) :
    (streamParts.go width fuel content).flatten = content := by
  induction fuel generalizing content with
  | zero => omega
  | succ fuel inductionHypothesis =>
      rw [streamParts.go]
      split
      next empty => simpa using empty
      next filled =>
        have some : 0 < content.length := List.length_pos_iff.2 (by simpa using filled)
        rw [List.flatten_cons, inductionHypothesis (by rw [List.length_drop]; omega)]
        exact List.take_append_drop width content

/-- A stream is read whole, unless it is asked for nothing. -/
theorem flatten_streamParts (nonzero : width ≠ 0) (content : Bytes) :
    (streamParts width content).flatten = content := by
  rw [streamParts, if_neg nonzero]
  split
  · by_cases empty : content = []
    · rw [empty]
      rfl
    · rw [if_neg (by simpa using empty)]
      exact List.append_nil content
  · exact flatten_go (by omega) (by omega)

/-- The copy of a stream does not show how it was read. -/
theorem copyTo_ofBytes (nonzero : width ≠ 0) (content target : Bytes) :
    (ofBytes content).copyTo width target = some (content.length, target ++ content) := by
  rw [copyTo_eq_copyStream (delivers_streamParts width content), copyStream_eq,
    flatten_streamParts nonzero]

end Source

/-! ## Entries of an archive -/

section Entries

variable {width fuel : Nat} {parts : List Bytes} {content : Bytes}

/-- An entry is divided as a stream with its content is. -/
theorem chunks_eq_go (width fuel : Nat) (content : Bytes) :
    Zip.Member.readParts.chunks width fuel content = streamParts.go width fuel content := by
  induction fuel generalizing content with
  | zero => rfl
  | succ fuel inductionHypothesis =>
      rw [Zip.Member.readParts.chunks, streamParts.go, inductionHypothesis]

theorem flatten_chunks (positive : 0 < width) (enough : content.length < fuel) :
    (Zip.Member.readParts.chunks width fuel content).flatten = content := by
  rw [chunks_eq_go, Source.flatten_go positive enough]

theorem delivers_chunks (positive : 0 < width) (enough : content.length < fuel) :
    (Source.ofBytes (Zip.Member.readParts.chunks width fuel content).flatten).Delivers width
      (Zip.Member.readParts.chunks width fuel content) := by
  rw [flatten_chunks positive enough, chunks_eq_go]
  exact Source.delivers_go positive enough

/-- The parts of an entry, up to where it breaks if it does, are those of a stream that holds as much. -/
theorem delivers_readParts {member : Zip.Member} {bytes : Bytes} {stop : Option Zip.ReadError}
    (positive : 0 < width) (done : member.readParts width bytes = .ok (parts, stop)) :
    (Source.ofBytes parts.flatten).Delivers width parts := by
  unfold Zip.Member.readParts at done
  cases located : member.locate bytes with
  | error error =>
      rw [located] at done
      cases done
  | ok packed =>
      rw [located] at done
      rcases unpacked : member.unpack packed with ⟨data, _ | error⟩
      · simp only [bind, Except.bind, unpacked] at done
        obtain ⟨rfl, _⟩ := Prod.mk.inj (Except.ok.inj done)
        exact delivers_chunks positive (Nat.lt_succ_self _)
      · simp only [bind, Except.bind, unpacked] at done
        obtain ⟨rfl, _⟩ := Prod.mk.inj (Except.ok.inj done)
        exact delivers_chunks positive (Nat.lt_succ_of_le (List.length_take_le' _ _))

/-- What is copied of an entry is a copy of such a stream. -/
theorem copyTo_of_readParts {member : Zip.Member} {bytes : Bytes} {stop : Option Zip.ReadError}
    (positive : 0 < width) (done : member.readParts width bytes = .ok (parts, stop)) (target : Bytes) :
    (Source.ofBytes parts.flatten).copyTo width target = some (copyStream parts target) :=
  Source.copyTo_eq_copyStream (delivers_readParts positive done) target

end Entries

end Files
end ClassLoom
