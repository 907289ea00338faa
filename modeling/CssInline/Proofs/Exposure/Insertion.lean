import CssInline.Proofs.Codec
import CssInline.Proofs.Exposure.Step
import Mathlib.Logic.Relation

/-! What is exposed is the text that was there, with marks around the placeholders that stand in
template literals. -/

namespace CssInline.Placeholder

/-- What a piece is in the characters of a template literal. -/
def Piece.exposed (stem : List Char) : Piece → List Char
  | .text value => value
  | .hole id => '$' :: '{' :: name stem id ++ ['}']

/-- A step of the scanner over the text that is left: over a placeholder that is exposed, or over a
piece of other text. -/
inductive Moves (stem : List Char) (count : Nat) :
    Scanner × List Char → Scanner × List Char → Prop
  | expose {scanner next : Scanner} {text written after : List Char} :
      exposeAt? stem count scanner text = some (written, after, next) →
      Moves stem count (scanner, text) (next, after)
  | step {scanner : Scanner} {c : Char} {rest : List Char} :
      exposeAt? stem count scanner (c :: rest) = none →
      Moves stem count (scanner, c :: rest)
        ((scanner.step c rest).2.2, (scanner.step c rest).2.1)

/-- Whether the scanner gets from one place to another. -/
def Comes (stem : List Char) (count : Nat) :
    Scanner × List Char → Scanner × List Char → Prop :=
  Relation.ReflTransGen (Moves stem count)

/-- How a text is cut where placeholders are exposed in it: the pieces spell the text, the result
has marks around those that are placeholders, and these are the ones that the scanner meets in a
template literal. -/
structure IsCut (stem : List Char) (count : Nat) (scanner : Scanner) (text result : List Char)
    (pieces : List Piece) : Prop where
  spelled : pieces.flatMap (Piece.spelled stem) = text
  exposed : pieces.flatMap (Piece.exposed stem) = result
  met : ∀ ⦃earlier id later⦄, pieces = earlier ++ .hole id :: later →
    id < count ∧ ∃ inside : Scanner, inside.region = .template ∧
      Comes stem count (scanner, text)
        (inside, name stem id ++ later.flatMap (Piece.spelled stem))
  complete : ∀ ⦃inside rest id after⦄, Comes stem count (scanner, text) (inside, rest) →
    inside.region = .template → take? stem count rest = some (id, after) →
    ∃ earlier later, pieces = earlier ++ .hole id :: later ∧
      later.flatMap (Piece.spelled stem) = after

variable {stem : List Char} {count : Nat}

/-! Places of the scanner -/

theorem moves_unique {place first second : Scanner × List Char} (one : Moves stem count place first)
    (other : Moves stem count place second) : first = second := by
  cases one with
  | expose exposed =>
    cases other with
    | expose exposed' =>
      cases exposed.symm.trans exposed'
      rfl
    | step missing => cases exposed.symm.trans missing
  | step missing =>
    cases other with
    | expose exposed => cases exposed.symm.trans missing
    | step _ => rfl

theorem Comes.head {place next last : Scanner × List Char} (moves : Moves stem count place next)
    (comes : Comes stem count next last) : Comes stem count place last :=
  Relation.ReflTransGen.head moves comes

theorem Comes.cases_head {place next last : Scanner × List Char}
    (moves : Moves stem count place next) (comes : Comes stem count place last) :
    place = last ∨ Comes stem count next last := by
  cases Relation.ReflTransGen.cases_head comes with
  | inl same => exact .inl same
  | inr moved =>
    obtain ⟨middle, first, later⟩ := moved
    rw [moves_unique moves first]
    exact .inr later

/-! Pieces -/

namespace IsCut

variable {scanner next : Scanner} {text value after result : List Char} {pieces : List Piece}

theorem nil (isStem : IsStem stem) (scanner : Scanner) : IsCut stem count scanner [] [] [] where
  spelled := rfl
  exposed := rfl
  met := fun earlier _ _ whole => by cases earlier <;> cases whole
  complete := fun inside rest id after comes _ taken => by
    cases Relation.ReflTransGen.cases_head comes with
    | inl here =>
      cases here
      rw [take?_nil isStem.nonempty] at taken
      cases taken
    | inr moved =>
      obtain ⟨next, first, _⟩ := moved
      cases first with
      | expose exposed =>
        obtain ⟨_, taken, _⟩ := exposeAt?_eq_some.mp exposed
        rw [take?_nil isStem.nonempty] at taken
        cases taken

theorem passed (moves : Moves stem count (scanner, value ++ after) (next, after))
    (noHole : scanner.region = .template → take? stem count (value ++ after) = none)
    (cut : IsCut stem count next after result pieces) :
    IsCut stem count scanner (value ++ after) (value ++ result) (.text value :: pieces) where
  spelled := congrArg (value ++ ·) cut.spelled
  exposed := congrArg (value ++ ·) cut.exposed
  met := fun earlier id later whole => by
    cases earlier with
    | nil => cases whole
    | cons first earlier =>
      obtain ⟨small, inside, isTemplate, comes⟩ := cut.met (List.cons.inj whole).2
      exact ⟨small, inside, isTemplate, comes.head moves⟩
  complete := fun inside rest id after' comes isTemplate taken => by
    cases comes.cases_head moves with
    | inl here =>
      cases here
      rw [noHole isTemplate] at taken
      cases taken
    | inr later =>
      obtain ⟨earlier, behind, whole, spelled⟩ := cut.complete later isTemplate taken
      exact ⟨.text value :: earlier, behind, congrArg (Piece.text value :: ·) whole, spelled⟩

theorem hole {id : Nat} (taken : take? stem count text = some (id, after))
    (moves : Moves stem count (scanner, text) (next, after)) (inside : scanner.region = .template)
    (cut : IsCut stem count next after result pieces) :
    IsCut stem count scanner text ('$' :: '{' :: name stem id ++ '}' :: result)
      (.hole id :: pieces) where
  spelled := by
    rw [List.flatMap_cons, cut.spelled, (take?_eq_some.mp taken).1]
    rfl
  exposed := by
    rw [List.flatMap_cons, cut.exposed, Piece.exposed]
    simp
  met := fun earlier id' later whole => by
    cases earlier with
    | nil =>
      cases whole
      refine ⟨(take?_eq_some.mp taken).2.2.1, scanner, inside, ?_⟩
      rw [cut.spelled, ← (take?_eq_some.mp taken).1]
      exact .refl
    | cons first earlier =>
      obtain ⟨small, place, isTemplate, comes⟩ := cut.met (List.cons.inj whole).2
      exact ⟨small, place, isTemplate, comes.head moves⟩
  complete := fun place rest id' after' comes isTemplate taken' => by
    cases comes.cases_head moves with
    | inl here =>
      cases here
      cases taken.symm.trans taken'
      exact ⟨[], pieces, rfl, cut.spelled⟩
    | inr later =>
      obtain ⟨earlier, behind, whole, spelled⟩ := cut.complete later isTemplate taken'
      exact ⟨.hole id :: earlier, behind, congrArg (Piece.hole id :: ·) whole, spelled⟩

end IsCut

/-- From every place the rest of a text is cut in pieces. -/
theorem exists_isCut (count : Nat) (isStem : IsStem stem) (scanner : Scanner) (text : List Char) :
    ∃ pieces, IsCut stem count scanner text (exposing stem count scanner text) pieces := by
  induction size : text.length using Nat.strongRecOn generalizing scanner text with
  | ind length ih =>
    subst size
    cases text with
    | nil => exact ⟨[], .nil isStem scanner⟩
    | cons c rest =>
      -- A placeholder is passed over in code, and is a piece of its own in a template literal.
      cases exposed : exposeAt? stem count scanner (c :: rest) with
      | none =>
        have whole : (scanner.step c rest).1 ++ (scanner.step c rest).2.1 = c :: rest := by
          simp [Scanner.step]
        have shorter : (scanner.step c rest).2.1.length < (c :: rest).length := by
          rw [List.length_cons, Nat.lt_succ_iff]
          simp [Scanner.step]
        obtain ⟨pieces, cut⟩ := ih _ shorter (scanner.step c rest).2.2 _ rfl
        have moves := Moves.step exposed
        rw [exposing_of_missing isStem exposed]
        rw [← whole] at moves exposed ⊢
        refine ⟨_, cut.passed moves fun inside => ?_⟩
        cases taken : take? stem count _ with
        | none => rfl
        | some found =>
          simp [exposeAt?, taken, Scanner.exposed?, inside] at exposed
      | some found =>
        obtain ⟨written, after, next⟩ := found
        obtain ⟨id, taken, isWritten, rfl⟩ := exposeAt?_eq_some.mp exposed
        obtain ⟨pieces, cut⟩ := ih _ (length_of_take? isStem.nonempty taken) _ after rfl
        have moves := Moves.expose exposed
        have whole := (take?_eq_some.mp taken).1
        rw [exposing_of_exposed isStem taken isWritten]
        unfold Scanner.exposed? at isWritten
        split at isWritten
        · rename_i braces inside
          split at isWritten
          · cases isWritten
            rw [whole] at moves ⊢
            refine ⟨_, cut.passed moves fun isTemplate => ?_⟩
            rw [inside] at isTemplate
            cases isTemplate
          · cases isWritten
        · cases isWritten
        · rename_i inside
          cases isWritten
          have cutHere := cut.hole taken moves inside
          exact ⟨_, by simpa using cutHere⟩

theorem exposed_of_no_hole {pieces : List Piece} (noHole : ∀ id, .hole id ∉ pieces) :
    pieces.flatMap (Piece.exposed stem) = pieces.flatMap (Piece.spelled stem) := by
  refine congrArg List.flatten (List.map_congr_left fun piece member => ?_)
  cases piece with
  | text value => rfl
  | hole id => exact absurd member (noHole id)

theorem length_spelled_le (stem : List Char) (pieces : List Piece) :
    (pieces.flatMap (Piece.spelled stem)).length ≤
      (pieces.flatMap (Piece.exposed stem)).length := by
  induction pieces with
  | nil => exact Nat.le_refl 0
  | cons piece pieces ih =>
    cases piece <;>
      simp only [List.flatMap_cons, Piece.spelled, Piece.exposed, List.length_append,
        List.length_cons] <;>
      omega

/-- The marks around a placeholder make the text longer. -/
theorem length_spelled_lt (stem : List Char) {pieces : List Piece} {id : Nat}
    (member : .hole id ∈ pieces) :
    (pieces.flatMap (Piece.spelled stem)).length <
      (pieces.flatMap (Piece.exposed stem)).length := by
  obtain ⟨earlier, later, rfl⟩ := List.append_of_mem member
  have before := length_spelled_le stem earlier
  have behind := length_spelled_le stem later
  simp only [List.flatMap_append, List.flatMap_cons, Piece.spelled, Piece.exposed,
    List.length_append, List.length_cons]
  omega

/-- Exposing placeholders only inserts marks around some of them, which the scanner meets in
template literals, and around all that it meets there. Without interpolations there are none. -/
theorem exposure_only_inserts (code : List Char) (count : Nat) (output : List Char) :
    (∃ pieces, IsCut (freshStem code) count .start output (expose (freshStem code) count output)
      pieces) ∧ expose (freshStem code) 0 output = output := by
  have isStem := freshStem_isStem code
  refine ⟨exists_isCut count isStem .start output, ?_⟩
  obtain ⟨pieces, cut⟩ := exists_isCut 0 isStem .start output
  have noHole : ∀ id, .hole id ∉ pieces := by
    intro id member
    obtain ⟨earlier, later, whole⟩ := List.append_of_mem member
    exact Nat.not_lt_zero id (cut.met whole).1
  exact cut.exposed.symm.trans ((exposed_of_no_hole noHole).trans cut.spelled)

end CssInline.Placeholder
