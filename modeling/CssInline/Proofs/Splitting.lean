import CssInline.Proofs.Codec
import Mathlib.Data.List.Chain

/-! What is kept of a text that is split at its placeholders. -/

namespace CssInline.Placeholder

/-- What the pieces of a text are like: each text among them ends at a placeholder or at the end,
and none of them is empty but the piece of an empty text. -/
structure IsNormal (count : Nat) (text : List Char) (pieces : List Piece) : Prop where
  nonempty : pieces ≠ []
  numbered : ∀ id, .hole id ∈ pieces → id < count
  alternates : pieces.IsChain fun piece next => piece.isHole ∨ next.isHole
  solid : .text [] ∈ pieces → text = []

variable {stem : List Char} {count : Nat}

theorem flatMap_spelled_flush (stem pending : List Char) :
    (flush pending).flatMap (Piece.spelled stem) = pending.reverse := by
  cases pending with
  | nil => rfl
  | cons c pending => simp [flush, Piece.spelled]

theorem not_hole_mem_flush (pending : List Char) (id : Nat) : .hole id ∉ flush pending := by
  cases pending with
  | nil => exact List.not_mem_nil
  | cons c pending => simp [flush]

theorem flatMap_spelled_pieces (nonempty : stem ≠ []) (pending text : List Char) :
    (pieces stem count pending text).flatMap (Piece.spelled stem) = pending.reverse ++ text := by
  induction pending, text using split_induction count nonempty with
  | nil pending => rw [pieces_nil, flatMap_spelled_flush, List.append_nil]
  | hole pending taken ih =>
    rw [pieces_of_take? nonempty taken, List.flatMap_append, flatMap_spelled_flush,
      List.flatMap_cons, ih, (take?_eq_some.mp taken).1]
    rfl
  | skip pending missing stripped ih =>
    rw [pieces_of_strip? nonempty missing stripped, ih, List.reverse_append, List.reverse_reverse,
      List.append_assoc, ← Text.eq_append_of_strip? stripped]
  | cons pending apart ih =>
    rw [pieces_cons apart, ih, List.reverse_cons, List.append_assoc, List.singleton_append]

theorem lt_of_hole_mem_pieces (nonempty : stem ≠ []) (pending text : List Char) {id : Nat}
    (member : .hole id ∈ pieces stem count pending text) : id < count := by
  induction pending, text using split_induction count nonempty with
  | nil pending => exact absurd member (not_hole_mem_flush pending id)
  | hole pending taken ih =>
    rw [pieces_of_take? nonempty taken] at member
    cases List.mem_append.mp member with
    | inl earlier => exact absurd earlier (not_hole_mem_flush pending id)
    | inr later =>
      cases List.mem_cons.mp later with
      | inl same => exact Piece.hole.inj same ▸ (take?_eq_some.mp taken).2.2.1
      | inr more => exact ih more
  | skip pending missing stripped ih =>
    rw [pieces_of_strip? nonempty missing stripped] at member
    exact ih member
  | cons pending apart ih =>
    rw [pieces_cons apart] at member
    exact ih member

/-- A text is only written where a placeholder, or the end, comes next. -/
theorem isChain_pieces (nonempty : stem ≠ []) (pending text : List Char) :
    (pieces stem count pending text).IsChain fun piece next => piece.isHole ∨ next.isHole := by
  induction pending, text using split_induction count nonempty with
  | nil pending =>
    cases pending with
    | nil => exact .nil
    | cons c pending => exact .singleton _
  | @hole pending _ id _ taken ih =>
    rw [pieces_of_take? nonempty taken]
    have fromHole := List.isChain_cons.mpr ⟨fun next _ => .inl (rfl : (Piece.hole id).isHole), ih⟩
    cases pending with
    | nil => exact fromHole
    | cons c pending => exact .cons_cons (.inr rfl) fromHole
  | skip pending missing stripped ih => rwa [pieces_of_strip? nonempty missing stripped]
  | cons pending apart ih => rwa [pieces_cons apart]

theorem orEmpty_eq_of_ne_nil {pieces : List Piece} (nonempty : pieces ≠ []) :
    orEmpty pieces = pieces := by
  simp [orEmpty, nonempty]

/-- A split loses nothing, and gives a normal form. -/
theorem split_keeps_text_in_normal_form (nonempty : stem ≠ []) (count : Nat) (text : List Char) :
    (split stem count text).flatMap (Piece.spelled stem) = text ∧
      IsNormal count text (split stem count text) := by
  have spelled : (pieces stem count [] text).flatMap (Piece.spelled stem) = text :=
    flatMap_spelled_pieces nonempty [] text
  rw [split_eq nonempty]
  by_cases none : pieces stem count [] text = []
  · have empty : text = [] := by rw [← spelled, none]; rfl
    rw [none, empty]
    exact ⟨rfl, by simp [orEmpty], by simp [orEmpty], .singleton _, fun _ => rfl⟩
  · rw [orEmpty_eq_of_ne_nil none]
    exact ⟨spelled, none, fun id => lt_of_hole_mem_pieces nonempty [] text,
      isChain_pieces nonempty [] text,
      fun member => absurd rfl (pieces_solid nonempty [] text _ member)⟩

/-- A stem without a number, a number too large and a number with a zero before it stay text. -/
theorem split_keeps_stems_without_number :
    "ab".toList ≠ [] ∧
      split "ab".toList 2 "aab1abab2ab01ab0".toList =
        [.text ['a'], .hole 1, .text "abab2ab01".toList, .hole 0] ∧
      (split "ab".toList 2 "aab1abab2ab01ab0".toList).flatMap (Piece.spelled "ab".toList) =
        "aab1abab2ab01ab0".toList ∧
      IsNormal 2 "aab1abab2ab01ab0".toList (split "ab".toList 2 "aab1abab2ab01ab0".toList) :=
  ⟨by decide, by decide +kernel,
    split_keeps_text_in_normal_form (by decide) 2 "aab1abab2ab01ab0".toList⟩

end CssInline.Placeholder
