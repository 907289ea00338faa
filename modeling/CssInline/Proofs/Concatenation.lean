import CssInline.Placeholder.Substitution
import CssInline.Proofs.Codec
import Mathlib.Data.List.Induction

/-! What becomes of a string with placeholders in it. -/

namespace CssInline.Placeholder

open Code

/-- The text of a literal that is written from its value. -/
def literal? : Tree → Option (List Char)
  | .node (.string value none) _ => some value.toList
  | _ => none

/-! Sums -/

/-- The operands of a sum, from the left. -/
def summands : Tree → List Tree
  | .node (.binary "+") [left, right] => summands left ++ [right]
  | tree => [tree]

/-- A text as an operand, unless it is empty. -/
def textTerms (text : List Char) : List Tree :=
  if text.isEmpty then [] else [literalOf text]

/-- What an expression adds up, without the empty texts. -/
def termsOf : Tree → List Tree
  | .node .paren [sum] => (summands sum).filter fun tree => literal? tree ≠ some []
  | .node (.string value _) _ => textTerms value.toList
  | tree => [tree]

/-- Pairs of an interpolation and the text after it, as operands. -/
def operands : List Tree → List (List Char) → List Tree
  | hole :: holes, text :: texts => guarded hole :: textTerms text ++ operands holes texts
  | _, _ => []

/-- A first text, and after it such pairs. -/
def terms (first : List Char) (texts : List (List Char)) (holes : List Tree) : List Tree :=
  textTerms first ++ operands holes texts

/-- The sum of a first text and of such pairs. -/
def concatenation (first : List Char) (texts : List (List Char)) (holes : List Tree) : Tree :=
  .paren ((operands holes texts).foldl plus (literalOf first))

theorem summands_foldl (first : List Char) (rest : List Tree) :
    summands (rest.foldl plus (literalOf first)) = literalOf first :: rest := by
  induction rest using List.reverseRecOn with
  | nil => rfl
  | append_singleton rest last ih =>
    have sum : (rest ++ [last]).foldl plus (literalOf first) =
        plus (rest.foldl plus (literalOf first)) last := by
      rw [List.foldl_append]
      rfl
    rw [sum, plus, summands, ih, List.cons_append]

theorem literal?_guarded {hole : Tree} (written : literal? hole = none) :
    literal? (guarded hole) = none := by
  unfold guarded
  split
  · exact written
  · rfl

theorem literal?_operandOf {holes : List Tree} (written : ∀ hole ∈ holes, literal? hole = none)
    (piece : Piece) : literal? (operandOf holes piece) = piece.text? := by
  cases piece with
  | text value => simp [operandOf, literalOf, Tree.leaf, literal?, Piece.text?]
  | hole id =>
    cases found : holes[id]? with
    | none =>
      simp only [operandOf, found, Option.getD_none]
      rfl
    | some hole =>
      simp only [operandOf, found, Option.getD_some]
      exact literal?_guarded (written hole (List.mem_of_getElem? found))

theorem map_ofText (holes : List Tree) (text : List Char) :
    (Piece.ofText text).map (operandOf holes) = textTerms text := by
  unfold Piece.ofText textTerms
  split <;> rfl

/-- The pieces of a sum can be read off it again. -/
theorem termsOf_sumOf {holes : List Tree} (written : ∀ hole ∈ holes, literal? hole = none)
    {pieces : List Piece} (solid : ∀ piece ∈ pieces, piece ≠ .text []) :
    termsOf (.paren (sumOf holes pieces)) = pieces.map (operandOf holes) := by
  have kept : ∀ operand ∈ pieces.map (operandOf holes), literal? operand ≠ some [] := by
    intro operand member empty
    obtain ⟨piece, isPiece, same⟩ := List.mem_map.mp member
    rw [← same, literal?_operandOf written] at empty
    exact solid piece isPiece (Piece.text?_eq_some.mp empty)
  have all : (pieces.map (operandOf holes)).filter (fun tree => literal? tree ≠ some []) =
      pieces.map (operandOf holes) :=
    List.filter_eq_self.mpr fun operand member => decide_eq_true (kept operand member)
  have empty : literal? (literalOf []) = some [] := by simp [literal?, literalOf, Tree.leaf]
  have whole (sum : Tree) : termsOf (.paren sum) =
      (summands sum).filter fun tree => literal? tree ≠ some [] := rfl
  rw [whole]
  cases pieces with
  | nil =>
    have lone : summands (sumOf holes []) = [literalOf []] := summands_foldl [] []
    rw [lone, List.filter_cons_of_neg (by simp [empty])]
    rfl
  | cons piece pieces =>
    cases piece with
    | text value =>
      rw [sumOf, summands_foldl]
      exact all
    | hole id =>
      rw [sumOf, summands_foldl, List.filter_cons_of_neg (by simp [empty])]
      · exact all
      · nofun

/-! Interleaved texts -/

/-- The pieces after a text, starting with a placeholder. -/
def following (id : Nat) : List (List Char) → List Piece
  | [] => []
  | next :: texts => .hole id :: interleaved (id + 1) (next :: texts)

theorem interleaved_cons (id : Nat) (text : List Char) (texts : List (List Char)) :
    interleaved id (text :: texts) = Piece.ofText text ++ following id texts := by
  cases texts with
  | nil => exact (List.append_nil _).symm
  | cons next texts => rfl

theorem map_following {holes : List Tree} {id : Nat} {texts : List (List Char)}
    (numbered : id + texts.length = holes.length) :
    (following id texts).map (operandOf holes) = operands (holes.drop id) texts := by
  induction texts generalizing id with
  | nil => cases holes.drop id <;> rfl
  | cons text texts ih =>
    rw [List.length_cons] at numbered
    have small : id < holes.length := by omega
    have split : holes.drop id = holes[id] :: holes.drop (id + 1) := List.drop_eq_getElem_cons small
    rw [following, List.map_cons, interleaved_cons, List.map_append, ih (by omega), map_ofText,
      split, operands]
    simp [operandOf, small]

theorem map_interleaved {holes : List Tree} (first : List Char) {texts : List (List Char)}
    (same : texts.length = holes.length) :
    (interleaved 0 (first :: texts)).map (operandOf holes) = terms first texts holes := by
  have numbered : 0 + texts.length = holes.length := by rw [Nat.zero_add, same]
  have rest := map_following numbered
  rw [List.drop_zero] at rest
  rw [interleaved_cons, List.map_append, map_ofText, rest]
  rfl

theorem sumOf_interleaved {holes : List Tree} {first : List Char} {texts : List (List Char)}
    (same : texts.length = holes.length) :
    sumOf holes (interleaved 0 (first :: texts)) =
      (operands holes texts).foldl plus (literalOf first) := by
  have numbered : 0 + texts.length = holes.length := by rw [Nat.zero_add, same]
  have rest := map_following numbered
  rw [List.drop_zero] at rest
  rw [interleaved_cons, ← rest]
  cases first with
  | cons c first => rfl
  | nil => cases texts <;> rfl

variable {stem : List Char} {count : Nat}

theorem pieces_zero (nonempty : stem ≠ []) (pending text : List Char) :
    (pieces stem 0 pending text).any Piece.isHole = false := by
  have flushed (pending : List Char) : (flush pending).any Piece.isHole = false := by
    unfold flush
    split <;> rfl
  induction pending, text using split_induction 0 nonempty with
  | nil pending => exact flushed pending
  | hole pending taken ih => exact absurd (take?_eq_some.mp taken).2.2.1 (Nat.not_lt_zero _)
  | skip pending missing stripped ih => rwa [pieces_of_strip? nonempty missing stripped]
  | cons pending apart ih => rwa [pieces_cons apart]

/-- Where there is no placeholder, all of a text is one piece. -/
theorem pieces_of_no_hole (nonempty : stem ≠ []) (pending text : List Char)
    (noHole : (pieces stem count pending text).any Piece.isHole = false) :
    pieces stem count pending text = flush (text.reverse ++ pending) := by
  induction pending, text using split_induction count nonempty with
  | nil pending => rfl
  | hole pending taken ih =>
    rw [pieces_of_take? nonempty taken, List.any_append, List.any_cons] at noHole
    simp [Piece.isHole] at noHole
  | skip pending missing stripped ih =>
    rw [pieces_of_strip? nonempty missing stripped] at noHole ⊢
    rw [ih noHole, Text.eq_append_of_strip? stripped, List.reverse_append, List.append_assoc]
  | cons pending apart ih =>
    rw [pieces_cons apart] at noHole ⊢
    rw [ih noHole, List.reverse_cons, List.append_assoc, List.singleton_append]

theorem any_split_isHole (nonempty : stem ≠ []) (text : List Char) :
    (split stem count text).any Piece.isHole = (pieces stem count [] text).any Piece.isHole := by
  rw [split_eq nonempty]
  cases pieces stem count [] text <;> rfl

theorem split_of_hole (nonempty : stem ≠ []) {text : List Char}
    (found : (pieces stem count [] text).any Piece.isHole = true) :
    split stem count text = pieces stem count [] text := by
  rw [split_eq nonempty]
  cases split : pieces stem count [] text with
  | nil => rw [split] at found; cases found
  | cons first more => rfl

/-! Strings -/

section Strings

variable {holes : List Tree} {raw : Option String}

/-- A string in which there is a placeholder becomes a sum, and else nothing happens to it. -/
theorem substitute_string (nonempty : stem ≠ []) (value : List Char) :
    substitute stem holes (.leaf (.string (String.ofList value) raw)) =
      if (pieces stem holes.length [] value).any Piece.isHole then
        .paren (sumOf holes (pieces stem holes.length [] value))
      else .leaf (.string (String.ofList value) raw) := by
  cases holes with
  | nil =>
    rw [substitute_nil_holes, List.length_nil, pieces_zero nonempty,
      if_neg Bool.false_ne_true]
  | cons hole holes =>
    have notEmpty : (stem.isEmpty || (hole :: holes).isEmpty) = false := by simp [nonempty]
    rw [substitute, notEmpty, if_neg Bool.false_ne_true]
    cases found : (pieces stem (hole :: holes).length [] value).any Piece.isHole with
    | true =>
      have replaced : replacement? stem (hole :: holes) (.string (String.ofList value) raw) =
          some (.paren (sumOf (hole :: holes) (pieces stem (hole :: holes).length [] value))) := by
        simp only [replacement?, sum?, String.toList_ofList, split_of_hole nonempty found,
          found, if_true, Option.map_some]
      rw [if_pos rfl]
      exact fill_of_some replaced []
    | false =>
      have kept : replacement? stem (hole :: holes) (.string (String.ofList value) raw) = none := by
        simp only [replacement?, sum?, String.toList_ofList, any_split_isHole nonempty,
          found, Bool.false_eq_true, if_false, Option.map_none]
      rw [if_neg Bool.false_ne_true]
      exact fill_of_none kept []

/-- The pieces of a string are what becomes of it. -/
theorem termsOf_substitute_string (nonempty : stem ≠ [])
    (written : ∀ hole ∈ holes, literal? hole = none) (value : List Char) :
    termsOf (substitute stem holes (.leaf (.string (String.ofList value) raw))) =
      (pieces stem holes.length [] value).map (operandOf holes) := by
  rw [substitute_string nonempty]
  cases found : (pieces stem holes.length [] value).any Piece.isHole with
  | true => exact termsOf_sumOf written (pieces_solid nonempty [] value)
  | false =>
    have lone : termsOf (.leaf (.string (String.ofList value) raw)) = textTerms value :=
      congrArg textTerms String.toList_ofList
    rw [pieces_of_no_hole nonempty [] value found, flush_eq, map_ofText]
    simpa using lone

variable {first : List Char} {texts : List (List Char)}

/-- The string that is woven from `first` and `texts`. -/
def wovenString (stem first : List Char) (texts : List (List Char)) (raw : Option String) : Tree :=
  .leaf (.string (String.ofList (weave stem texts.length (first :: texts))) raw)

/-- Texts that are kept apart become the operands of a sum. -/
theorem substitute_wovenString (isStem : IsStem stem) (bounded : holes.length ≤ idBound)
    (same : texts.length = holes.length) (some : holes ≠ [])
    (clear : ∀ text ∈ first :: texts, ¬ stem <:+: text)
    (separated : areSeparated stem (first :: texts) = true) :
    substitute stem holes (wovenString stem first texts raw) = concatenation first texts holes := by
  have more : texts ≠ [] := by
    rintro rfl
    exact some (List.length_eq_zero_iff.mp same.symm)
  have numbered : 0 + (first :: texts).length = holes.length + 1 := by
    rw [List.length_cons, same, Nat.zero_add]
  have woven := pieces_weaveFrom isStem bounded numbered clear separated
  have found : (interleaved 0 (first :: texts)).any Piece.isHole = true := by
    rw [interleaved_cons, List.any_append]
    cases texts with
    | nil => exact absurd rfl more
    | cons next texts => simp [following, Piece.isHole]
  rw [wovenString, substitute_string isStem.nonempty, same, weave, woven, if_pos found,
    sumOf_interleaved same]
  rfl

/-- The texts and the interpolations come back, each at its place, just if the texts are kept
apart. -/
theorem termsOf_substitute_wovenString (isStem : IsStem stem) (bounded : holes.length ≤ idBound)
    (same : texts.length = holes.length) (written : ∀ hole ∈ holes, literal? hole = none)
    (clear : ∀ text ∈ first :: texts, ¬ stem <:+: text) :
    termsOf (substitute stem holes (wovenString stem first texts raw)) = terms first texts holes ↔
      areSeparated stem (first :: texts) = true := by
  have numbered : 0 + (first :: texts).length = holes.length + 1 := by
    rw [List.length_cons, same, Nat.zero_add]
  rw [wovenString, termsOf_substitute_string isStem.nonempty written, ← map_interleaved first same,
    same, weave]
  constructor
  · intro sameTerms
    cases mixed : areSeparated stem (first :: texts) with
    | true => rfl
    | false =>
      have sameShape := congrArg (List.map literal?) sameTerms
      simp only [List.map_map, Function.comp_def, literal?_operandOf written] at sameShape
      exact absurd sameShape (shape_ne_of_not_separated isStem bounded numbered clear mixed)
  · intro separated
    rw [pieces_weaveFrom isStem bounded numbered clear separated]

end Strings

end CssInline.Placeholder
