import CssInline.Proofs.Concatenation
import CssInline.Proofs.Splitting

/-! What the sum that stands for a string with placeholders evaluates to. -/

namespace CssInline.Placeholder

open Code

/-! Strings and numbers -/

/-- A character in UTF-16. -/
def codeUnits (c : Char) : List UInt16 :=
  if c.toNat < 0x10000 then [c.toNat.toUInt16]
  else
    [(0xD800 + (c.toNat - 0x10000) / 0x400).toUInt16,
      (0xDC00 + (c.toNat - 0x10000) % 0x400).toUInt16]

def utf16 (text : List Char) : List UInt16 :=
  text.flatMap codeUnits

/-- The numbers, as far as `+` sees them. -/
structure Arithmetic where
  Number : Type
  add : Number → Number → Number
  toText : Number → List UInt16

inductive Value (arithmetic : Arithmetic) where
  | text (units : List UInt16)
  | number (value : arithmetic.Number)

namespace Value

variable {arithmetic : Arithmetic}

def toText : Value arithmetic → List UInt16
  | .text units => units
  | .number value => arithmetic.toText value

/-- Two numbers are added, all else is concatenated. -/
def plus : Value arithmetic → Value arithmetic → Value arithmetic
  | .number left, .number right => .number (arithmetic.add left right)
  | left, right => .text (left.toText ++ right.toText)

theorem plus_text (units : List UInt16) :
    (text units : Value arithmetic).plus = fun right => text (units ++ right.toText) := rfl

end Value

/-! Evaluation -/

section Evaluation

variable {arithmetic : Arithmetic} {m : Type → Type} [Monad m]

/-- The value of an expression, its operands evaluated from the left. What evaluation reads and does
besides is up to the monad, and `meaning` gives the value of all that is no sum of strings. -/
def evaluate (meaning : Tree → m (Value arithmetic)) : Tree → m (Value arithmetic)
  | .node (.string value _) _ => pure (.text (utf16 value.toList))
  | .node .paren [inner] => evaluate meaning inner
  | .node (.binary "+") [left, right] => do
    let leftValue ← evaluate meaning left
    let rightValue ← evaluate meaning right
    return leftValue.plus rightValue
  | tree => meaning tree

/-- What a piece of a string stands for: a placeholder for its interpolation, as a string. -/
def written (meaning : Tree → m (Value arithmetic)) (holes : List Tree) :
    Piece → m (List UInt16)
  | .text value => pure (utf16 value)
  | .hole id => Value.toText <$> evaluate meaning (holes[id]?.getD .absent)

/-- A string with the interpolations, as strings, in the place of their placeholders. -/
def substitutedText (meaning : Tree → m (Value arithmetic)) (stem : List Char) (holes : List Tree)
    (value : List Char) : m (List UInt16) :=
  List.flatten <$> (split stem holes.length value).mapM (written meaning holes)

variable (meaning : Tree → m (Value arithmetic)) {stem : List Char} {holes : List Tree}

theorem evaluate_literalOf (value : List Char) :
    evaluate meaning (literalOf value) = pure (.text (utf16 value)) := by
  rw [literalOf, Tree.leaf, evaluate, String.toList_ofList]

theorem evaluate_guarded (tree : Tree) :
    evaluate meaning (guarded tree) = evaluate meaning tree := by
  unfold guarded
  split
  · rfl
  · rw [Tree.paren, evaluate]

variable [LawfulMonad m]

theorem toText_operandOf (piece : Piece) :
    Value.toText <$> evaluate meaning (operandOf holes piece) = written meaning holes piece := by
  cases piece with
  | text value => rw [operandOf, evaluate_literalOf, map_pure]; rfl
  | hole id => rw [operandOf, evaluate_guarded]; rfl

theorem evaluate_plus_of_text {left : Tree} {text : m (List UInt16)}
    (isText : evaluate meaning left = Value.text <$> text) (right : Tree) :
    evaluate meaning (plus left right) = Value.text <$> do
      let before ← text
      let after ← Value.toText <$> evaluate meaning right
      return before ++ after := by
  rw [plus, evaluate, isText]
  simp [Value.plus_text]

/-- What is added to a string is appended to it, one operand after the other. -/
theorem evaluate_foldl_plus {left : Tree} {text : m (List UInt16)}
    (isText : evaluate meaning left = Value.text <$> text) (pieces : List Piece) :
    evaluate meaning ((pieces.map (operandOf holes)).foldl plus left) = Value.text <$> do
      let before ← text
      let after ← pieces.mapM (written meaning holes)
      return before ++ after.flatten := by
  induction pieces generalizing left text with
  | nil => simpa using isText
  | cons piece pieces ih =>
    have longer := evaluate_plus_of_text meaning isText (operandOf holes piece)
    rw [toText_operandOf] at longer
    rw [List.map_cons, List.foldl_cons, ih longer, List.mapM_cons]
    simp

theorem evaluate_sum (first : List Char) (pieces : List Piece) :
    evaluate meaning ((pieces.map (operandOf holes)).foldl plus (literalOf first)) =
      .text <$> (utf16 first ++ ·.flatten) <$> pieces.mapM (written meaning holes) := by
  have isText : evaluate meaning (literalOf first) = Value.text <$> pure (utf16 first) := by
    rw [evaluate_literalOf, map_pure]
  rw [evaluate_foldl_plus meaning isText]
  simp

end Evaluation

/-! Sums for strings -/

/-- The string that a sum starts with: the first piece, or an empty one. -/
theorem exists_first (pieces : List Piece) :
    ∃ first rest, (pieces = .text first :: rest ∨ first = [] ∧ pieces = rest) ∧
      ∀ holes, sumOf holes pieces = (rest.map (operandOf holes)).foldl plus (literalOf first) := by
  cases pieces with
  | nil => exact ⟨[], [], .inr ⟨rfl, rfl⟩, fun _ => rfl⟩
  | cons piece pieces =>
    cases piece with
    | text value => exact ⟨value, pieces, .inl rfl, fun _ => rfl⟩
    | hole id => exact ⟨[], .hole id :: pieces, .inr ⟨rfl, rfl⟩, fun _ => rfl⟩

theorem nonempty_of_hole {stem : List Char} {count : Nat} {value : List Char}
    (found : (split stem count value).any Piece.isHole = true) : stem ≠ [] := by
  rintro rfl
  cases found

variable {arithmetic : Arithmetic} {m : Type → Type} [Monad m] [LawfulMonad m]

/-- The sum that a string becomes starts with a string, so that it has the value of the string with
the interpolations in the place of their placeholders, and none of the sums in it is a number. -/
theorem sum_evaluates_to_substituted_text (meaning : Tree → m (Value arithmetic))
    {stem : List Char} {holes : List Tree} {value : List Char}
    (found : (split stem holes.length value).any Piece.isHole = true) (raw : Option String) :
    ∃ first pieces,
      substitute stem holes (.leaf (.string (String.ofList value) raw)) =
          .paren ((pieces.map (operandOf holes)).foldl plus (literalOf first)) ∧
        (split stem holes.length value = .text first :: pieces ∨
          first = [] ∧ split stem holes.length value = pieces) ∧
        (split stem holes.length value).flatMap (Piece.spelled stem) = value ∧
        (∀ id, .hole id ∈ pieces → id < holes.length) ∧
        evaluate meaning (substitute stem holes (.leaf (.string (String.ofList value) raw))) =
          .text <$> substitutedText meaning stem holes value ∧
        ∀ earlier, earlier <+: pieces →
          evaluate meaning ((earlier.map (operandOf holes)).foldl plus (literalOf first)) =
            .text <$> (utf16 first ++ ·.flatten) <$> earlier.mapM (written meaning holes) := by
  have nonempty := nonempty_of_hole found
  have spelled : (pieces stem holes.length [] value).flatMap (Piece.spelled stem) = value :=
    flatMap_spelled_pieces nonempty [] value
  have numbered (id : Nat) : .hole id ∈ pieces stem holes.length [] value → id < holes.length :=
    lt_of_hole_mem_pieces nonempty [] value
  rw [any_split_isHole nonempty] at found
  rw [substitutedText, split_of_hole nonempty found, substitute_string nonempty, if_pos found]
  obtain ⟨first, rest, split, sum⟩ := exists_first (pieces stem holes.length [] value)
  rw [sum holes, Tree.paren, evaluate, evaluate_sum]
  refine ⟨first, rest, rfl, split, spelled, fun id member => numbered id ?_, ?_,
    fun earlier _ => evaluate_sum meaning first earlier⟩
  · cases split with
    | inl isText => rw [isText]; exact List.mem_cons_of_mem _ member
    | inr isHole => rwa [isHole.2]
  · cases split with
    | inl isText => rw [isText, List.mapM_cons]; simp [written]
    | inr isHole => rw [isHole.2, isHole.1]; rfl

/-- Numbers as long as they are small. -/
def smallNumbers : Arithmetic where
  Number := Nat
  add := Nat.add
  toText n := utf16 (Text.decimal n)

/-- `one` is 1, and all else is 2. -/
def oneOrTwo : Tree → Id (Value smallNumbers)
  | .node (.name "one") _ => .number (1 : Nat)
  | _ => .number (2 : Nat)

/-- Two numbers without a text before or between them are not added. -/
theorem adjacent_numbers_are_concatenated :
    (split "s".toList 2 "s0s1".toList).any Piece.isHole = true ∧
      evaluate oneOrTwo (substitute "s".toList [.leaf (.name "one"), .leaf (.name "two")]
        (.leaf (.string (String.ofList "s0s1".toList) none))) = .text (utf16 "12".toList) := by
  have found : (split "s".toList 2 "s0s1".toList).any Piece.isHole = true := by decide +kernel
  obtain ⟨_, _, _, _, _, _, value, _⟩ :=
    @sum_evaluates_to_substituted_text _ Id _ _ oneOrTwo _
      [.leaf (.name "one"), .leaf (.name "two")] _ found none
  refine ⟨found, value.trans ?_⟩
  have pieces : split "s".toList 2 "s0s1".toList = [.hole 0, .hole 1] := by decide +kernel
  have written : substitutedText oneOrTwo "s".toList [.leaf (.name "one"), .leaf (.name "two")]
      "s0s1".toList = utf16 "12".toList := by
    rw [substitutedText, List.length_cons, List.length_singleton, pieces]
    rfl
  rw [written]
  rfl

end CssInline.Placeholder
