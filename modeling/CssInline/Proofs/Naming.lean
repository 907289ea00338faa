import CssInline.Proofs.Placeholder

/-! Names of placeholders: the shortest stem that a text leaves free, and numbers that are read back
from whole names. -/

namespace CssInline.Placeholder

/-! Free stems -/

/-- A text with a longer stem in it has the shorter ones in it. -/
theorem longerStem_infix_of_le {code : List Char} {fewer more : Nat} (atMost : fewer ≤ more)
    (occurs : longerStem more <:+: code) : longerStem fewer <:+: code := by
  have starts : longerStem fewer <+: longerStem more := by
    refine (List.prefix_append_right_inj baseStem).mpr ⟨List.replicate (more - fewer) '_', ?_⟩
    rw [List.replicate_append_replicate, Nat.add_sub_cancel' atMost]
  exact starts.isInfix.trans occurs

/-- The search for a stem ends, after at most as many underscores as the text has characters, with
the shortest one that the text leaves free. More rounds change nothing, the stems that do occur are
those with fewer underscores, and neither the free one nor a placeholder named with it occurs. -/
theorem freshStem_is_shortest (code : List Char) :
    ∃ underscores ≤ code.length,
      (∀ rounds, lengthen code rounds baseStem = longerStem (min rounds underscores)) ∧
      freshStem code = longerStem underscores ∧
      (∀ other, longerStem other <:+: code ↔ other < underscores) ∧
      ¬ freshStem code <:+: code ∧ ∀ id, ¬ name (freshStem code) id <:+: code := by
  obtain ⟨underscores, short, searched, same, taken, absent⟩ := exists_longerStem code
  have free := freshStem_not_infix code
  refine ⟨underscores, short, searched, same, fun other => ⟨?_, taken other⟩, free, ?_⟩
  · intro occurs
    apply Nat.lt_of_not_le
    intro atLeast
    exact absent (longerStem_infix_of_le atLeast occurs)
  · intro id named
    exact free ((List.prefix_append _ _).isInfix.trans named)

/-! Numbers in names -/

variable {stem : List Char}

theorem index?_eq_some (nonempty : stem ≠ []) {identifier : List Char} {id : Nat} :
    index? stem identifier = some id ↔ identifier = name stem id ∧ id < idBound := by
  rw [index?, if_neg (by simpa using nonempty)]
  constructor
  · intro found
    obtain ⟨digits, stripped, read⟩ := Option.bind_eq_some_iff.mp found
    obtain ⟨number, small⟩ := readId?_eq_some.mp read
    exact ⟨by rw [Text.eq_append_of_strip? stripped, number, name], small⟩
  · rintro ⟨rfl, small⟩
    rw [name, Text.strip?_append, Option.bind_some]
    exact readId?_eq_some.mpr ⟨rfl, small⟩

/-- A name stands for a number if and only if it is the one that is written for that number, and
the number fits a machine word. A placeholder that takes up a whole text is found there if and only
if the text is its name and its number is among those in use. -/
theorem names_and_numbers_correspond (nonempty : stem ≠ []) (identifier : List Char) (id : Nat) :
    (index? stem identifier = some id ↔ identifier = name stem id ∧ id < idBound) ∧
      ∀ count, take? stem count identifier = some (id, []) ↔
        index? stem identifier = some id ∧ id < count := by
  refine ⟨index?_eq_some nonempty, fun count => ?_⟩
  rw [index?_eq_some nonempty, take?_eq_some, List.append_nil]
  constructor
  · rintro ⟨written, -, small, bounded⟩
    exact ⟨⟨written, bounded⟩, small⟩
  · rintro ⟨⟨written, bounded⟩, small⟩
    exact ⟨written, rfl, small, bounded⟩

/-- The largest number is read back behind a stem that ends with a digit. The number after it and
one with a leading zero are not. -/
theorem largest_number_is_read_back :
    ['p', '1'] ≠ [] ∧
      index? ['p', '1'] (name ['p', '1'] (idBound - 1)) = some (idBound - 1) ∧
      take? ['p', '1'] idBound (name ['p', '1'] (idBound - 1)) = some (idBound - 1, []) ∧
      index? ['p', '1'] (name ['p', '1'] idBound) ≠ some idBound ∧
      index? ['p', '1'] ['p', '1', '0', '7'] ≠ some 7 := by
  have nonempty : ['p', '1'] ≠ [] := List.cons_ne_nil _ _
  have small : idBound - 1 < idBound := Nat.sub_lt (by decide) (by decide)
  obtain ⟨whole, found⟩ := names_and_numbers_correspond nonempty (name ['p', '1'] (idBound - 1))
    (idBound - 1)
  have read := whole.mpr ⟨rfl, small⟩
  refine ⟨nonempty, read, (found idBound).mpr ⟨read, small⟩, fun tooLarge => ?_, fun padded => ?_⟩
  · exact Nat.lt_irrefl _ ((names_and_numbers_correspond nonempty _ _).1.mp tooLarge).2
  · have other : ['p', '1', '0', '7'] ≠ name ['p', '1'] 7 := by decide
    exact other ((names_and_numbers_correspond nonempty _ _).1.mp padded).1

end CssInline.Placeholder
