import CssInline.Proofs.Codec

/-! Which texts come back from the placeholders that are put between them. -/

namespace CssInline.Placeholder

/-- Whether `passed` is what comes before a placeholder that is put between two texts. -/
def IsBetween (stem : List Char) (count id : Nat) (texts : List (List Char))
    (passed : List Char) : Prop :=
  ∃ earlier text next later, texts = earlier ++ text :: next :: later ∧
    passed = weaveFrom stem count id earlier ++ text

/-- Whether the stem starts in woven texts only where a placeholder was put between two of them. -/
def StartsBetween (stem : List Char) (count id : Nat) (texts : List (List Char)) : Prop :=
  ∀ passed rest, weaveFrom stem count id texts = passed ++ (stem ++ rest) →
    IsBetween stem count id texts passed

variable {stem : List Char} {count : Nat}

/-! Pieces of which there is always one -/

theorem orEmpty_inj {first second : List Piece} (solid : .text [] ∉ first)
    (solid' : .text [] ∉ second) : orEmpty first = orEmpty second ↔ first = second := by
  refine ⟨fun same => ?_, congrArg orEmpty⟩
  cases first with
  | nil =>
    cases second with
    | nil => rfl
    | cons piece pieces =>
      cases same
      exact absurd List.mem_cons_self solid'
  | cons piece pieces =>
    cases second with
    | nil =>
      cases same
      exact absurd List.mem_cons_self solid
    | cons piece' pieces' => exact same

theorem ofText_solid (text : List Char) : .text [] ∉ Piece.ofText text := by
  cases text with
  | nil => exact List.not_mem_nil
  | cons c text =>
    intro member
    cases List.mem_singleton.mp member

theorem interleaved_solid (id : Nat) (texts : List (List Char)) :
    .text [] ∉ interleaved id texts := by
  induction texts generalizing id with
  | nil => exact List.not_mem_nil
  | cons text texts ih =>
    cases texts with
    | nil => exact ofText_solid text
    | cons next texts =>
      intro member
      cases List.mem_append.mp member with
      | inl inText => exact ofText_solid text inText
      | inr behind =>
        cases List.mem_cons.mp behind with
        | inl isHole => cases isHole
        | inr later => exact ih (id + 1) later

/-! Where the stem starts -/

theorem not_isBetween_singleton (id : Nat) (text passed : List Char) :
    ¬ IsBetween stem count id [text] passed := by
  rintro ⟨earlier, _, _, later, order, _⟩
  have length := congrArg List.length order
  simp only [List.length_nil, List.length_append, List.length_cons] at length
  omega

/-- The places between the texts are that after the first one and those between the others. -/
theorem isBetween_cons {id : Nat} (more : id < count) {text next : List Char}
    {later : List (List Char)} {passed : List Char} :
    IsBetween stem count id (text :: next :: later) passed ↔
      passed = text ∨ ∃ inner, passed = text ++ (name stem id ++ inner) ∧
        IsBetween stem count (id + 1) (next :: later) inner := by
  constructor
  · rintro ⟨earlier, text', next', later', order, before⟩
    cases earlier with
    | nil =>
      cases order
      exact .inl before
    | cons first earlier =>
      obtain ⟨rfl, others⟩ := List.cons.inj order
      rw [weaveFrom_cons more, List.append_assoc, List.append_assoc] at before
      exact .inr ⟨_, before, earlier, text', next', later', others, rfl⟩
  · rintro (rfl | ⟨inner, rfl, earlier, text', next', later', order, rfl⟩)
    · exact ⟨[], passed, next, later, rfl, rfl⟩
    · refine ⟨text :: earlier, text', next', later', by rw [order, List.cons_append], ?_⟩
      rw [weaveFrom_cons more, List.append_assoc, List.append_assoc]

theorem startsBetween_singleton {id : Nat} (last : ¬ id < count) (text : List Char) :
    StartsBetween stem count id [text] ↔ ¬ stem <:+: text := by
  have alone : weaveFrom stem count id [text] = text := weaveFrom_singleton last text
  constructor
  · rintro between ⟨passed, rest, inside⟩
    rw [List.append_assoc] at inside
    exact not_isBetween_singleton id text passed (between passed rest (alone.trans inside.symm))
  · intro clear passed rest whole
    refine absurd ⟨passed, rest, ?_⟩ clear
    rw [List.append_assoc, ← whole, alone]

/-- An overlap is a start of the stem before the end of the text. -/
theorem exists_start_of_overlaps (isStem : IsStem stem) {text : List Char}
    (runs : overlaps stem text = true) (after : List Char) :
    ∃ passed rest, text ++ (stem ++ after) = passed ++ (stem ++ rest) ∧
      passed.length < text.length := by
  obtain ⟨passed, rest, inside⟩ := Text.occurs_eq_true.mp runs
  have positive := isStem.length_pos
  have length := congrArg List.length inside
  simp only [List.length_append, List.length_dropLast] at length
  refine ⟨passed, rest ++ stem.getLast isStem.nonempty :: after, ?_, by omega⟩
  have whole : stem ++ after = stem.dropLast ++ stem.getLast isStem.nonempty :: after := by
    rw [List.append_cons, List.dropLast_concat_getLast]
  rw [whole, ← List.append_assoc text, ← inside]
  simp only [List.append_assoc]

/-- The stem starts only between texts just if it cannot start in the first one, and so for the
others. -/
theorem startsBetween_cons (isStem : IsStem stem) {id : Nat} {text next : List Char}
    {later : List (List Char)} (more : id < count) :
    StartsBetween stem count id (text :: next :: later) ↔
      overlaps stem text = false ∧ StartsBetween stem count (id + 1) (next :: later) := by
  have woven : weaveFrom stem count id (text :: next :: later) =
      text ++ (name stem id ++ weaveFrom stem count (id + 1) (next :: later)) :=
    weaveFrom_cons more text (next :: later)
  have nonempty := isStem.length_pos
  constructor
  · intro between
    constructor
    -- An overlap would be a start of the stem inside the first text.
    · rw [← Bool.not_eq_true]
      intro runs
      obtain ⟨passed, rest, start, shorter⟩ := exists_start_of_overlaps isStem runs
        (Text.decimal id ++ weaveFrom stem count (id + 1) (next :: later))
      rw [← List.append_assoc stem, ← name, ← woven] at start
      rcases (isBetween_cons more).mp (between passed rest start) with same | ⟨inner, same, _⟩
      · rw [same] at shorter
        exact Nat.lt_irrefl _ shorter
      · rw [same, List.length_append] at shorter
        omega
    · intro passed rest whole
      have start : weaveFrom stem count id (text :: next :: later) =
          (text ++ (name stem id ++ passed)) ++ (stem ++ rest) := by
        rw [woven, whole]
        simp only [List.append_assoc]
      rcases (isBetween_cons more).mp (between _ rest start) with same | ⟨inner, same, inOthers⟩
      · have length := congrArg List.length same
        simp only [name, List.length_append] at length
        omega
      · rw [List.append_cancel_left (List.append_cancel_left same)]
        exact inOthers
  · rintro ⟨clear, between⟩ passed rest whole
    rw [woven] at whole
    have outside : ∀ left, left ≠ [] → text = passed ++ left →
        stem ++ rest ≠ left ++
          (name stem id ++ weaveFrom stem count (id + 1) (next :: later)) := by
      intro left going split same
      rw [name, List.append_assoc] at same
      exact not_prefix_of_not_overlaps isStem clear split going _ ⟨rest, same⟩
    rcases place_of_starts isStem whole (List.prefix_append stem rest) outside with
      ⟨same, _⟩ | ⟨inner, same, inOthers⟩
    · exact (isBetween_cons more).mpr (.inl same)
    · exact (isBetween_cons more).mpr (.inr ⟨inner, same, between inner rest inOthers⟩)

theorem overlaps_of_inside {text : List Char} (inside : stem <:+: text) :
    overlaps stem text = true :=
  Text.occurs_eq_true.mpr (inside.trans (List.prefix_append text stem.dropLast).isInfix)

/-- What it takes that the stem starts only between texts, for each of them and up to the last. -/
theorem clear_and_separated (isStem : IsStem stem) {id : Nat} {texts : List (List Char)}
    (numbered : id + texts.length = count + 1) (between : StartsBetween stem count id texts) :
    (∀ text ∈ texts, ¬ stem <:+: text) ∧
      (areSeparated stem texts = true ↔
        ∀ text ∈ texts.tail, text.head?.any Char.isDigit = false) := by
  induction texts generalizing id with
  | nil => exact ⟨fun _ => List.not_mem_nil.elim, by simp [areSeparated]⟩
  | cons text texts ih =>
    cases texts with
    | nil =>
      have clear := (startsBetween_singleton (not_lt_of_numbered numbered) text).mp between
      refine ⟨fun other member => ?_, by simp [areSeparated]⟩
      rw [List.mem_singleton.mp member]
      exact clear
    | cons next later =>
      obtain ⟨noOverlap, betweenOthers⟩ :=
        (startsBetween_cons isStem (lt_of_numbered numbered)).mp between
      obtain ⟨clear, separated⟩ := ih (numbered_tail numbered) betweenOthers
      constructor
      · intro other member
        cases List.mem_cons.mp member with
        | inl first =>
          rw [first]
          intro inside
          rw [overlaps_of_inside inside] at noOverlap
          cases noOverlap
        | inr others => exact clear other others
      · rw [List.tail_cons] at separated ⊢
        simp only [areSeparated, noOverlap, Bool.not_false, Bool.true_and, Bool.and_eq_true,
          Bool.not_eq_true', separated, List.forall_mem_cons]

/-- Where the stem starts only between the texts, they come back from their placeholders just if
none behind a placeholder starts with a digit. -/
theorem texts_come_back_iff_no_digit_follows (code : List Char) {count : Nat}
    {texts : List (List Char)} (numbered : texts.length = count + 1) (bounded : count < idBound)
    (between : StartsBetween (freshStem code) count 0 texts) :
    split (freshStem code) count (weave (freshStem code) count texts) =
        orEmpty (interleaved 0 texts) ↔
      ∀ text ∈ texts.tail, text.head?.any Char.isDigit = false := by
  have isStem := freshStem_isStem code
  have numbered' : 0 + texts.length = count + 1 := by rw [Nat.zero_add, numbered]
  obtain ⟨clear, separated⟩ := clear_and_separated isStem numbered' between
  have solid : .text [] ∉ pieces (freshStem code) count []
      (weave (freshStem code) count texts) :=
    fun member => pieces_solid isStem.nonempty [] _ _ member rfl
  rw [split_eq isStem.nonempty, orEmpty_inj solid (interleaved_solid 0 texts),
    ← separated]
  constructor
  · intro same
    cases mixed : areSeparated (freshStem code) texts with
    | true => rfl
    | false =>
      exact absurd (congrArg (List.map Piece.text?) same)
        (shape_ne_of_not_separated isStem (Nat.le_of_lt bounded) numbered' clear mixed)
  · exact pieces_weaveFrom isStem (Nat.le_of_lt bounded) numbered' clear

/-- Underscores before a placeholder and an empty text between two of them come back, a digit after
one does not. -/
theorem texts_come_back_beside_underscores :
    StartsBetween (freshStem []) 2 0 ["a_".toList, [], " b".toList] ∧
      split (freshStem []) 2 (weave (freshStem []) 2 ["a_".toList, [], " b".toList]) =
        [.text "a_".toList, .hole 0, .hole 1, .text " b".toList] ∧
      StartsBetween (freshStem []) 1 0 ["a_".toList, "1b".toList] ∧
      split (freshStem []) 1 (weave (freshStem []) 1 ["a_".toList, "1b".toList]) ≠
        [.text "a_".toList, .hole 0, .text "1b".toList] := by
  have isStem := freshStem_isStem []
  have absent (text : List Char) (missing : Text.occurs (freshStem []) text = false) {id : Nat}
      {count : Nat} (last : ¬ id < count) : StartsBetween (freshStem []) count id [text] :=
    (startsBetween_singleton last text).mpr (Text.occurs_eq_false.mp missing)
  have spaced : StartsBetween (freshStem []) 2 0 ["a_".toList, [], " b".toList] :=
    (startsBetween_cons isStem (by decide)).mpr ⟨by decide +kernel,
      (startsBetween_cons isStem (by decide)).mpr ⟨by decide +kernel,
        absent " b".toList (by decide +kernel) (by decide)⟩⟩
  have numbering : StartsBetween (freshStem []) 1 0 ["a_".toList, "1b".toList] :=
    (startsBetween_cons isStem (by decide)).mpr ⟨by decide +kernel,
      absent "1b".toList (by decide +kernel) (by decide)⟩
  refine ⟨spaced, ?_, numbering, ?_⟩
  · exact (texts_come_back_iff_no_digit_follows [] rfl (by decide) spaced).mpr (by decide)
  · intro same
    have noDigit := (texts_come_back_iff_no_digit_follows [] rfl (by decide) numbering).mp same
    exact absurd (noDigit "1b".toList (by decide)) (by decide)

end CssInline.Placeholder
