import CssInline.Proofs.Placeholder

/-! When texts can be told from the placeholders between them. -/

namespace CssInline.Placeholder

/-- A text as a piece, unless it is empty. -/
def Piece.ofText (text : List Char) : List Piece :=
  if text.isEmpty then [] else [.text text]

/-- What a piece is in the text that is split. -/
def Piece.spelled (stem : List Char) : Piece → List Char
  | .text value => value
  | .hole id => name stem id

def Piece.text? : Piece → Option (List Char)
  | .text value => some value
  | .hole _ => none

/-- The pieces that texts are woven from, the placeholders between them numbered from `id` on. -/
def interleaved : Nat → List (List Char) → List Piece
  | _, [] => []
  | _, [text] => Piece.ofText text
  | id, text :: next :: texts =>
    Piece.ofText text ++ .hole id :: interleaved (id + 1) (next :: texts)

/-- A text without pieces is an empty one. -/
def orEmpty (pieces : List Piece) : List Piece :=
  if pieces.isEmpty then [.text []] else pieces

/-- Whether a stem can start in `text` when the stem follows it. -/
def overlaps (stem text : List Char) : Bool :=
  Text.occurs stem (text ++ stem.dropLast)

/-- Whether no text runs into the placeholder after it, or into the number before it. -/
def areSeparated (stem : List Char) : List (List Char) → Bool
  | text :: next :: texts =>
    !overlaps stem text && !next.head?.any Char.isDigit && areSeparated stem (next :: texts)
  | _ => true

theorem flush_eq (pending : List Char) : flush pending = Piece.ofText pending.reverse := by
  simp [flush, Piece.ofText]

variable {stem : List Char} {count : Nat}

theorem split_eq (nonempty : stem ≠ []) (text : List Char) :
    split stem count text = orEmpty (pieces stem count [] text) := by
  have whole : splitFrom stem count text.length [] text = pieces stem count [] text := rfl
  rw [split, whole, orEmpty]
  cases pieces stem count [] text <;> simp [nonempty]

/-! Texts with placeholders between them -/

section Numbered

variable {id : Nat} {text next : List Char} {texts : List (List Char)}

theorem weaveFrom_singleton (last : ¬ id < count) (text : List Char) :
    weaveFrom stem count id [text] = text := by
  simp only [weaveFrom, if_neg last, List.append_nil]

theorem weaveFrom_cons (more : id < count) (text : List Char) (texts : List (List Char)) :
    weaveFrom stem count id (text :: texts) =
      text ++ (name stem id ++ weaveFrom stem count (id + 1) texts) := by
  rw [weaveFrom, if_pos more, List.append_assoc]

/-- No placeholder comes after the last text. -/
theorem not_lt_of_numbered (numbered : id + [text].length = count + 1) : ¬ id < count := by
  simp only [List.length_singleton] at numbered
  omega

theorem lt_of_numbered (numbered : id + (text :: next :: texts).length = count + 1) :
    id < count := by
  simp only [List.length_cons] at numbered
  omega

theorem numbered_tail (numbered : id + (text :: texts).length = count + 1) :
    id + 1 + texts.length = count + 1 := by
  rw [List.length_cons] at numbered
  omega

end Numbered

/-! Separated texts -/

theorem not_prefix_of_not_overlaps (isStem : IsStem stem) {text skipped left : List Char}
    (clear : overlaps stem text = false) (split : text = skipped ++ left) (nonempty : left ≠ [])
    (after : List Char) : ¬ stem <+: left ++ (stem ++ after) := by
  intro starts
  have tail : left ++ stem.dropLast <+: left ++ (stem ++ after) :=
    (List.prefix_append_right_inj left).mpr
      ((List.dropLast_prefix stem).trans (List.prefix_append stem after))
  have fits : stem.length ≤ (left ++ stem.dropLast).length := by
    have := isStem.length_pos
    have := List.length_pos_iff.mpr nonempty
    simp only [List.length_append, List.length_dropLast]
    omega
  have inside := List.prefix_of_prefix_length_le starts tail fits
  refine Text.occurs_eq_false.mp clear ?_
  rw [split, List.append_assoc]
  exact inside.isInfix.trans (List.suffix_append skipped _).isInfix

theorem head?_weaveFrom (isStem : IsStem stem) {id : Nat} {text : List Char}
    {texts : List (List Char)} (numbered : id + (text :: texts).length = count + 1)
    (noDigit : text.head?.any Char.isDigit = false) :
    (weaveFrom stem count id (text :: texts)).head?.any Char.isDigit = false := by
  cases text with
  | cons c text => exact noDigit
  | nil =>
    cases texts with
    | nil =>
      rw [weaveFrom_singleton (not_lt_of_numbered numbered)]
      rfl
    | cons next texts =>
      apply noDigit_of_starts isStem
      rw [weaveFrom_cons (lt_of_numbered numbered), List.nil_append, name, List.append_assoc]
      exact List.prefix_append stem _

theorem take?_name (isStem : IsStem stem) {id : Nat} {text next : List Char}
    {texts : List (List Char)} (numbered : id + (text :: next :: texts).length = count + 1)
    (bounded : count ≤ idBound) (noDigit : next.head?.any Char.isDigit = false) :
    take? stem count (name stem id ++ weaveFrom stem count (id + 1) (next :: texts)) =
      some (id, weaveFrom stem count (id + 1) (next :: texts)) := by
  have small := lt_of_numbered numbered
  exact take?_eq_some.mpr ⟨rfl, head?_weaveFrom isStem (numbered_tail numbered) noDigit, small,
    Nat.lt_of_lt_of_le small bounded⟩

/-- Behind a text and a placeholder, a stem that does not start in the text starts with the
placeholder or after it. -/
theorem place_of_starts (isStem : IsStem stem) {id : Nat} {text more passed rest : List Char}
    (whole : text ++ (name stem id ++ more) = passed ++ rest) (starts : stem <+: rest)
    (outside : ∀ left, left ≠ [] → text = passed ++ left →
      rest ≠ left ++ (name stem id ++ more)) :
    (passed = text ∧ rest = name stem id ++ more) ∨
      ∃ inner, passed = text ++ (name stem id ++ inner) ∧ more = inner ++ rest := by
  rcases List.append_eq_append_iff.mp whole with ⟨inner, before, split⟩ | ⟨left, same, behind⟩
  · rcases List.append_eq_append_iff.mp split with ⟨_, further, split⟩ | ⟨left, inName, behind⟩
    · exact .inr ⟨_, further ▸ before, split⟩
    -- A place in the placeholder is its start or its end.
    · by_cases begun : inner = []
      · rw [begun, List.append_nil] at before
        rw [begun, List.nil_append] at inName
        exact .inl ⟨before, inName ▸ behind⟩
      · by_cases going : left = []
        · rw [going, List.append_nil] at inName
          rw [going, List.nil_append] at behind
          rw [← inName, ← List.append_nil (name stem id)] at before
          exact .inr ⟨[], before, behind.symm⟩
        · rw [behind] at starts
          exact absurd starts (not_prefix_inside isStem inName begun going more)
  · by_cases going : left = []
    · rw [going, List.append_nil] at same
      rw [going, List.nil_append] at behind
      exact .inl ⟨same.symm, behind⟩
    · exact absurd behind (outside left going same)

/-- A text is split off as a whole from a placeholder that it does not run into. -/
theorem pieces_text_append (isStem : IsStem stem) {text : List Char}
    (clear : overlaps stem text = false) (after : List Char) :
    pieces stem count [] (text ++ (stem ++ after)) =
      pieces stem count text.reverse (stem ++ after) := by
  rw [pieces_append fun _ _ split nonempty =>
    not_prefix_of_not_overlaps isStem clear split nonempty after, List.append_nil]

theorem pieces_weaveFrom (isStem : IsStem stem) (bounded : count ≤ idBound) {id : Nat}
    {texts : List (List Char)} (numbered : id + texts.length = count + 1)
    (clear : ∀ text ∈ texts, ¬ stem <:+: text) (separated : areSeparated stem texts = true) :
    pieces stem count [] (weaveFrom stem count id texts) = interleaved id texts := by
  induction texts generalizing id with
  | nil => rfl
  | cons text texts ih =>
    cases texts with
    | nil =>
      have apart : ∀ skipped left, text = skipped ++ left → left ≠ [] → ¬ stem <+: left ++ [] := by
        intro skipped left split nonempty starts
        rw [List.append_nil] at starts
        refine clear text List.mem_cons_self ?_
        rw [split]
        exact starts.isInfix.trans (List.suffix_append skipped left).isInfix
      have whole : pieces stem count [] (text ++ []) = pieces stem count (text.reverse ++ []) [] :=
        pieces_append apart []
      simp only [List.append_nil, pieces_nil, flush_eq, List.reverse_reverse] at whole
      simp only [weaveFrom_singleton (not_lt_of_numbered numbered), whole, interleaved]
    | cons next texts =>
      simp only [areSeparated, Bool.and_eq_true, Bool.not_eq_true'] at separated
      obtain ⟨⟨noOverlap, noDigit⟩, separated⟩ := separated
      have taken := take?_name isStem numbered bounded noDigit
      have splitNext := ih (numbered_tail numbered)
        (fun other member => clear other (List.mem_cons_of_mem text member)) separated
      rw [weaveFrom_cons (lt_of_numbered numbered)]
      rw [name, List.append_assoc, pieces_text_append isStem noOverlap, ← List.append_assoc, ← name,
        pieces_of_take? isStem.nonempty taken, splitNext, flush_eq, List.reverse_reverse]
      rfl

/-! Texts that are not separated -/

/-- What is left of the stem after a text, behind a stem that starts with the text. -/
theorem tail_of_overlap {text : List Char} (starts : stem <+: text ++ stem) (some : text ≠ [])
    (shorter : text.length < stem.length) :
    ∃ tail, stem ++ tail = text ++ stem ∧ tail <:+ stem ∧ tail ≠ [] := by
  obtain ⟨tail, overlap⟩ := starts
  have sameLength := congrArg List.length overlap
  have positive := List.length_pos_iff.mpr some
  simp only [List.length_append] at sameLength
  have inStem : tail <:+ stem := by
    apply List.suffix_of_suffix_length_le ⟨stem, overlap⟩ (List.suffix_append text stem)
    omega
  have nonempty : tail ≠ [] := by
    rintro rfl
    simp only [List.length_nil] at sameLength
    omega
  exact ⟨tail, overlap, inStem, nonempty⟩

/-- A stem that starts in a text goes over its end, so that the first piece is longer than the text.
-/
theorem pieces_of_overlaps (isStem : IsStem stem) {text : List Char} (clear : ¬ stem <:+: text)
    (runs : overlaps stem text = true) (pending after : List Char) :
    ∃ first more, pieces stem count pending (text ++ (stem ++ after)) = .text first :: more ∧
      pending.length + text.length < first.length := by
  induction text generalizing pending with
  | nil =>
    have short := (Text.occurs_eq_true.mp runs).length_le
    have := isStem.length_pos
    rw [List.nil_append, List.length_dropLast] at short
    omega
  | cons c text ih =>
    by_cases starts : stem <+: (c :: text) ++ stem
    -- The stem is passed over here, and with it the start of the one that is meant.
    · have shorter : (c :: text).length < stem.length := by
        apply Nat.lt_of_not_le
        intro long
        exact clear (List.prefix_of_prefix_length_le starts (List.prefix_append _ _) long).isInfix
      obtain ⟨tail, overlap, inStem, some⟩ :=
        tail_of_overlap starts (List.cons_ne_nil c text) shorter
      have noDigit : (tail ++ after).head?.any Char.isDigit = false := by
        cases tail with
        | nil => exact absurd rfl some
        | cons d tail => exact isStem.noDigit d (inStem.subset List.mem_cons_self)
      have whole : (c :: text) ++ (stem ++ after) = stem ++ (tail ++ after) := by
        rw [← List.append_assoc, ← overlap, List.append_assoc]
      have kept : stem.reverse ++ pending ≠ [] :=
        List.append_ne_nil_of_left_ne_nil (List.reverse_ne_nil_iff.mpr isStem.nonempty) _
      obtain ⟨first, more, split, begins⟩ :=
        pieces_of_pending count isStem kept (tail ++ after)
      refine ⟨first, more, ?_, ?_⟩
      · rw [whole, pieces_of_strip? isStem.nonempty (take?_of_head? noDigit)
          (Text.strip?_append _ _), split]
      · have long := begins.length_le
        simp only [List.length_reverse, List.length_append, List.length_cons] at long shorter ⊢
        omega
    · have apart : ¬ stem <+: c :: (text ++ (stem ++ after)) := by
        rintro within
        have whole : (c :: text) ++ stem <+: c :: (text ++ (stem ++ after)) := by
          rw [← List.append_assoc]
          exact List.prefix_append ((c :: text) ++ stem) after
        refine starts (List.prefix_of_prefix_length_le within whole ?_)
        simp only [List.length_append]
        omega
      have clearRest : ¬ stem <:+: text := fun inside =>
        clear (inside.trans (List.suffix_cons c text).isInfix)
      have runsRest : overlaps stem text = true := by
        cases List.infix_cons_iff.mp (Text.occurs_eq_true.mp runs) with
        | inl first =>
          refine absurd (first.trans ?_) starts
          exact (List.prefix_append_right_inj (c :: text)).mpr (List.dropLast_prefix stem)
        | inr later => exact Text.occurs_eq_true.mpr later
      obtain ⟨first, more, split, long⟩ := ih clearRest runsRest (c :: pending)
      refine ⟨first, more, ?_, ?_⟩
      · rw [List.cons_append, pieces_cons apart, split]
      · simp only [List.length_cons] at long ⊢
        omega

/-- The first piece of a text starts with its first character, if it is text. -/
theorem head?_of_pieces (isStem : IsStem stem) {text first : List Char} {more : List Piece}
    (split : pieces stem count [] text = .text first :: more) : first.head? = text.head? := by
  cases text with
  | nil => cases split
  | cons c rest =>
    have same {pending : List Char} (nonempty : pending ≠ []) {after : List Char}
        (kept : pieces stem count pending after = .text first :: more) :
        first.head? = pending.reverse.head? := by
      obtain ⟨other, rest, splitOther, starts⟩ :=
        pieces_of_pending count isStem nonempty after
      rw [splitOther] at kept
      cases kept
      obtain ⟨tail, same⟩ := starts
      rw [← same, List.head?_append_of_ne_nil _ (List.reverse_ne_nil_iff.mpr nonempty)]
    cases taken : take? stem count (c :: rest) with
    | some found =>
      rw [pieces_of_take? isStem.nonempty taken] at split
      cases split
    | none =>
      cases stripped : Text.strip? stem (c :: rest) with
      | some after =>
        rw [pieces_of_strip? isStem.nonempty taken stripped, List.append_nil] at split
        rw [same (List.reverse_ne_nil_iff.mpr isStem.nonempty) split, List.reverse_reverse,
          Text.eq_append_of_strip? stripped, List.head?_append_of_ne_nil _ isStem.nonempty]
      | none =>
        have apart : ¬ stem <+: c :: rest := by
          rintro ⟨after, whole⟩
          rw [← whole, Text.strip?_append] at stripped
          cases stripped
        rw [pieces_cons apart] at split
        exact same (List.cons_ne_nil c []) split

theorem shape_ne_of_longer {split more : List Piece} {first text next : List Char} (id : Nat)
    (texts : List (List Char)) (begins : split = .text first :: more)
    (longer : text.length < first.length) :
    split.map Piece.text? ≠ (interleaved id (text :: next :: texts)).map Piece.text? := by
  intro same
  rw [begins, interleaved] at same
  cases text with
  | nil => cases same
  | cons c text =>
    have head := (List.cons.inj same).1
    rw [Option.some.inj head] at longer
    exact Nat.lt_irrefl _ longer

theorem Piece.text?_eq_some {piece : Piece} {value : List Char} :
    piece.text? = some value ↔ piece = .text value := by
  cases piece with
  | text other => simp [Piece.text?]
  | hole id => simp [Piece.text?]

theorem interleaved_of_nonempty {text : List Char} (nonempty : text ≠ []) (id : Nat)
    (texts : List (List Char)) : ∃ more, interleaved id (text :: texts) = .text text :: more := by
  have piece : Piece.ofText text = [.text text] := by simp [Piece.ofText, nonempty]
  cases texts with
  | nil => exact ⟨[], piece⟩
  | cons next texts =>
    rw [interleaved, piece]
    exact ⟨_, rfl⟩

/-- A digit after a placeholder is read as a part of its number. -/
theorem shape_ne_of_digit (isStem : IsStem stem) {next : List Char}
    (digit : next.head?.any Char.isDigit = true) (id : Nat) (text after : List Char)
    (texts : List (List Char)) :
    (pieces stem count text.reverse (name stem id ++ after)).map Piece.text? ≠
      (interleaved id (text :: next :: texts)).map Piece.text? := by
  cases taken : take? stem count (name stem id ++ after) with
  | none =>
    have kept : stem.reverse ++ text.reverse ≠ [] :=
      List.append_ne_nil_of_left_ne_nil (List.reverse_ne_nil_iff.mpr isStem.nonempty) _
    have stripped : Text.strip? stem (name stem id ++ after) = some (Text.decimal id ++ after) := by
      rw [name, List.append_assoc, Text.strip?_append]
    obtain ⟨first, more, split, begins⟩ :=
      pieces_of_pending count isStem kept (Text.decimal id ++ after)
    rw [pieces_of_strip? isStem.nonempty taken stripped]
    apply shape_ne_of_longer id texts split
    apply Nat.lt_of_lt_of_le _ begins.length_le
    have := isStem.length_pos
    simp only [List.length_reverse, List.length_append]
    omega
  | some found =>
    intro same
    rw [pieces_of_take? isStem.nonempty taken, flush_eq, List.reverse_reverse, interleaved,
      List.map_append, List.map_append] at same
    have rest := (List.cons.inj (List.append_cancel_left same)).2
    have ends := (take?_eq_some.mp taken).2.1
    have nonempty : next ≠ [] := by
      rintro rfl
      cases digit
    obtain ⟨others, begins⟩ := interleaved_of_nonempty nonempty (id + 1) texts
    rw [begins, List.map_cons] at rest
    obtain ⟨piece, more, split, isNext, _⟩ := List.map_eq_cons_iff.mp rest
    rw [Piece.text?_eq_some.mp isNext] at split
    rw [← head?_of_pieces isStem split, digit] at ends
    cases ends

/-- Texts that are not separated are not split off again. Some piece is another text, or is text
where a placeholder was or the other way round. -/
theorem shape_ne_of_not_separated (isStem : IsStem stem) (bounded : count ≤ idBound) {id : Nat}
    {texts : List (List Char)} (numbered : id + texts.length = count + 1)
    (clear : ∀ text ∈ texts, ¬ stem <:+: text) (mixed : areSeparated stem texts = false) :
    (pieces stem count [] (weaveFrom stem count id texts)).map Piece.text? ≠
      (interleaved id texts).map Piece.text? := by
  -- The first text that is not kept apart decides. Those before it are split off on both sides.
  induction texts generalizing id with
  | nil => cases mixed
  | cons text texts ih =>
    cases texts with
    | nil => cases mixed
    | cons next texts =>
      rw [weaveFrom_cons (lt_of_numbered numbered), name, List.append_assoc]
      cases noOverlap : overlaps stem text with
      | true =>
        obtain ⟨first, more, split, longer⟩ :=
          pieces_of_overlaps isStem (clear text List.mem_cons_self) noOverlap [] _
        rw [List.length_nil, Nat.zero_add] at longer
        exact shape_ne_of_longer id texts split longer
      | false =>
        rw [pieces_text_append isStem noOverlap, ← List.append_assoc, ← name]
        cases digit : next.head?.any Char.isDigit with
        | true => exact shape_ne_of_digit isStem digit id text _ texts
        | false =>
          have flushed : flush text.reverse = Piece.ofText text := by
            rw [flush_eq, List.reverse_reverse]
          have mixedNext : areSeparated stem (next :: texts) = false := by
            simpa [areSeparated, noOverlap, digit] using mixed
          have taken := take?_name isStem numbered bounded digit
          rw [pieces_of_take? isStem.nonempty taken, flushed]
          intro same
          rw [interleaved, List.map_append, List.map_append] at same
          exact ih (numbered_tail numbered)
            (fun other member => clear other (List.mem_cons_of_mem text member)) mixedNext
            (List.cons.inj (List.append_cancel_left same)).2

end CssInline.Placeholder
