import CssInline.Code.Lexeme

/-! What template texts stand for, read one escape or character after the other. -/

namespace CssInline.Code

/-! Escapes -/

theorem unicodeCode?_suffix {text after : List Char} {code : Nat}
    (read : unicodeCode? text = some (code, after)) : after <:+ text := by
  unfold unicodeCode? at read
  split at read
  · rename_i rest
    dsimp only at read
    split at read
    · rename_i closed
      split at read
      · cases read
      · split at read
        · split at read
          · cases read
            have inside := List.drop_suffix (rest.takeWhile (· != '\x7d')).length rest
            rw [closed] at inside
            exact ((List.suffix_cons _ _).trans inside).trans (List.suffix_cons _ _)
          · cases read
        · cases read
    · cases read
  · obtain ⟨_, _, same⟩ := Option.map_eq_some_iff.mp read
    cases same
    exact List.suffix_append [_, _, _, _] _
  · cases read

theorem unicodeChar?_suffix {text after : List Char} {c : Char}
    (read : unicodeChar? text = some (c, after)) : after <:+ text := by
  unfold unicodeChar? at read
  obtain ⟨⟨first, rest⟩, isFirst, read⟩ := Option.bind_eq_some_iff.mp read
  have inside := unicodeCode?_suffix isFirst
  dsimp only at read
  split at read
  · split at read
    · rename_i more
      split at read
      · rename_i second other isSecond
        split at read
        · have same : _ = after := (Prod.mk.inj (Option.some.inj read)).2
          have deeper := unicodeCode?_suffix isSecond
          rw [same] at deeper
          exact (deeper.trans (List.suffix_append ['\\', 'u'] more)).trans inside
        · cases read
          exact inside
      · cases read
        exact inside
    · cases read
      exact inside
  · cases read
    exact inside

theorem escape?_reads {octal : Bool} {text value after : List Char}
    (read : escape? octal text = some (value, after)) : after <:+ text ∧ value.length ≤ 1 := by
  unfold escape? at read
  split at read
  · cases read
    exact ⟨List.suffix_append ['\r', '\n'] _, Nat.zero_le _⟩
  iterate 6
    · cases read
      exact ⟨List.suffix_cons _ _, Nat.le_refl _⟩
  · obtain ⟨_, _, same⟩ := Option.map_eq_some_iff.mp read
    cases same
    exact ⟨List.suffix_append ['x', _, _] _, Nat.le_refl _⟩
  · cases read
  · obtain ⟨_, isChar, same⟩ := Option.map_eq_some_iff.mp read
    cases same
    exact ⟨(unicodeChar?_suffix isChar).trans (List.suffix_cons _ _), Nat.le_refl _⟩
  · rename_i c rest _ _ _ _ _ _ _ _ _ _
    split at read
    · cases read
      exact ⟨List.suffix_cons _ _, Nat.zero_le _⟩
    split at read
    · cases read
      exact ⟨List.suffix_cons _ _, Nat.le_refl _⟩
    split at read
    · dsimp only at read
      split at read
      · cases read
        exact ⟨List.drop_suffix _ _, Nat.le_refl _⟩
      · cases read
    split at read
    · cases read
    · cases read
      exact ⟨List.suffix_cons _ _, Nat.le_refl _⟩
  · cases read

/-! Units of template texts -/

/-- What the escape, line end or other character at the start of a template text stands for, and
what follows it. -/
def unit? : List Char → Option (List Char × List Char)
  | [] => none
  | '\\' :: rest => escape? false rest
  | '\r' :: '\n' :: rest => some (['\n'], rest)
  | '\r' :: rest => some (['\n'], rest)
  | c :: rest => some ([c], rest)

theorem cookFrom_cons (fuel : Nat) (done : List Char) (c : Char) (rest : List Char) :
    cookFrom (fuel + 1) done (c :: rest) =
      (unit? (c :: rest)).bind fun unit => cookFrom fuel (unit.1.reverse ++ done) unit.2 := by
  unfold unit?
  split
  · rename_i none
    cases none
  · rename_i others same
    cases same
    rw [cookFrom]
    cases escape? false rest with
    | none => rfl
    | some found => rfl
  · rename_i others same
    cases same
    rfl
  · rename_i others alone same
    cases same
    rw [cookFrom]
    · rfl
    · exact alone
  · rename_i other others noEscape noPair noReturn same
    cases same
    rw [cookFrom]
    · rfl
    · exact noEscape
    · exact noPair
    · exact noReturn

theorem unit?_reads {text value after : List Char} (read : unit? text = some (value, after)) :
    after <:+ text ∧ after.length < text.length ∧ value.length ≤ 1 := by
  unfold unit? at read
  split at read
  · cases read
  · rename_i rest
    obtain ⟨suffix, short⟩ := escape?_reads read
    exact ⟨suffix.trans (List.suffix_cons _ _), Nat.lt_succ_of_le suffix.length_le, short⟩
  · cases read
    exact ⟨List.suffix_append ['\r', '\n'] _, Nat.lt_add_of_pos_right Nat.two_pos, Nat.le_refl _⟩
  · cases read
    exact ⟨List.suffix_cons _ _, Nat.lt_succ_self _, Nat.le_refl _⟩
  · cases read
    exact ⟨List.suffix_cons _ _, Nat.lt_succ_self _, Nat.le_refl _⟩

theorem unit?_cons {c : Char} {rest value after : List Char} (noEscape : c ≠ '\\')
    (read : unit? (c :: rest) = some (value, after)) :
    '\n' ∈ value ∨ value = [c] ∧ after = rest := by
  unfold unit? at read
  split at read
  · cases read
  · rename_i same
    cases same
    exact absurd rfl noEscape
  · cases read
    exact .inl List.mem_cons_self
  · cases read
    exact .inl List.mem_cons_self
  · rename_i same
    cases same
    cases read
    exact .inr ⟨rfl, rfl⟩

/-! Parts of template texts -/

/-- The part of `text` before `rest` stands for `value`. -/
inductive ReadsTo : List Char → List Char → List Char → Prop
  | refl (text : List Char) : ReadsTo text [] text
  | step {text value after values rest : List Char} (first : unit? text = some (value, after))
      (others : ReadsTo after values rest) : ReadsTo text (value ++ values) rest

namespace ReadsTo

variable {text value value' middle rest : List Char}

theorem trans (first : ReadsTo text value middle) (second : ReadsTo middle value' rest) :
    ReadsTo text (value ++ value') rest := by
  induction first with
  | refl text => exact second
  | step unit _ ih =>
    rw [List.append_assoc]
    exact .step unit (ih second)

theorem suffix (reads : ReadsTo text value rest) : rest <:+ text := by
  induction reads with
  | refl text => exact List.suffix_refl text
  | step unit _ ih => exact ih.trans (unit?_reads unit).1

/-- A value ends between two units of the text, because none of them stands for more than one
character. -/
theorem split (reads : ReadsTo text (value ++ value') rest) :
    ∃ middle, ReadsTo text value middle ∧ ReadsTo middle value' rest := by
  generalize whole : value ++ value' = values at reads
  -- A unit that stands for nothing belongs to the part that comes after it.
  induction reads generalizing value with
  | refl text =>
    obtain ⟨rfl, rfl⟩ := List.append_eq_nil_iff.mp whole
    exact ⟨text, .refl text, .refl text⟩
  | @step text first after others rest unit inner ih =>
    have short := (unit?_reads unit).2.2
    cases value with
    | nil =>
      rw [List.nil_append] at whole
      rw [whole]
      exact ⟨text, .refl text, .step unit inner⟩
    | cons c value =>
      cases first with
      | nil =>
        obtain ⟨middle, before, behind⟩ := ih whole
        exact ⟨middle, .step unit before, behind⟩
      | cons d first =>
        have alone : first = [] := List.eq_nil_of_length_eq_zero (by simpa using short)
        subst alone
        obtain ⟨rfl, later⟩ := List.cons.inj whole
        obtain ⟨middle, before, behind⟩ := ih later
        exact ⟨middle, .step unit before, behind⟩

theorem eq_of_plain {part : List Char} (reads : ReadsTo (part ++ rest) value rest)
    (plain : '\\' ∉ part) (noFeed : '\n' ∉ value) : part = value := by
  generalize whole : part ++ rest = text at reads
  induction reads generalizing part with
  | refl text => exact List.append_left_eq_self.mp whole
  | @step text first after others rest unit inner ih =>
    obtain ⟨_, shorter, _⟩ := unit?_reads unit
    cases part with
    | nil =>
      have long := inner.suffix.length_le
      rw [List.nil_append] at whole
      rw [whole] at long
      omega
    | cons c part =>
      rw [← whole, List.cons_append] at unit
      rcases unit?_cons (List.ne_of_not_mem_cons plain).symm unit with feed | ⟨single, same⟩
      · exact absurd (List.mem_append_left _ feed) noFeed
      · rw [single] at noFeed ⊢
        rw [← ih (List.not_mem_of_not_mem_cons plain) (List.not_mem_of_not_mem_cons noFeed)
          same.symm]
        rfl

end ReadsTo

/-! Whole template texts -/

theorem reads_of_cookFrom {fuel : Nat} {done text value : List Char}
    (cooked : cookFrom fuel done text = some value) :
    ∃ own, value = done.reverse ++ own ∧ ReadsTo text own [] := by
  induction fuel generalizing done text with
  | zero => cases cooked
  | succ fuel ih =>
    cases text with
    | nil =>
      cases cooked
      exact ⟨[], (List.append_nil _).symm, .refl []⟩
    | cons c rest =>
      rw [cookFrom_cons] at cooked
      obtain ⟨⟨first, after⟩, unit, later⟩ := Option.bind_eq_some_iff.mp cooked
      obtain ⟨own, same, reads⟩ := ih later
      refine ⟨first ++ own, ?_, .step unit reads⟩
      rw [same, List.reverse_append, List.reverse_reverse, List.append_assoc]

theorem cookFrom_of_reads {text value : List Char} (reads : ReadsTo text value []) {fuel : Nat}
    (enough : text.length < fuel) (done : List Char) :
    cookFrom fuel done text = some (done.reverse ++ value) := by
  generalize ending : ([] : List Char) = rest at reads
  induction reads generalizing fuel done with
  | refl text =>
    obtain ⟨fuel, rfl⟩ := Nat.exists_eq_succ_of_ne_zero (Nat.ne_zero_of_lt enough)
    rw [← ending, List.append_nil]
    rfl
  | @step text first after others rest unit _ ih =>
    obtain ⟨fuel, rfl⟩ := Nat.exists_eq_succ_of_ne_zero (Nat.ne_zero_of_lt enough)
    obtain ⟨_, shorter, _⟩ := unit?_reads unit
    cases text with
    | nil => cases shorter
    | cons c text =>
      have inner := ih (show after.length < fuel by omega) (first.reverse ++ done) ending
      rw [cookFrom_cons, unit, Option.bind_some, inner, List.reverse_append, List.reverse_reverse,
        List.append_assoc]

theorem cook?_eq_some {text value : List Char} :
    cook? text = some value ↔ ReadsTo text value [] := by
  constructor
  · intro cooked
    obtain ⟨own, same, reads⟩ := reads_of_cookFrom cooked
    rwa [same]
  · intro reads
    exact cookFrom_of_reads reads (Nat.lt_succ_self _) []

/-! Words in template texts -/

/-- A part of `raw` with an escape in it stands for `word`, in a text without faulty escapes. -/
def Spells (raw word : List Char) : Prop :=
  ∃ value part rest value', ReadsTo raw value (part ++ rest) ∧ ReadsTo (part ++ rest) word rest ∧
    '\\' ∈ part ∧ ReadsTo rest value' []

theorem text_quasiOf {raw value : List Char} (cooked : cook? raw = some value) :
    (quasiOf raw).text.toList = value := by
  rw [quasiOf, Quasi.text, cooked, Option.map_some, Option.getD_some, String.toList_ofList]

theorem infix_text_of_spells {raw word : List Char} (spells : Spells raw word) :
    word <:+: (quasiOf raw).text.toList := by
  obtain ⟨value, part, rest, value', before, within, _, behind⟩ := spells
  have cooked := cook?_eq_some.mpr (before.trans (within.trans behind))
  rw [text_quasiOf cooked, ← List.append_assoc]
  exact List.infix_append value word value'

/-- A word in what a template text stands for is written there, or spelled with escapes. -/
theorem infix_or_spells {raw word : List Char} (noFeed : '\n' ∉ word)
    (inside : word <:+: (quasiOf raw).text.toList) : word <:+: raw ∨ Spells raw word := by
  cases cooked : cook? raw with
  | none =>
    rw [quasiOf, Quasi.text, cooked, Option.map_none, Option.getD_none, String.toList_ofList]
      at inside
    exact .inl inside
  | some whole =>
    rw [text_quasiOf cooked] at inside
    obtain ⟨value, value', same⟩ := inside
    rw [← same, List.append_assoc] at cooked
    obtain ⟨start, before, others⟩ := (cook?_eq_some.mp cooked).split
    obtain ⟨rest, within, behind⟩ := others.split
    obtain ⟨part, rfl⟩ := within.suffix
    by_cases escaped : '\\' ∈ part
    · exact .inr ⟨value, part, rest, value', before, within, escaped, behind⟩
    · have plain := within.eq_of_plain escaped noFeed
      rw [plain] at before
      exact .inl ((List.prefix_append word rest).isInfix.trans before.suffix.isInfix)

theorem mem_of_spells {raw word : List Char} (spells : Spells raw word) : '\\' ∈ raw := by
  obtain ⟨_, part, rest, _, before, _, escaped, _⟩ := spells
  exact before.suffix.subset (List.mem_append_left rest escaped)

end CssInline.Code
