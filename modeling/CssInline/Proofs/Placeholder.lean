import CssInline.Placeholder.Piece
import CssInline.Proofs.Text
import Mathlib.Data.Nat.Find

/-! Texts woven together with placeholders, and split again. -/

namespace CssInline.Placeholder

/-! Stems -/

/-- What a stem needs for its placeholders to be read back: it does not vanish, and its end can be
told from a number and from the marks around it. -/
structure IsStem (stem : List Char) : Prop where
  nonempty : stem ≠ []
  letters : ∀ c ∈ stem, c = '_' ∨ c.isAlpha

theorem IsStem.length_pos {stem : List Char} (isStem : IsStem stem) : 0 < stem.length :=
  List.length_pos_iff.mpr isStem.nonempty

theorem IsStem.noDigit {stem : List Char} (isStem : IsStem stem) (c : Char) (member : c ∈ stem) :
    c.isDigit = false := by
  cases isStem.letters c member with
  | inl underscore =>
    rw [underscore]
    rfl
  | inr letter =>
    have inAlphabet : (decide (c.val ≥ 65 ∧ c.val ≤ 90) || c.val ≥ 97 && c.val ≤ 122) = true :=
      letter
    change (c.val ≥ 48 && c.val ≤ 57) = false
    simp [UInt32.le_iff_toNat_le] at inAlphabet ⊢
    omega

theorem IsStem.not_mem {stem : List Char} (isStem : IsStem stem) {c : Char} (other : c ≠ '_')
    (noLetter : c.isAlpha = false) : c ∉ stem := by
  intro member
  cases isStem.letters c member with
  | inl underscore => exact other underscore
  | inr letter =>
    rw [letter] at noLetter
    cases noLetter

/-- The stem with so many underscores more than the shortest one. -/
def longerStem (underscores : Nat) : List Char :=
  baseStem ++ List.replicate underscores '_'

theorem longerStem_succ (underscores : Nat) :
    longerStem (underscores + 1) = longerStem underscores ++ ['_'] := by
  rw [longerStem, longerStem, List.replicate_succ', List.append_assoc]

theorem longerStem_isStem (underscores : Nat) : IsStem (longerStem underscores) := by
  constructor
  · exact List.append_ne_nil_of_left_ne_nil (by decide) _
  · intro c member
    cases List.mem_append.mp member with
    | inl base =>
      have letters : (baseStem.all fun c => c = '_' ∨ c.isAlpha) = true := by decide +kernel
      exact of_decide_eq_true (List.all_eq_true.mp letters c base)
    | inr added => exact .inl (List.eq_of_mem_replicate added)

/-- A stem longer than the text cannot occur in it. -/
theorem longerStem_length_not_infix (code : List Char) :
    ¬ longerStem code.length <:+: code := by
  intro occurs
  have fits := occurs.length_le
  have long : 0 < baseStem.length := by decide
  rw [longerStem, List.length_append, List.length_replicate] at fits
  omega

/-- The search passes over the stems that occur and stays at the first that does not. -/
theorem lengthen_longerStem {code : List Char} {free : Nat}
    (taken : ∀ fewer < free, longerStem fewer <:+: code) (absent : ¬ longerStem free <:+: code)
    (rounds : Nat) {fewer : Nat} (atMost : fewer ≤ free) :
    lengthen code rounds (longerStem fewer) = longerStem (min (fewer + rounds) free) := by
  induction rounds generalizing fewer with
  | zero => rw [lengthen, Nat.add_zero, Nat.min_eq_left atMost]
  | succ rounds ih =>
    rw [lengthen]
    cases Nat.lt_or_eq_of_le atMost with
    | inl before =>
      rw [if_pos (Text.occurs_eq_true.mpr (taken fewer before)), ← longerStem_succ, ih before,
        Nat.succ_add_eq_add_succ]
    | inr here =>
      subst here
      rw [Text.occurs_eq_false.mpr absent, if_neg Bool.false_ne_true,
        Nat.min_eq_right (Nat.le_add_right _ _)]

/-- The search ends with the first stem that does not occur. -/
theorem exists_longerStem (code : List Char) :
    ∃ underscores ≤ code.length,
      (∀ rounds, lengthen code rounds baseStem = longerStem (min rounds underscores)) ∧
      freshStem code = longerStem underscores ∧
      (∀ fewer < underscores, longerStem fewer <:+: code) ∧
      ¬ longerStem underscores <:+: code := by
  classical
  have tooLong := longerStem_length_not_infix code
  have someFree : ∃ underscores, ¬ longerStem underscores <:+: code := ⟨_, tooLong⟩
  have absent := Nat.find_spec someFree
  have short : Nat.find someFree ≤ code.length := Nat.find_min' someFree tooLong
  have taken (fewer : Nat) (before : fewer < Nat.find someFree) : longerStem fewer <:+: code :=
    not_not.mp (Nat.find_min someFree before)
  have searched (rounds : Nat) :
      lengthen code rounds baseStem = longerStem (min rounds (Nat.find someFree)) := by
    have fromBase := lengthen_longerStem taken absent rounds (Nat.zero_le _)
    rwa [Nat.zero_add, longerStem, List.replicate_zero, List.append_nil] at fromBase
  refine ⟨Nat.find someFree, short, searched, ?_, taken, absent⟩
  rw [freshStem, searched, Nat.min_eq_right (Nat.le_succ_of_le short)]

theorem freshStem_not_infix (code : List Char) : ¬ freshStem code <:+: code := by
  obtain ⟨underscores, _, _, same, _, absent⟩ := exists_longerStem code
  rwa [same]

theorem freshStem_isStem (code : List Char) : IsStem (freshStem code) := by
  obtain ⟨underscores, _, _, same, _⟩ := exists_longerStem code
  rw [same]
  exact longerStem_isStem underscores

/-! Placeholders at the start of a text -/

variable {stem : List Char} {count : Nat}

theorem takeWhile_append_of_ends {holds : Char → Bool} {run rest : List Char}
    (all : ∀ c ∈ run, holds c = true) (ends : rest.head?.any holds = false) :
    (run ++ rest).takeWhile holds = run ∧ (run ++ rest).dropWhile holds = rest := by
  have none : rest.takeWhile holds = [] ∧ rest.dropWhile holds = rest := by
    cases rest with
    | nil => exact ⟨rfl, rfl⟩
    | cons c rest =>
      have other : holds c = false := ends
      simp [other]
  rw [List.takeWhile_append_of_pos all, List.dropWhile_append_of_pos all, none.1, none.2,
    List.append_nil]
  exact ⟨rfl, rfl⟩

/-- What comes behind a run of characters. -/
theorem head?_dropWhile (holds : Char → Bool) (text : List Char) :
    (text.dropWhile holds).head?.any holds = false := by
  have ends := List.head?_dropWhile_not holds text
  cases next : (text.dropWhile holds).head? with
  | none => rfl
  | some c =>
    rw [next] at ends
    exact ends

theorem readId?_eq_some {digits : List Char} {id : Nat} :
    readId? digits = some id ↔ digits = Text.decimal id ∧ id < idBound := by
  simp [readId?, Option.filter_eq_some_iff, Text.readDecimal?_eq_some]

theorem take?_eq_some {text after : List Char} {id : Nat} :
    take? stem count text = some (id, after) ↔
      text = name stem id ++ after ∧ after.head?.any Char.isDigit = false ∧ id < count ∧
        id < idBound := by
  constructor
  · intro taken
    obtain ⟨rest, stripped, taken⟩ := Option.bind_eq_some_iff.mp taken
    obtain ⟨id', filtered, same⟩ := Option.map_eq_some_iff.mp taken
    cases same
    obtain ⟨read, small⟩ := Option.filter_eq_some_iff.mp filtered
    obtain ⟨digits, bounded⟩ := readId?_eq_some.mp read
    refine ⟨?_, ?_, of_decide_eq_true small, bounded⟩
    · rw [Text.eq_append_of_strip? stripped, name, List.append_assoc, ← digits,
        List.takeWhile_append_dropWhile]
    · exact head?_dropWhile Char.isDigit rest
  · rintro ⟨rfl, ends, small, bounded⟩
    obtain ⟨digits, left⟩ :=
      takeWhile_append_of_ends (fun c => Text.isDigit_of_mem_decimal (n := id)) ends
    rw [take?, name, List.append_assoc, Text.strip?_append, Option.bind_some, digits, left,
      readId?_eq_some.mpr ⟨rfl, bounded⟩]
    simp [small]

theorem take?_of_strip?_none {text : List Char} (apart : Text.strip? stem text = none) :
    take? stem count text = none := by
  rw [take?, apart, Option.bind_none]

/-- Where no digit follows the stem there is no placeholder. -/
theorem take?_of_head? {after : List Char} (ends : after.head?.any Char.isDigit = false) :
    take? stem count (stem ++ after) = none := by
  have digits : after.takeWhile Char.isDigit = [] := by
    have none := (takeWhile_append_of_ends (fun _ => List.not_mem_nil.elim) ends).1
    rwa [List.nil_append] at none
  rw [take?, Text.strip?_append, Option.bind_some, digits]
  rfl

theorem starts_of_take? {text : List Char} {found : Nat × List Char}
    (taken : take? stem count text = some found) : stem <+: text := by
  rw [(take?_eq_some.mp taken).1, name, List.append_assoc]
  exact List.prefix_append stem _

theorem noDigit_of_starts (isStem : IsStem stem) {text : List Char} (starts : stem <+: text) :
    text.head?.any Char.isDigit = false := by
  obtain ⟨rest, rfl⟩ := starts
  obtain ⟨c, more, same⟩ := List.exists_cons_of_ne_nil isStem.nonempty
  have noDigit := isStem.noDigit c (by rw [same]; exact List.mem_cons_self)
  rw [same]
  exact noDigit

theorem length_of_take? (nonempty : stem ≠ []) {text after : List Char} {id : Nat}
    (taken : take? stem count text = some (id, after)) : after.length < text.length := by
  rw [(take?_eq_some.mp taken).1, name]
  have := List.length_pos_iff.mpr nonempty
  simp only [List.length_append]
  omega

theorem take?_nil (nonempty : stem ≠ []) : take? stem count [] = none := by
  cases taken : take? stem count [] with
  | none => rfl
  | some found => cases length_of_take? nonempty taken

theorem take?_append {text after rest : List Char} {id : Nat}
    (taken : take? stem count text = some (id, after))
    (ends : rest.head?.any Char.isDigit = false) :
    take? stem count (text ++ rest) = some (id, after ++ rest) := by
  obtain ⟨written, noDigit, small, bounded⟩ := take?_eq_some.mp taken
  refine take?_eq_some.mpr ⟨by rw [written, List.append_assoc], ?_, small, bounded⟩
  cases after with
  | nil => exact ends
  | cons c after => exact noDigit

theorem take?_of_append {text rest : List Char} (missing : take? stem count (text ++ rest) = none)
    (ends : rest.head?.any Char.isDigit = false) : take? stem count text = none := by
  cases taken : take? stem count text with
  | none => rfl
  | some found => rw [take?_append taken ends] at missing; cases missing

theorem length_of_strip? (nonempty : stem ≠ []) {text after : List Char}
    (stripped : Text.strip? stem text = some after) : after.length < text.length := by
  rw [Text.eq_append_of_strip? stripped]
  have := List.length_pos_iff.mpr nonempty
  simp only [List.length_append]
  omega

/-! Stems in placeholders -/

/-- Digits are not read as the end of a stem. -/
theorem digits_ne_tail (isStem : IsStem stem) {start tail digits more after : List Char}
    (split : stem = start ++ tail) (shorter : start.length < stem.length) (number : digits ≠ [])
    (areDigits : ∀ c ∈ digits, c.isDigit) : digits ++ more ≠ tail ++ after := by
  intro same
  cases tail with
  | nil =>
    rw [split, List.append_nil] at shorter
    exact Nat.lt_irrefl _ shorter
  | cons c tail =>
    obtain ⟨d, digits, rfl⟩ := List.exists_cons_of_ne_nil number
    have first : d = c := (List.cons.inj same).1
    have digit := areDigits d List.mem_cons_self
    rw [first, isStem.noDigit c (by rw [split]; simp)] at digit
    cases digit

theorem not_prefix_tail (isStem : IsStem stem) (tail : List Char) {digits more : List Char}
    (shorter : tail.length < stem.length) (number : digits ≠ [])
    (areDigits : ∀ c ∈ digits, c.isDigit) : ¬ stem <+: tail ++ (digits ++ more) := by
  rintro ⟨after, same⟩
  rcases List.append_eq_append_iff.mp same with ⟨left, longer, _⟩ | ⟨left, split, inner⟩
  · rw [longer, List.length_append] at shorter
    omega
  · exact digits_ne_tail isStem split shorter number areDigits inner

/-- No stem starts inside a placeholder. -/
theorem not_prefix_inside (isStem : IsStem stem) {id : Nat} {passed left : List Char}
    (split : name stem id = passed ++ left) (begun : passed ≠ []) (going : left ≠ [])
    (more : List Char) : ¬ stem <+: left ++ more := by
  have digits : ∀ c ∈ Text.decimal id, c.isDigit := fun _ => Text.isDigit_of_mem_decimal
  rcases List.append_eq_append_iff.mp split with ⟨start, _, number⟩ | ⟨tail, inStem, rest⟩
  · have inNumber : ∀ c ∈ left, c.isDigit := by
      intro c member
      apply digits c
      rw [number]
      exact List.mem_append_right start member
    exact not_prefix_tail isStem [] isStem.length_pos going inNumber
  · have shorter : tail.length < stem.length := by
      have positive := List.length_pos_iff.mpr begun
      rw [inStem, List.length_append]
      omega
    rw [rest, List.append_assoc]
    exact not_prefix_tail isStem tail shorter (Text.decimal_ne_nil id) digits

/-- No placeholder starts inside another one. -/
theorem take?_inside (isStem : IsStem stem) {id : Nat} {passed left : List Char}
    (split : name stem id = passed ++ left) (begun : passed ≠ []) (going : left ≠ [])
    (more : List Char) : take? stem count (left ++ more) = none :=
  take?_of_strip?_none (Text.strip?_eq_none (not_prefix_inside isStem split begun going more))

/-! Splitting -/

/-- Every step takes a character, so that more steps than characters change nothing. -/
theorem splitFrom_of_enough (nonempty : stem ≠ []) {fuel fuel' : Nat} {text : List Char}
    (enough : text.length ≤ fuel) (enough' : text.length ≤ fuel') (pending : List Char) :
    splitFrom stem count fuel pending text = splitFrom stem count fuel' pending text := by
  induction fuel generalizing fuel' text pending with
  | zero =>
    rw [List.length_eq_zero_iff.mp (Nat.le_zero.mp enough)]
    cases fuel' <;> rfl
  | succ fuel ih =>
    cases text with
    | nil => cases fuel' <;> rfl
    | cons c rest =>
      obtain ⟨fuel', rfl⟩ := Nat.exists_eq_succ_of_ne_zero (Nat.ne_of_gt (Nat.lt_of_lt_of_le
        (Nat.succ_pos rest.length) enough'))
      rw [List.length_cons] at enough enough'
      simp only [splitFrom]
      cases taken : take? stem count (c :: rest) with
      | some found =>
        have shorter := length_of_take? nonempty taken
        rw [List.length_cons] at shorter
        have deeper :
            splitFrom stem count fuel [] found.2 = splitFrom stem count fuel' [] found.2 :=
          ih (by omega) (by omega) []
        simp only [deeper]
      | none =>
        cases stripped : Text.strip? stem (c :: rest) with
        | some after =>
          have shorter := length_of_strip? nonempty stripped
          rw [List.length_cons] at shorter
          exact ih (by omega) (by omega) _
        | none => exact ih (by omega) (by omega) _

/-- The pieces of `text` after the text `pending`, last character first. -/
def pieces (stem : List Char) (count : Nat) (pending text : List Char) : List Piece :=
  splitFrom stem count text.length pending text

@[simp] theorem pieces_nil (pending : List Char) :
    pieces stem count pending [] = flush pending := rfl

theorem pieces_of_take? (nonempty : stem ≠ []) {text after : List Char} {id : Nat}
    (taken : take? stem count text = some (id, after)) (pending : List Char) :
    pieces stem count pending text = flush pending ++ .hole id :: pieces stem count [] after := by
  have shorter := length_of_take? nonempty taken
  cases text with
  | nil => cases shorter
  | cons c rest =>
    simp only [pieces, List.length_cons, splitFrom, taken]
    rw [splitFrom_of_enough nonempty (Nat.le_of_lt_succ shorter) (Nat.le_refl _)]

theorem pieces_of_strip? (nonempty : stem ≠ []) {text after : List Char}
    (missing : take? stem count text = none) (stripped : Text.strip? stem text = some after)
    (pending : List Char) :
    pieces stem count pending text = pieces stem count (stem.reverse ++ pending) after := by
  have shorter := length_of_strip? nonempty stripped
  cases text with
  | nil => cases shorter
  | cons c rest =>
    simp only [pieces, List.length_cons, splitFrom, missing, stripped]
    exact splitFrom_of_enough nonempty (Nat.le_of_lt_succ shorter) (Nat.le_refl _) _

theorem pieces_cons {c : Char} {rest : List Char} (apart : ¬ stem <+: c :: rest)
    (pending : List Char) :
    pieces stem count pending (c :: rest) = pieces stem count (c :: pending) rest := by
  have stripped := Text.strip?_eq_none apart
  simp only [pieces, List.length_cons, splitFrom, take?_of_strip?_none stripped, stripped]

/-- The steps of a split: the end, a placeholder, a stem without a number, any other character. -/
theorem split_induction (count : Nat) (nonempty : stem ≠ []) {motive : List Char → List Char → Prop}
    (nil : ∀ pending, motive pending [])
    (hole : ∀ pending {text id after}, take? stem count text = some (id, after) →
      motive [] after → motive pending text)
    (skip : ∀ pending {text after}, take? stem count text = none →
      Text.strip? stem text = some after → motive (stem.reverse ++ pending) after →
        motive pending text)
    (cons : ∀ pending {c rest}, ¬ stem <+: c :: rest → motive (c :: pending) rest →
      motive pending (c :: rest))
    (pending text : List Char) : motive pending text := by
  induction size : text.length using Nat.strongRecOn generalizing text pending with
  | ind length ih =>
    subst size
    cases taken : take? stem count text with
    | some found => exact hole pending taken (ih _ (length_of_take? nonempty taken) _ _ rfl)
    | none =>
      cases stripped : Text.strip? stem text with
      | some after =>
        exact skip pending taken stripped (ih _ (length_of_strip? nonempty stripped) _ _ rfl)
      | none =>
        cases text with
        | nil => exact nil pending
        | cons c rest =>
          refine cons pending ?_ (ih _ (Nat.lt_succ_self _) _ _ rfl)
          rintro ⟨after, same⟩
          rw [← same, Text.strip?_append] at stripped
          cases stripped

/-- Text in which no stem starts stays as it is. -/
theorem pieces_append {text rest : List Char}
    (apart : ∀ skipped left, text = skipped ++ left → left ≠ [] → ¬ stem <+: left ++ rest)
    (pending : List Char) :
    pieces stem count pending (text ++ rest) =
      pieces stem count (text.reverse ++ pending) rest := by
  induction text generalizing pending with
  | nil => rfl
  | cons c text ih =>
    have first : ¬ stem <+: c :: (text ++ rest) :=
      apart [] (c :: text) rfl (List.cons_ne_nil c text)
    have later := ih (fun skipped left same nonempty =>
      apart (c :: skipped) left (by rw [same, List.cons_append]) nonempty) (c :: pending)
    rw [List.cons_append, pieces_cons first, later, List.reverse_cons, List.append_assoc]
    rfl

/-- What is pending is at the start of the first piece. -/
theorem pieces_of_pending (count : Nat) (isStem : IsStem stem) {pending : List Char}
    (nonempty : pending ≠ []) (text : List Char) :
    ∃ first more, pieces stem count pending text = .text first :: more ∧
      pending.reverse <+: first := by
  induction pending, text using split_induction count isStem.nonempty with
  | nil pending => exact ⟨pending.reverse, [], by simp [flush, nonempty], List.prefix_rfl⟩
  | hole pending taken _ =>
    rw [pieces_of_take? isStem.nonempty taken]
    exact ⟨pending.reverse, _, by simp [flush, nonempty]; rfl, List.prefix_rfl⟩
  | skip pending missing stripped ih =>
    obtain ⟨first, more, split, starts⟩ := ih (List.append_ne_nil_of_right_ne_nil _ nonempty)
    rw [List.reverse_append] at starts
    rw [pieces_of_strip? isStem.nonempty missing stripped]
    exact ⟨first, more, split, (List.prefix_append _ _).trans starts⟩
  | cons pending apart ih =>
    obtain ⟨first, more, split, starts⟩ := ih (List.cons_ne_nil _ _)
    rw [List.reverse_cons] at starts
    rw [pieces_cons apart]
    exact ⟨first, more, split, (List.prefix_append _ _).trans starts⟩

theorem pieces_solid (nonempty : stem ≠ []) (pending text : List Char) :
    ∀ piece ∈ pieces stem count pending text, piece ≠ .text [] := by
  have flushed (pending : List Char) : ∀ piece ∈ flush pending, piece ≠ .text [] := by
    intro piece member
    cases pending with
    | nil => cases member
    | cons c pending =>
      cases List.mem_singleton.mp member
      simp
  induction pending, text using split_induction count nonempty with
  | nil pending => exact flushed pending
  | hole pending taken ih =>
    rw [pieces_of_take? nonempty taken]
    intro piece member
    cases List.mem_append.mp member with
    | inl earlier => exact flushed pending piece earlier
    | inr later =>
      cases List.mem_cons.mp later with
      | inl isHole => rw [isHole]; nofun
      | inr more => exact ih piece more
  | skip pending missing stripped ih => rwa [pieces_of_strip? nonempty missing stripped]
  | cons pending apart ih => rwa [pieces_cons apart]

end CssInline.Placeholder
