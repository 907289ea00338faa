import CssInline.Placeholder.Exposure
import CssInline.Proofs.Placeholder

/-! The steps in which placeholders are exposed. -/

namespace CssInline.Placeholder

variable {stem : List Char} {count : Nat}

/-! Steps of the scanner -/

theorem exposeAt?_eq_some {scanner next : Scanner} {text written after : List Char} :
    exposeAt? stem count scanner text = some (written, after, next) ↔
      ∃ id, take? stem count text = some (id, after) ∧
        scanner.exposed? (name stem id) after = some written ∧
        { scanner with previous := (name stem id).getLast? } = next := by
  simp only [exposeAt?, Option.bind_eq_bind, Option.bind_eq_some_iff, Prod.exists,
    Option.pure_def, Option.some.injEq, Prod.mk.injEq]
  constructor
  · rintro ⟨id, rest, taken, written', exposed, rfl, rfl, rfl⟩
    exact ⟨id, taken, exposed, rfl⟩
  · rintro ⟨id, taken, exposed, rfl⟩
    exact ⟨id, after, taken, written, exposed, rfl, rfl, rfl⟩

theorem exposeAt?_of_none (scanner : Scanner) {text : List Char}
    (missing : take? stem count text = none) : exposeAt? stem count scanner text = none := by
  rw [exposeAt?, missing]
  rfl

theorem exposeAt?_quoted {scanner : Scanner} {mark : Char} (quoted : scanner.region = .quoted mark)
    (text : List Char) : exposeAt? stem count scanner text = none := by
  have hidden (name after : List Char) : scanner.exposed? name after = none := by
    simp only [Scanner.exposed?, quoted]
  simp [exposeAt?, hidden]

theorem exposeFrom_of_enough (isStem : IsStem stem) {fuel fuel' : Nat} {text : List Char}
    (enough : text.length ≤ fuel) (enough' : text.length ≤ fuel') (scanner : Scanner) :
    exposeFrom stem count fuel scanner text = exposeFrom stem count fuel' scanner text := by
  induction fuel generalizing fuel' text scanner with
  | zero =>
    rw [List.length_eq_zero_iff.mp (Nat.le_zero.mp enough)]
    cases fuel' <;> rfl
  | succ fuel ih =>
    cases text with
    | nil => cases fuel' <;> rfl
    | cons c rest =>
      obtain ⟨fuel', rfl⟩ := Nat.exists_eq_succ_of_ne_zero (Nat.ne_of_gt (Nat.lt_of_lt_of_le
        (Nat.succ_pos rest.length) enough'))
      rw [List.length_cons] at enough enough'
      simp only [exposeFrom]
      cases exposed : exposeAt? stem count scanner (c :: rest) with
      | some found =>
        obtain ⟨_, after, _⟩ := found
        obtain ⟨id, taken, _⟩ := exposeAt?_eq_some.mp exposed
        have shorter := length_of_take? isStem.nonempty taken
        rw [List.length_cons] at shorter
        rw [Option.getD_some, ih (by omega) (by omega : after.length ≤ fuel')]
      | none =>
        have shorter : (scanner.step c rest).2.1.length ≤ rest.length := by
          simp [Scanner.step]
        rw [Option.getD_none, ih (Nat.le_trans shorter (Nat.le_of_succ_le_succ enough))
          (Nat.le_trans shorter (Nat.le_of_succ_le_succ enough'))]

/-- What `expose` makes of the text from a state of the scanner on. -/
def exposing (stem : List Char) (count : Nat) (scanner : Scanner) (text : List Char) : List Char :=
  exposeFrom stem count text.length scanner text

@[simp] theorem exposing_nil (scanner : Scanner) : exposing stem count scanner [] = [] := rfl

theorem exposing_of_exposed (isStem : IsStem stem) {scanner : Scanner} {text after : List Char}
    {id : Nat} {written : List Char} (taken : take? stem count text = some (id, after))
    (exposed : scanner.exposed? (name stem id) after = some written) :
    exposing stem count scanner text =
      written ++
        exposing stem count { scanner with previous := (name stem id).getLast? } after := by
  have found := exposeAt?_eq_some.mpr ⟨id, taken, exposed, rfl⟩
  have shorter := length_of_take? isStem.nonempty taken
  cases text with
  | nil => cases shorter
  | cons c rest =>
    rw [List.length_cons] at shorter
    simp only [exposing, List.length_cons, exposeFrom, found, Option.getD_some]
    rw [exposeFrom_of_enough isStem (Nat.le_of_lt_succ shorter) (Nat.le_refl _)]

theorem exposing_of_missing (isStem : IsStem stem) {scanner : Scanner} {c : Char}
    {rest : List Char} (missing : exposeAt? stem count scanner (c :: rest) = none) :
    exposing stem count scanner (c :: rest) = (scanner.step c rest).1 ++
      exposing stem count (scanner.step c rest).2.2 (scanner.step c rest).2.1 := by
  have shorter : (scanner.step c rest).2.1.length ≤ rest.length := by simp [Scanner.step]
  simp only [exposing, List.length_cons, exposeFrom, missing, Option.getD_none]
  rw [exposeFrom_of_enough isStem shorter (Nat.le_refl _)]

theorem exposing_of_step (isStem : IsStem stem) {scanner next : Scanner} {c : Char}
    {rest : List Char} {more : Nat} (missing : exposeAt? stem count scanner (c :: rest) = none)
    (step : scanner.stepRegion c rest = (next, more)) :
    exposing stem count scanner (c :: rest) =
      c :: rest.take more ++
        exposing stem count { next with previous := (c :: rest.take more).getLast? }
          (rest.drop more) := by
  rw [exposing_of_missing isStem missing, Scanner.step, step]

/-- A character that neither moves the scanner to another region nor takes others with it. -/
def Stays (region : Region) (c : Char) (rest : List Char) : Prop :=
  ∀ outer previous, (Scanner.mk region outer previous).stepRegion c rest =
    (⟨region, outer, previous⟩, 0)

theorem exposing_of_stays (isStem : IsStem stem) {region : Region} {c : Char} {rest : List Char}
    (stays : Stays region c rest) {outer : List Region} {previous : Option Char}
    (missing : exposeAt? stem count ⟨region, outer, previous⟩ (c :: rest) = none) :
    exposing stem count ⟨region, outer, previous⟩ (c :: rest) =
      c :: exposing stem count ⟨region, outer, some c⟩ rest := by
  rw [exposing_of_step isStem missing (stays outer previous)]
  rfl

/-! Names in the text -/

/-- Characters of which names of placeholders consist. -/
def isNameChar (c : Char) : Bool :=
  c == '_' || c.isAlpha || c.isDigit

theorem isNameChar_of_mem_stem (isStem : IsStem stem) {c : Char} (member : c ∈ stem) :
    isNameChar c = true := by
  cases isStem.letters c member <;> simp_all [isNameChar]

theorem isNameChar_of_mem_name (isStem : IsStem stem) {id : Nat} {c : Char}
    (member : c ∈ name stem id) : isNameChar c = true := by
  cases List.mem_append.mp member with
  | inl inStem => exact isNameChar_of_mem_stem isStem inStem
  | inr inNumber => simp [isNameChar, Text.isDigit_of_mem_decimal inNumber]

theorem take?_of_not_name (isStem : IsStem stem) {c : Char} (other : isNameChar c = false)
    (rest : List Char) : take? stem count (c :: rest) = none := by
  cases taken : take? stem count (c :: rest) with
  | none => rfl
  | some found =>
    obtain ⟨d, stemRest, first⟩ := List.exists_cons_of_ne_nil isStem.nonempty
    have same := (take?_eq_some.mp taken).1
    rw [name, first, List.cons_append, List.cons_append] at same
    have member : c ∈ name stem found.1 := by simp [name, first, (List.cons.inj same).1]
    rw [isNameChar_of_mem_name isStem member] at other
    cases other

theorem stays_of_isNameChar {region : Region} (unquoted : ∀ mark, region ≠ .quoted mark) {c : Char}
    (isName : isNameChar c = true) (rest : List Char) : Stays region c rest := by
  have other (d : Char) (isOther : isNameChar d = false) : c ≠ d := by
    rintro rfl
    rw [isName] at isOther
    cases isOther
  intro outer previous
  cases region with
  | quoted mark => exact absurd rfl (unquoted mark)
  | code braces =>
    simp [Scanner.stepRegion, Scanner.stepCodeMark, other '/' (by decide), other '\'' (by decide),
      other '"' (by decide), other '\x60' (by decide), other '{' (by decide),
      other '}' (by decide)]
  | template =>
    simp [Scanner.stepRegion, other '\\' (by decide), other '\x60' (by decide),
      other '$' (by decide)]

theorem name_of_take? (isStem : IsStem stem) {c : Char} {rest after : List Char} {id : Nat}
    (taken : take? stem count (c :: rest) = some (id, after)) :
    ∃ ending, name stem id = c :: ending ∧ rest = ending ++ after := by
  have whole := (take?_eq_some.mp taken).1
  obtain ⟨d, stemRest, first⟩ := List.exists_cons_of_ne_nil isStem.nonempty
  rw [name, first, List.cons_append, List.cons_append] at whole
  obtain ⟨rfl, rfl⟩ := List.cons.inj whole
  exact ⟨stemRest ++ Text.decimal id, by rw [name, first]; rfl, rfl⟩

/-- The end of a name behind its first character, passed over one by one, leads to where the name
leads that is passed over as a whole. -/
theorem exposing_name_end (count : Nat) (isStem : IsStem stem) {region : Region}
    (unquoted : ∀ mark, region ≠ .quoted mark) {id : Nat} {c : Char} {ending : List Char}
    (passed : List Char) (begins : name stem id = c :: passed ++ ending)
    (outer : List Region) (after : List Char) :
    exposing stem count ⟨region, outer, (c :: passed).getLast?⟩ (ending ++ after) =
      ending ++ exposing stem count ⟨region, outer, (name stem id).getLast?⟩ after := by
  induction ending generalizing passed with
  | nil => rw [begins, List.append_nil]; rfl
  | cons d ending ih =>
    have inside : take? stem count (d :: (ending ++ after)) = none :=
      take?_inside isStem begins (List.cons_ne_nil c passed) (List.cons_ne_nil d ending) after
    have isName : isNameChar d = true :=
      isNameChar_of_mem_name isStem (by rw [begins]; simp)
    have next := ih (passed ++ [d]) (by rw [begins]; simp)
    rw [← List.cons_append, List.getLast?_append, List.getLast?_singleton, Option.some_or] at next
    rw [List.cons_append, exposing_of_stays isStem (stays_of_isNameChar unquoted isName _)
      (exposeAt?_of_none _ inside)]
    exact congrArg (d :: ·) next

/-- A name in code stays as it is, whether or not it is a placeholder there. -/
theorem exposing_code_name (isStem : IsStem stem) {braces : Nat} {outer : List Region}
    {previous : Option Char} {text after : List Char} {id : Nat}
    (taken : take? stem count text = some (id, after)) :
    exposing stem count ⟨.code braces, outer, previous⟩ text =
      name stem id ++
        exposing stem count ⟨.code braces, outer, (name stem id).getLast?⟩ after := by
  have unquoted : ∀ mark, Region.code braces ≠ .quoted mark := fun _ same => by cases same
  by_cases apart : (Scanner.mk (.code braces) outer previous).isApart after = true
  · exact exposing_of_exposed isStem taken (if_pos apart)
  · have missing : exposeAt? stem count ⟨.code braces, outer, previous⟩ text = none := by
      rw [exposeAt?, taken]
      simp [Scanner.exposed?, apart]
    cases text with
    | nil => cases length_of_take? isStem.nonempty taken
    | cons c rest =>
      obtain ⟨ending, begins, rfl⟩ := name_of_take? isStem taken
      have isName : isNameChar c = true :=
        isNameChar_of_mem_name isStem (by rw [begins]; exact List.mem_cons_self)
      have behind := exposing_name_end count isStem unquoted [] begins outer after
      rw [exposing_of_stays isStem (stays_of_isNameChar unquoted isName _) missing, begins,
        ← begins]
      exact (congrArg (c :: ·) behind).trans (by rw [begins]; rfl)

/-! Steps without the character before -/

variable {region next : Region} {outer outerNext : List Region} {c : Char} {rest : List Char}
  {more : Nat}

/-- Where the scanner comes to does not depend on the character before. -/
theorem exists_stepRegion (region : Region) (outer : List Region) (c : Char) (rest : List Char) :
    ∃ next outerNext more, ∀ previous, (Scanner.mk region outer previous).stepRegion c rest =
      (⟨next, outerNext, previous⟩, more) := by
  have moved (previous : Option Char) : (Scanner.mk region outer previous).stepRegion c rest =
      (⟨((Scanner.mk region outer none).stepRegion c rest).1.region,
        ((Scanner.mk region outer none).stepRegion c rest).1.outer, previous⟩,
        ((Scanner.mk region outer none).stepRegion c rest).2) := by
    unfold Scanner.stepRegion Scanner.stepCodeMark Scanner.enter Scanner.leave
    dsimp only
    split <;> split_ifs <;> first | rfl | (cases outer <;> rfl)
  exact ⟨_, _, _, moved⟩

theorem exposing_previous (isStem : IsStem stem) (region : Region) (outer : List Region)
    (previous previous' : Option Char) (text : List Char) :
    exposing stem count ⟨region, outer, previous⟩ text =
      exposing stem count ⟨region, outer, previous'⟩ text := by
  cases text with
  | nil => rfl
  | cons c rest =>
    obtain ⟨next, outerNext, more, step⟩ := exists_stepRegion region outer c rest
    have stepping (missing : ∀ previous,
        exposeAt? stem count ⟨region, outer, previous⟩ (c :: rest) = none) :
        exposing stem count ⟨region, outer, previous⟩ (c :: rest) =
          exposing stem count ⟨region, outer, previous'⟩ (c :: rest) := by
      rw [exposing_of_step isStem (missing previous) (step previous),
        exposing_of_step isStem (missing previous') (step previous')]
    cases taken : take? stem count (c :: rest) with
    | none => exact stepping fun _ => exposeAt?_of_none _ taken
    | some found =>
      cases region with
      | code braces => rw [exposing_code_name isStem taken, exposing_code_name isStem taken]
      | quoted mark => exact stepping fun _ => exposeAt?_quoted rfl _
      | template => rw [exposing_of_exposed isStem taken rfl, exposing_of_exposed isStem taken rfl]

/-- What `expose` makes of a text in a region. -/
def exposedIn (stem : List Char) (count : Nat) (region : Region) (outer : List Region)
    (text : List Char) : List Char :=
  exposing stem count ⟨region, outer, none⟩ text

theorem exposing_eq (isStem : IsStem stem) (scanner : Scanner) (text : List Char) :
    exposing stem count scanner text =
      exposedIn stem count scanner.region scanner.outer text :=
  exposing_previous isStem scanner.region scanner.outer scanner.previous none text

theorem expose_eq (stem : List Char) (count : Nat) (output : List Char) :
    expose stem count output = exposedIn stem count (.code 0) [] output := rfl

@[simp] theorem exposedIn_nil (region : Region) (outer : List Region) :
    exposedIn stem count region outer [] = [] := rfl

/-- A placeholder among the characters of a template literal becomes a substitution. -/
theorem exposedIn_hole (isStem : IsStem stem) {text after : List Char} {id : Nat}
    (taken : take? stem count text = some (id, after)) :
    exposedIn stem count .template outer text =
      '$' :: '{' :: (name stem id ++ '}' :: exposedIn stem count .template outer after) := by
  have exposed : exposedIn stem count .template outer text = _ :=
    exposing_of_exposed isStem taken rfl
  rw [exposed, exposing_eq isStem _ after]
  simp

/-- Everything else stays as it is. -/
theorem exposedIn_pass (isStem : IsStem stem)
    (noHole : region = .template → take? stem count (c :: rest) = none)
    (step : ∀ previous, (Scanner.mk region outer previous).stepRegion c rest =
      (⟨next, outerNext, previous⟩, more)) :
    exposedIn stem count region outer (c :: rest) =
      c :: (rest.take more ++ exposedIn stem count next outerNext (rest.drop more)) := by
  have stepping (missing : exposeAt? stem count ⟨region, outer, none⟩ (c :: rest) = none) :
      exposedIn stem count region outer (c :: rest) =
        c :: (rest.take more ++ exposedIn stem count next outerNext (rest.drop more)) := by
    rw [exposedIn, exposing_of_step isStem missing (step none), exposing_eq isStem]
    rfl
  cases taken : take? stem count (c :: rest) with
  | none => exact stepping (exposeAt?_of_none _ taken)
  | some found =>
    cases region with
    | template => rw [noHole rfl] at taken; cases taken
    | quoted mark => exact stepping (exposeAt?_quoted rfl _)
    | code braces =>
      obtain ⟨ending, begins, rfl⟩ := name_of_take? isStem taken
      have unquoted : ∀ mark, Region.code braces ≠ .quoted mark := fun _ same => by cases same
      have isName : isNameChar c = true :=
        isNameChar_of_mem_name isStem (by rw [begins]; exact List.mem_cons_self)
      cases (step none).symm.trans (stays_of_isNameChar unquoted isName _ outer none)
      have behind := exposing_name_end count isStem unquoted [] begins outer found.2
      rw [exposing_eq isStem] at behind
      rw [exposedIn, exposing_code_name isStem taken, List.take_zero, List.drop_zero,
        List.nil_append, behind, begins]
      rfl

theorem exposedIn_stays (isStem : IsStem stem)
    (noHole : region = .template → take? stem count (c :: rest) = none)
    (stays : Stays region c rest) :
    exposedIn stem count region outer (c :: rest) =
      c :: exposedIn stem count region outer rest :=
  exposedIn_pass isStem noHole (stays outer)

/-- The steps through a text: the end, a placeholder in a template literal, anything else. -/
theorem exposure_induction (count : Nat) (isStem : IsStem stem)
    {motive : Region → List Region → List Char → Prop}
    (nil : ∀ region outer, motive region outer [])
    (hole : ∀ {outer text after id}, take? stem count text = some (id, after) →
      motive .template outer after → motive .template outer text)
    (pass : ∀ {region outer c rest next outerNext more},
      (region = .template → take? stem count (c :: rest) = none) →
      (∀ previous, (Scanner.mk region outer previous).stepRegion c rest =
        (⟨next, outerNext, previous⟩, more)) →
      motive next outerNext (rest.drop more) → motive region outer (c :: rest))
    (region : Region) (outer : List Region) (text : List Char) : motive region outer text := by
  induction size : text.length using Nat.strongRecOn generalizing region outer text with
  | ind length ih =>
    subst size
    have passing (noHole : region = .template → take? stem count text = none) :
        motive region outer text := by
      cases text with
      | nil => exact nil region outer
      | cons c rest =>
        obtain ⟨next, outerNext, more, step⟩ := exists_stepRegion region outer c rest
        have shorter : (rest.drop more).length < (c :: rest).length := by
          rw [List.length_drop, List.length_cons]
          omega
        exact pass noHole step (ih _ shorter next outerNext _ rfl)
    by_cases inTemplate : region = .template
    · subst inTemplate
      cases taken : take? stem count text with
      | none => exact passing fun _ => taken
      | some found =>
        have shorter := length_of_take? isStem.nonempty taken
        exact hole taken (ih _ shorter .template outer _ rfl)
    · exact passing fun isTemplate => absurd isTemplate inTemplate

end CssInline.Placeholder
