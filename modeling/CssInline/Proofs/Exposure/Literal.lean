import CssInline.Proofs.Exposure.Insertion

/-! The same text in a string and in a template literal. It is cut at placeholders in both, but in
a string not at one that starts inside a stem without a number. -/

namespace CssInline.Placeholder

/-- Whether no placeholder starts in `value` where `after` follows it. -/
def IsClear (stem : List Char) (count : Nat) (value after : List Char) : Prop :=
  ∀ left, left <:+ value → left ≠ [] → take? stem count (left ++ after) = none

/-- Pieces that a text consists of, with every placeholder in it as one of them. -/
inductive IsFullCut (stem : List Char) (count : Nat) : List Char → List Piece → Prop
  | nil : IsFullCut stem count [] []
  | hole {text after : List Char} {id : Nat} {pieces : List Piece} :
      take? stem count text = some (id, after) → IsFullCut stem count after pieces →
      IsFullCut stem count text (.hole id :: pieces)
  | text {value after : List Char} {pieces : List Piece} :
      IsClear stem count value after → IsFullCut stem count after pieces →
      IsFullCut stem count (value ++ after) (.text value :: pieces)

/-- Whether a text stands for itself in a template literal. -/
def IsPlain (text : List Char) : Prop :=
  ∀ c ∈ text, c ≠ '\x60' ∧ c ≠ '\\' ∧ c ≠ '$'

/-- Whether a stem starts in another one. -/
def StemsOverlap (stem text : List Char) : Prop :=
  ∃ start left after, stem = start ++ left ∧ start ≠ [] ∧ left ≠ [] ∧ stem ++ after <:+ text ∧
    stem <+: left ++ after

variable {stem : List Char} {count : Nat} {outer : List Region} {value text after : List Char}
  {pieces : List Piece}

/-! Texts in which no placeholder starts -/

@[simp] theorem isClear_nil (after : List Char) : IsClear stem count [] after :=
  fun _ inside nonempty => absurd (List.suffix_nil.mp inside) nonempty

theorem isClear_cons {c : Char} : IsClear stem count (c :: value) after ↔
    take? stem count (c :: (value ++ after)) = none ∧ IsClear stem count value after := by
  constructor
  · intro clear
    exact ⟨clear _ List.suffix_rfl (List.cons_ne_nil c value),
      fun left inside => clear left (inside.trans (List.suffix_cons c value))⟩
  · rintro ⟨here, clear⟩ left inside nonempty
    cases List.suffix_cons_iff.mp inside with
    | inl whole => rw [whole]; exact here
    | inr later => exact clear left later nonempty

theorem isClear_append {first second : List Char} : IsClear stem count (first ++ second) after ↔
    IsClear stem count first (second ++ after) ∧ IsClear stem count second after := by
  induction first with
  | nil => simp
  | cons c first ih => rw [List.cons_append, isClear_cons, isClear_cons, ih, and_assoc,
      List.append_assoc]

theorem IsFullCut.append (clear : IsClear stem count value after)
    (cut : IsFullCut stem count after pieces) :
    IsFullCut stem count (value ++ after) (Piece.ofText value ++ pieces) := by
  cases value with
  | nil => exact cut
  | cons c value => exact .text clear cut

theorem exists_isFullCut (count : Nat) (isStem : IsStem stem) (text : List Char) :
    ∃ pieces, IsFullCut stem count text pieces := by
  induction size : text.length using Nat.strongRecOn generalizing text with
  | ind length ih =>
    subst size
    cases taken : take? stem count text with
    | some found =>
      obtain ⟨pieces, cut⟩ := ih _ (length_of_take? isStem.nonempty taken) _ rfl
      exact ⟨_, .hole taken cut⟩
    | none =>
      cases text with
      | nil => exact ⟨[], .nil⟩
      | cons c rest =>
        obtain ⟨pieces, cut⟩ := ih _ (Nat.lt_succ_self _) rest rfl
        have alone : IsClear stem count [c] rest := isClear_cons.mpr ⟨taken, isClear_nil rest⟩
        exact ⟨_, .text alone cut⟩

/-! Template literals -/

theorem stays_of_plain {c : Char} (plain : c ≠ '\x60' ∧ c ≠ '\\' ∧ c ≠ '$') (rest : List Char) :
    Stays .template c rest := by
  intro outer previous
  simp [Scanner.stepRegion, plain]

theorem exposedIn_of_isClear (isStem : IsStem stem) (plain : IsPlain value)
    (clear : IsClear stem count value after) :
    exposedIn stem count .template outer (value ++ after) =
      value ++ exposedIn stem count .template outer after := by
  induction value with
  | nil => rfl
  | cons c value ih =>
    obtain ⟨here, later⟩ := isClear_cons.mp clear
    have stays := stays_of_plain (plain c List.mem_cons_self) (value ++ after)
    rw [List.cons_append, exposedIn_stays isStem (fun _ => here) stays,
      ih (fun d member => plain d (List.mem_cons_of_mem c member)) later]
    rfl

/-- Behind a text, no placeholder comes about that was not in it, but for one that goes on. -/
theorem take?_append_of_none (isStem : IsStem stem) {rest : List Char}
    (missing : take? stem count text = none) (ends : rest.head?.any isNameChar = false) :
    take? stem count (text ++ rest) = none := by
  cases taken : take? stem count (text ++ rest) with
  | none => rfl
  | some found =>
    obtain ⟨id, after⟩ := found
    obtain ⟨whole, noDigit, small, bounded⟩ := take?_eq_some.mp taken
    have again : ∃ more, text = name stem id ++ more ∧ after = more ++ rest := by
      rcases List.append_eq_append_iff.mp whole with ⟨ending, isName, behind⟩ | within
      · cases ending with
        | nil => exact ⟨[], by rw [isName, List.append_nil, List.append_nil], behind.symm⟩
        | cons c ending =>
          rw [behind] at ends
          have member : c ∈ name stem id := by rw [isName]; simp
          exact absurd (ends.symm.trans (isNameChar_of_mem_name isStem member)) Bool.false_ne_true
      · exact within
    obtain ⟨more, same, rfl⟩ := again
    have noDigitHere : more.head?.any Char.isDigit = false := by
      cases more with
      | nil => rfl
      | cons c more => exact noDigit
    rw [take?_eq_some.mpr ⟨same, noDigitHere, small, bounded⟩] at missing
    cases missing

theorem IsPlain.of_append {first second : List Char} (plain : IsPlain (first ++ second)) :
    IsPlain first ∧ IsPlain second :=
  ⟨fun c member => plain c (List.mem_append_left second member),
    fun c member => plain c (List.mem_append_right first member)⟩

/-- In a template literal all placeholders become substitutions. -/
theorem exposedIn_of_isFullCut (outer : List Region) (isStem : IsStem stem)
    (cut : IsFullCut stem count text pieces) (plain : IsPlain text) {rest : List Char}
    (ends : rest.head?.any isNameChar = false) :
    exposedIn stem count .template outer (text ++ rest) =
      pieces.flatMap (Piece.exposed stem) ++ exposedIn stem count .template outer rest := by
  induction cut with
  | nil => rfl
  | @hole text after id pieces taken cut ih =>
    have noDigit : rest.head?.any Char.isDigit = false := by
      cases rest with
      | nil => rfl
      | cons c rest => exact (Bool.or_eq_false_iff.mp ends).2
    rw [(take?_eq_some.mp taken).1] at plain
    rw [exposedIn_hole isStem (take?_append taken noDigit), ih plain.of_append.2,
      List.flatMap_cons, Piece.exposed]
    simp
  | @text value after pieces clear cut ih =>
    have clearBefore : IsClear stem count value (after ++ rest) := by
      intro left inside nonempty
      rw [← List.append_assoc]
      exact take?_append_of_none isStem (clear left inside nonempty) ends
    rw [List.append_assoc, exposedIn_of_isClear isStem plain.of_append.1 clearBefore,
      ih plain.of_append.2, List.flatMap_cons, List.append_assoc]
    rfl

theorem exposedIn_plain (outer : List Region) (isStem : IsStem stem)
    (cut : IsFullCut stem count text pieces) (plain : IsPlain text) :
    exposedIn stem count .template outer text = pieces.flatMap (Piece.exposed stem) := by
  have ends : ([] : List Char).head?.any isNameChar = false := rfl
  have whole := exposedIn_of_isFullCut outer isStem cut plain ends
  rwa [List.append_nil, exposedIn_nil, List.append_nil] at whole

theorem expose_literal (isStem : IsStem stem) (cut : IsFullCut stem count text pieces)
    (plain : IsPlain text) :
    expose stem count ('\x60' :: text ++ ['\x60']) =
      '\x60' :: pieces.flatMap (Piece.exposed stem) ++ ['\x60'] := by
  have opens (rest : List Char) : ∀ previous,
      (Scanner.mk (.code 0) [] previous).stepRegion '\x60' rest =
        (⟨.template, [.code 0], previous⟩, 0) :=
    fun previous => by simp [Scanner.stepRegion, Scanner.stepCodeMark, Scanner.enter]
  have opened (rest : List Char) : exposedIn stem count (.code 0) [] ('\x60' :: rest) =
      '\x60' :: exposedIn stem count .template [.code 0] rest :=
    exposedIn_pass isStem (fun same => by cases same) (opens rest)
  have closes : ∀ previous, (Scanner.mk .template [.code 0] previous).stepRegion '\x60' [] =
      (⟨.code 0, [], previous⟩, 0) :=
    fun previous => by simp [Scanner.stepRegion, Scanner.leave]
  have closed : exposedIn stem count .template [.code 0] ['\x60'] = ['\x60'] :=
    exposedIn_pass isStem (fun _ => take?_of_not_name isStem (by decide) []) closes
  rw [expose_eq, List.cons_append, opened,
    exposedIn_of_isFullCut _ isStem cut plain (by decide), closed]
  rfl

/-! Strings -/

/-- Names that are passed over hide no placeholder. -/
theorem isClear_of_exposed (isStem : IsStem stem) {names rest : List Char}
    (areNames : ∀ c ∈ names, isNameChar c = true)
    (passed : exposedIn stem count .template outer (names ++ after) = names ++ rest) :
    IsClear stem count names after := by
  induction names with
  | nil => exact isClear_nil after
  | cons c names ih =>
    have isName := areNames c List.mem_cons_self
    cases taken : take? stem count (c :: (names ++ after)) with
    | some found =>
      rw [List.cons_append, exposedIn_hole isStem taken] at passed
      rw [← (List.cons.inj passed).1] at isName
      exact absurd isName (by decide)
    | none =>
      have stays : Stays .template c (names ++ after) :=
        stays_of_isNameChar (fun _ same => by cases same) isName _
      rw [List.cons_append, exposedIn_stays isStem (fun _ => taken) stays] at passed
      exact isClear_cons.mpr ⟨taken, ih (fun d member => areNames d (List.mem_cons_of_mem c member))
        (List.cons.inj passed).2⟩

theorem isFullCut_of_hole (isStem : IsStem stem) {pending : List Char} {id : Nat}
    (clear : IsClear stem count pending.reverse text)
    (taken : take? stem count text = some (id, after))
    (cut : IsFullCut stem count after (Placeholder.pieces stem count [] after)) :
    IsFullCut stem count (pending.reverse ++ text)
      (Placeholder.pieces stem count pending text) := by
  rw [pieces_of_take? isStem.nonempty taken, flush_eq]
  exact .append clear (.hole taken cut)

theorem isClear_passed {pending passed : List Char}
    (clear : IsClear stem count pending.reverse (passed ++ after))
    (inside : IsClear stem count passed after) :
    IsClear stem count (passed.reverse ++ pending).reverse after := by
  rw [List.reverse_append, List.reverse_reverse]
  exact isClear_append.mpr ⟨clear, inside⟩

theorem exposed_ofText (value : List Char) :
    (Piece.ofText value).flatMap (Piece.exposed stem) = value := by
  cases value with
  | nil => rfl
  | cons c value => exact List.append_nil (c :: value)

/-- A split finds all placeholders if what becomes of the text is the same as in a template
literal. -/
theorem isFullCut_of_exposed (isStem : IsStem stem) (pending : List Char) (plain : IsPlain text)
    (clear : IsClear stem count pending.reverse text)
    (same : pending.reverse ++ exposedIn stem count .template outer text =
      (Placeholder.pieces stem count pending text).flatMap (Piece.exposed stem)) :
    IsFullCut stem count (pending.reverse ++ text)
      (Placeholder.pieces stem count pending text) := by
  induction pending, text using split_induction count isStem.nonempty with
  | nil pending =>
    rw [pieces_nil, flush_eq, ← List.append_nil (Piece.ofText _)]
    exact .append clear .nil
  | @hole pending text id after taken ih =>
    rw [pieces_of_take? isStem.nonempty taken, flush_eq, exposedIn_hole isStem taken,
      List.flatMap_append, exposed_ofText, List.flatMap_cons, Piece.exposed] at same
    have behind : exposedIn stem count .template outer after =
        (Placeholder.pieces stem count [] after).flatMap (Piece.exposed stem) := by
      simpa using same
    rw [(take?_eq_some.mp taken).1] at plain
    exact isFullCut_of_hole isStem clear taken
      (ih plain.of_append.2 (isClear_nil after) behind)
  | @skip pending text after missing stripped ih =>
    obtain rfl := Text.eq_append_of_strip? stripped
    have kept : stem.reverse ++ pending ≠ [] :=
      List.append_ne_nil_of_left_ne_nil (List.reverse_ne_nil_iff.mpr isStem.nonempty) _
    rw [pieces_of_strip? isStem.nonempty missing stripped] at same ⊢
    -- The stem stays where the text is a string, so that it stays in the template literal as well.
    obtain ⟨first, more, split, more', begins⟩ := pieces_of_pending count isStem kept after
    have passed : exposedIn stem count .template outer (stem ++ after) =
        stem ++ (more' ++ more.flatMap (Piece.exposed stem)) := by
      rw [split, List.flatMap_cons, Piece.exposed, ← begins] at same
      simpa using same
    have inside : IsClear stem count stem after :=
      isClear_of_exposed isStem (fun c member => isNameChar_of_mem_stem isStem member) passed
    rw [exposedIn_of_isClear isStem plain.of_append.1 inside] at same
    have cut := ih plain.of_append.2 (isClear_passed clear inside) (by simpa using same)
    simpa using cut
  | @cons pending c rest apart ih =>
    have missing : take? stem count (c :: rest) = none :=
      take?_of_strip?_none (Text.strip?_eq_none apart)
    have inside : IsClear stem count [c] rest := isClear_cons.mpr ⟨missing, isClear_nil rest⟩
    have plainBoth : IsPlain ([c] ++ rest) := plain
    have passed : exposedIn stem count .template outer (c :: rest) =
        c :: exposedIn stem count .template outer rest :=
      exposedIn_of_isClear isStem plainBoth.of_append.1 inside
    rw [pieces_cons apart] at same ⊢
    rw [passed] at same
    have cut := ih plainBoth.of_append.2 (isClear_passed clear inside) (by simpa using same)
    simpa using cut

theorem StemsOverlap.behind (overlap : StemsOverlap stem text) (passed : List Char) :
    StemsOverlap stem (passed ++ text) := by
  obtain ⟨start, left, after, split, begun, going, inside, starts⟩ := overlap
  exact ⟨start, left, after, split, begun, going, inside.trans (List.suffix_append passed text),
    starts⟩

/-- A split finds all placeholders if no stem starts in another one. -/
theorem isFullCut_of_disjoint (isStem : IsStem stem) (pending : List Char)
    (clear : IsClear stem count pending.reverse text) (disjoint : ¬ StemsOverlap stem text) :
    IsFullCut stem count (pending.reverse ++ text)
      (Placeholder.pieces stem count pending text) := by
  induction pending, text using split_induction count isStem.nonempty with
  | nil pending =>
    rw [pieces_nil, flush_eq, ← List.append_nil (Piece.ofText _)]
    exact .append clear .nil
  | @hole pending text id after taken ih =>
    rw [(take?_eq_some.mp taken).1] at disjoint
    exact isFullCut_of_hole isStem clear taken
      (ih (isClear_nil after) fun overlap => disjoint (overlap.behind _))
  | @skip pending text after missing stripped ih =>
    obtain rfl := Text.eq_append_of_strip? stripped
    have inside : IsClear stem count stem after := by
      rintro left ⟨start, whole⟩ nonempty
      by_cases begun : start = []
      · rw [begun, List.nil_append] at whole
        rw [whole, missing]
      · cases taken : take? stem count (left ++ after) with
        | none => rfl
        | some found =>
          exact absurd ⟨start, left, after, whole.symm, begun, nonempty, List.suffix_rfl,
            starts_of_take? taken⟩ disjoint
    rw [pieces_of_strip? isStem.nonempty missing stripped]
    have cut := ih (isClear_passed clear inside) fun overlap => disjoint (overlap.behind _)
    simpa using cut
  | @cons pending c rest apart ih =>
    have missing : take? stem count (c :: rest) = none :=
      take?_of_strip?_none (Text.strip?_eq_none apart)
    have inside : IsClear stem count [c] rest := isClear_cons.mpr ⟨missing, isClear_nil rest⟩
    rw [pieces_cons apart]
    have cut := ih (isClear_passed clear inside) fun overlap => disjoint (overlap.behind [c])
    simpa using cut

theorem exposed_orEmpty (pieces : List Piece) :
    (orEmpty pieces).flatMap (Piece.exposed stem) = pieces.flatMap (Piece.exposed stem) := by
  cases pieces <;> rfl

theorem isFullCut_orEmpty :
    IsFullCut stem count text (orEmpty pieces) ↔ IsFullCut stem count text pieces := by
  cases pieces with
  | cons piece pieces => rfl
  | nil =>
    constructor
    · intro cut
      cases cut with
      | text _ rest => exact rest
    · intro cut
      cases cut
      have clear : IsClear stem count [] [] := isClear_nil []
      exact .text clear .nil

/-- A text without marks and escapes is cut at all placeholders in a template literal. It becomes
the same in a string just if the split finds all of them too, and so wherever no stem starts in
another one. -/
theorem literal_agrees_with_string_iff (code : List Char) (count : Nat) {text : List Char}
    (plain : IsPlain text) :
    (∃ pieces, IsFullCut (freshStem code) count text pieces ∧
      expose (freshStem code) count ('\x60' :: text ++ ['\x60']) =
        '\x60' :: pieces.flatMap (Piece.exposed (freshStem code)) ++ ['\x60']) ∧
    (expose (freshStem code) count ('\x60' :: text ++ ['\x60']) =
        '\x60' :: (split (freshStem code) count text).flatMap (Piece.exposed (freshStem code)) ++
          ['\x60'] ↔
      IsFullCut (freshStem code) count text (split (freshStem code) count text)) ∧
    (¬ StemsOverlap (freshStem code) text →
      expose (freshStem code) count ('\x60' :: text ++ ['\x60']) =
        '\x60' :: (split (freshStem code) count text).flatMap (Piece.exposed (freshStem code)) ++
          ['\x60']) := by
  have isStem := freshStem_isStem code
  obtain ⟨whole, full⟩ := exists_isFullCut count isStem text
  rw [split_eq isStem.nonempty, exposed_orEmpty, isFullCut_orEmpty]
  refine ⟨⟨whole, full, expose_literal isStem full plain⟩, ⟨fun same => ?_, fun cut =>
    expose_literal isStem cut plain⟩, fun disjoint => ?_⟩
  · rw [expose_literal isStem full plain, ← exposedIn_plain [] isStem full plain] at same
    have inside := List.append_cancel_right (List.cons.inj same).2
    exact isFullCut_of_exposed isStem [] plain (isClear_nil text) inside
  · exact expose_literal isStem (isFullCut_of_disjoint isStem [] (isClear_nil text) disjoint) plain

/-- In `__css_hole__css_hole_0` the placeholder starts inside a stem without a number. It becomes a
substitution in a template literal and stays in a string. -/
theorem placeholder_in_stem_is_exposed_only :
    split (freshStem []) 1 "__css_hole__css_hole_0".toList =
        [.text "__css_hole__css_hole_0".toList] ∧
      expose (freshStem []) 1 "\x60__css_hole__css_hole_0\x60".toList =
        "\x60__css_hole$\x7b__css_hole_0\x7d\x60".toList ∧
      ¬ IsFullCut (freshStem []) 1 "__css_hole__css_hole_0".toList
        (split (freshStem []) 1 "__css_hole__css_hole_0".toList) := by
  have plain : IsPlain "__css_hole__css_hole_0".toList := by simp [IsPlain]
  refine ⟨by decide +kernel, by decide +kernel, fun cut => ?_⟩
  have same := (literal_agrees_with_string_iff [] 1 plain).2.1.mpr cut
  exact absurd same (by decide +kernel)

end CssInline.Placeholder
