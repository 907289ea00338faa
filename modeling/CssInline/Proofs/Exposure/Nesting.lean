import CssInline.Proofs.Exposure.Sweep

/-! The regions around the scanner are nested in every round, and every round goes over whole
characters of the text. -/

namespace CssInline.Placeholder

variable {stem : List Char} {count : Nat}

/-! Nested regions -/

def Region.isCode : Region → Bool
  | .code _ => true
  | _ => false

/-- Code at the bottom and at every second place from there, strings and templates at the places
between, and a string nowhere but on top. -/
structure IsNested (regions : List Region) : Prop where
  nonempty : regions ≠ []
  bottom : ∃ braces, regions.head? = some (.code braces)
  alternates : ∀ ⦃place region⦄, regions[place]? = some region →
    (region.isCode = true ↔ place % 2 = 0)
  onTop : ∀ ⦃place mark⦄, regions[place]? = some (.quoted mark) → place + 1 = regions.length

namespace IsNested

variable {front : List Region} {top region : Region}

theorem getElem?_concat_eq_some {place : Nat} :
    (front ++ [top])[place]? = some region ↔
      front[place]? = some region ∨ place = front.length ∧ top = region := by
  grind

theorem exists_concat {regions : List Region} (nonempty : regions ≠ []) :
    ∃ front top, regions = front ++ [top] :=
  ⟨_, _, (List.dropLast_concat_getLast nonempty).symm⟩

/-- A region of its kind on top of regions of which none is a string. -/
theorem concat
    (below : ∀ ⦃place region⦄, front[place]? = some region →
      (region.isCode = true ↔ place % 2 = 0) ∧ ∀ mark, region ≠ .quoted mark)
    (parity : top.isCode = true ↔ front.length % 2 = 0) : IsNested (front ++ [top]) where
  nonempty := List.append_ne_nil_of_right_ne_nil front (List.cons_ne_nil top [])
  bottom := by
    have code {region : Region} (isCode : region.isCode = true) :
        ∃ braces, some region = some (.code braces) := by
      cases region with
      | code braces => exact ⟨braces, rfl⟩
      | quoted mark => cases isCode
      | template => cases isCode
    cases front with
    | nil => exact code (parity.mpr rfl)
    | cons first front => exact code ((@below 0 first rfl).1.mpr rfl)
  alternates := by
    intro place region found
    cases getElem?_concat_eq_some.mp found with
    | inl inside => exact (below inside).1
    | inr last =>
      obtain ⟨rfl, rfl⟩ := last
      exact parity
  onTop := by
    intro place mark found
    cases getElem?_concat_eq_some.mp found with
    | inl inside => exact absurd rfl ((below inside).2 mark)
    | inr last => rw [last.1, List.length_append, List.length_singleton]

theorem below (nested : IsNested (front ++ [top])) ⦃place : Nat⦄ ⦃region : Region⦄
    (found : front[place]? = some region) :
    (region.isCode = true ↔ place % 2 = 0) ∧ ∀ mark, region ≠ .quoted mark := by
  have inside : place < front.length := (List.getElem?_eq_some_iff.mp found).1
  have foundHere : (front ++ [top])[place]? = some region := by
    rwa [List.getElem?_append_left inside]
  refine ⟨nested.alternates foundHere, ?_⟩
  rintro mark rfl
  have last := nested.onTop foundHere
  rw [List.length_append, List.length_singleton] at last
  omega

theorem parity (nested : IsNested (front ++ [top])) :
    top.isCode = true ↔ front.length % 2 = 0 :=
  nested.alternates List.getElem?_concat_length

/-- Something stands under a string or a template. -/
theorem front_ne_nil (nested : IsNested (front ++ [top])) (noCode : top.isCode = false) :
    front ≠ [] := by
  rintro rfl
  rw [nested.parity.mpr rfl] at noCode
  cases noCode

theorem replaced (nested : IsNested (front ++ [top])) (same : region.isCode = top.isCode) :
    IsNested (front ++ [region]) :=
  concat nested.below (by rw [same, nested.parity])

theorem entered (nested : IsNested (front ++ [top])) (unquoted : ∀ mark, top ≠ .quoted mark)
    (other : region.isCode = !top.isCode) : IsNested (front ++ [top] ++ [region]) := by
  apply concat
  · intro place region found
    cases getElem?_concat_eq_some.mp found with
    | inl inside => exact nested.below inside
    | inr last =>
      obtain ⟨rfl, rfl⟩ := last
      exact ⟨nested.parity, unquoted⟩
  · rw [other, Bool.not_eq_true', ← Bool.not_eq_true, nested.parity, List.length_append,
      List.length_singleton]
    omega

theorem left (nested : IsNested (front ++ [top])) (inside : front ≠ []) : IsNested front := by
  obtain ⟨further, last, rfl⟩ := exists_concat inside
  apply concat
  · intro place region found
    exact nested.below (getElem?_concat_eq_some.mpr (.inl found))
  · exact (nested.below (getElem?_concat_eq_some.mpr (.inr ⟨rfl, rfl⟩))).1

end IsNested

/-! Rounds -/

theorem IsNested.regionsAfter {regions : List Region} (nested : IsNested regions) (c : Char)
    (rest : List Char) : IsNested (regionsAfter regions c rest) := by
  obtain ⟨front, top, rfl⟩ := exists_concat nested.nonempty
  simp only [Placeholder.regionsAfter, innermost_concat, setInnermost_concat, List.dropLast_concat]
  cases top with
  | code braces =>
    dsimp only
    split_ifs with string template opens closes counted deep
    · exact nested.entered (fun _ same => by cases same) rfl
    · exact nested.entered (fun _ same => by cases same) rfl
    · exact nested.replaced rfl
    · exact nested.replaced rfl
    · exact nested.left (List.length_pos_iff.mp (by simpa using deep))
    · exact nested
    · exact nested
  | quoted mark =>
    dsimp only
    split_ifs
    · exact nested
    · exact nested.left (nested.front_ne_nil rfl)
    · exact nested
  | template =>
    dsimp only
    split_ifs
    · exact nested
    · exact nested.left (nested.front_ne_nil rfl)
    · exact nested.entered (fun _ same => by cases same) rfl
    · exact nested

theorem Scanner.outer_ne_nil {scanner : Scanner} (nested : IsNested scanner.regions)
    (noCode : scanner.region.isCode = false) : scanner.outer ≠ [] := by
  simpa using nested.front_ne_nil noCode

/-- A string or a template is left only with a region around it, so the scanner never falls back to
code of its own. -/
theorem regionsAfter_eq {scanner : Scanner} (nested : IsNested scanner.regions) (c : Char)
    (rest : List Char) :
    regionsAfter scanner.regions c rest = (scanner.stepRegion c rest).1.regions := by
  cases inRegion : scanner.region with
  | code braces =>
    rw [regionsAfter_code inRegion, Scanner.stepRegion, inRegion]
    dsimp only
    split_ifs with line block
    -- The slash of a comment is no mark.
    · rw [line.1]
      rfl
    · rw [block.1]
      rfl
    · rfl
  | quoted mark =>
    have inside := Scanner.outer_ne_nil nested (by rw [inRegion]; rfl)
    simp only [regionsAfter, Scanner.innermost_regions, Scanner.stepRegion, inRegion]
    split_ifs
    · rfl
    · exact (Scanner.regions_leave inside).symm
    · rfl
  | template =>
    have inside := Scanner.outer_ne_nil nested (by rw [inRegion]; rfl)
    simp only [regionsAfter, Scanner.innermost_regions, Scanner.stepRegion, inRegion,
      isPrefixOf_pair]
    split_ifs
    · rfl
    · exact (Scanner.regions_leave inside).symm
    · exact (Scanner.regions_enter _ _).symm
    · rfl

namespace Sweep

variable {scanner next : Scanner} {c : Char} {rest written after : List Char}

/-- A step of the scanner, where the regions are nested. -/
theorem pass?_of (nested : IsNested scanner.regions) (c : Char) (rest : List Char) :
    (Sweep.of scanner (c :: rest)).pass? c rest =
      some ((scanner.step c rest).1, .of (scanner.step c rest).2.2 (scanner.step c rest).2.1) := by
  have cut := Text.cut?_append (c :: rest.take (scanner.stepRegion c rest).2)
    (rest.drop (scanner.stepRegion c rest).2)
  rw [List.cons_append, List.take_append_drop, ← bytesPassed_eq] at cut
  rw [pass?, Sweep.of, Scanner.innermost_regions, cut, regionsAfter_eq nested]
  rfl

/-- What the scanner does in a step, the loop does in a round. The regions stay nested, and the
step goes over at least one character. -/
theorem round?_of (nonempty : stem ≠ []) (nested : IsNested scanner.regions)
    (step : (exposeAt? stem count scanner (c :: rest)).getD (scanner.step c rest) =
      (written, after, next)) :
    (Sweep.of scanner (c :: rest)).round? stem count = some (written, .of next after) ∧
      IsNested next.regions ∧ ∃ passed, passed ≠ [] ∧ c :: rest = passed ++ after := by
  cases exposed : exposeAt? stem count scanner (c :: rest) with
  | none =>
    rw [exposed, Option.getD_none] at step
    have whole : (scanner.step c rest).1 ++ (scanner.step c rest).2.1 = c :: rest := by
      simp [Scanner.step]
    have advances : (scanner.step c rest).1 ≠ [] := List.cons_ne_nil c _
    have kept : IsNested (scanner.step c rest).2.2.regions :=
      regionsAfter_eq nested c rest ▸ nested.regionsAfter c rest
    rw [round?_of_missing exposed, pass?_of nested]
    rw [step] at whole advances kept ⊢
    exact ⟨rfl, kept, written, advances, whole.symm⟩
  | some found =>
    rw [exposed, Option.getD_some] at step
    subst step
    obtain ⟨id, taken, -, rfl⟩ := exposeAt?_eq_some.mp exposed
    refine ⟨round?_of_exposed exposed, nested, name stem id, ?_, (take?_eq_some.mp taken).1⟩
    exact List.append_ne_nil_of_left_ne_nil nonempty _

/-- A loop with a round for every character ends, with what the scanner makes of the text. -/
theorem run?_of (nonempty : stem ≠ []) (nested : IsNested scanner.regions) {rounds : Nat}
    {text : List Char} (enough : text.length ≤ rounds) :
    (Sweep.of scanner text).run? stem count rounds =
      some (exposeFrom stem count rounds scanner text) := by
  -- Every round takes a character at least, so one round less is enough for what is left.
  induction rounds generalizing scanner text with
  | zero =>
    rw [List.length_eq_zero_iff.mp (Nat.le_zero.mp enough)]
    rfl
  | succ rounds ih =>
    cases text with
    | nil => rfl
    | cons c rest =>
      cases step : (exposeAt? stem count scanner (c :: rest)).getD (scanner.step c rest) with
      | mk written found =>
        obtain ⟨after, next⟩ := found
        obtain ⟨round, nestedNext, passed, advances, whole⟩ := round?_of nonempty nested step
        have shorter : after.length ≤ rounds := by
          have positive := List.length_pos_iff.mpr advances
          rw [whole, List.length_append] at enough
          omega
        have goes : ¬ (Sweep.of scanner (c :: rest)).rest.isEmpty = true :=
          Bool.false_ne_true
        rw [run?, if_neg goes, round, Option.bind_some, exposeFrom, step]
        exact congrArg (Option.map (written ++ ·)) (ih nestedNext shorter)

/-- In every round the regions are nested, and no round goes by without a character. -/
theorem after?_of (nonempty : stem ≠ []) (nested : IsNested scanner.regions) {rounds : Nat}
    {text : List Char} {sweep : Sweep}
    (kept : (Sweep.of scanner text).after? stem count rounds = some sweep) :
    ∃ scanner, sweep = .of scanner sweep.rest ∧ IsNested scanner.regions ∧
      rounds + sweep.rest.length ≤ text.length := by
  induction rounds generalizing scanner text with
  | zero =>
    cases kept
    exact ⟨scanner, rfl, nested, Nat.le_of_eq (Nat.zero_add _)⟩
  | succ rounds ih =>
    cases text with
    | nil => cases kept
    | cons c rest =>
      cases step : (exposeAt? stem count scanner (c :: rest)).getD (scanner.step c rest) with
      | mk written found =>
        obtain ⟨after, next⟩ := found
        obtain ⟨round, nestedNext, passed, advances, whole⟩ := round?_of nonempty nested step
        rw [after?, round, Option.bind_some] at kept
        obtain ⟨last, same, nestedLast, length⟩ := ih nestedNext kept
        have positive := List.length_pos_iff.mpr advances
        refine ⟨last, same, nestedLast, ?_⟩
        rw [whole, List.length_append]
        omega

end Sweep

/-- In every round over a text the regions are nested, and the round goes over whole characters of
what is left, at least one. The loop ends after at most one round for every character, and writes
what `expose` does. -/
theorem scan_stays_nested_and_advances (nonempty : stem ≠ []) (count : Nat) (output : List Char) :
    (Sweep.start output).run? stem count output.length = some (expose stem count output) ∧
      ∀ rounds sweep, (Sweep.start output).after? stem count rounds = some sweep →
        IsNested sweep.regions ∧ rounds + sweep.rest.length ≤ output.length ∧
        (sweep.rest ≠ [] → ∃ written next passed,
          sweep.round? stem count = some (written, next) ∧
          passed ≠ [] ∧ sweep.rest = passed ++ next.rest) := by
  have nested : IsNested Scanner.start.regions :=
    IsNested.concat (fun place region found => by cases found) ⟨fun _ => rfl, fun _ => rfl⟩
  refine ⟨Sweep.run?_of nonempty nested (Nat.le_refl _), fun rounds sweep kept => ?_⟩
  obtain ⟨scanner, same, nestedHere, length⟩ := Sweep.after?_of nonempty nested kept
  refine ⟨same ▸ nestedHere, length, fun going => ?_⟩
  obtain ⟨c, rest, left⟩ := List.exists_cons_of_ne_nil going
  cases step : (exposeAt? stem count scanner (c :: rest)).getD (scanner.step c rest) with
  | mk written found =>
    obtain ⟨round, -, passed, advances, whole⟩ := Sweep.round?_of nonempty nestedHere step
    rw [left] at same ⊢
    rw [same]
    exact ⟨written, .of found.2 found.1, passed, round, advances, whole⟩

/-- A brace too many, a template and a string that are not closed, and a backslash at the end. -/
theorem unclosed_regions_stay_nested :
    ['p'] ≠ [] ∧
      (Sweep.start ['}', '\x60', 'p', '0', '$', '{', '"', '\\']).after? ['p'] 1 6 =
        some ⟨[.code 0, .template, .code 0, .quoted '"'], some '\\', []⟩ ∧
      IsNested [.code 0, .template, .code 0, .quoted '"'] ∧
      (Sweep.start ['}', '\x60', 'p', '0', '$', '{', '"', '\\']).run? ['p'] 1 8 =
        some (expose ['p'] 1 ['}', '\x60', 'p', '0', '$', '{', '"', '\\']) := by
  have nonempty : ['p'] ≠ [] := List.cons_ne_nil _ _
  have kept : (Sweep.start ['}', '\x60', 'p', '0', '$', '{', '"', '\\']).after? ['p'] 1 6 =
      some ⟨[.code 0, .template, .code 0, .quoted '"'], some '\\', []⟩ := by decide +kernel
  obtain ⟨written, rounds⟩ := scan_stays_nested_and_advances nonempty 1
    ['}', '\x60', 'p', '0', '$', '{', '"', '\\']
  exact ⟨nonempty, kept, (rounds 6 _ kept).1, written⟩

end CssInline.Placeholder
