import CssInline.Proofs.Exposure.Step
import CssInline.Text.Bytes

/-! The loop of the scanner in bytes, over a stack of regions that could run empty and with cuts
that could miss the text. -/

namespace CssInline

namespace Text

/-! Places in bytes -/

/-- Cuts so many bytes off a text, unless that ends behind the text or inside a character. -/
def cut? (bytes : Nat) : List Char → Option (List Char × List Char)
  | [] => if bytes = 0 then some ([], []) else none
  | c :: text =>
    if bytes = 0 then some ([], c :: text)
    else if bytes < c.utf8Size then none
    else (cut? (bytes - c.utf8Size) text).map fun (front, back) => (c :: front, back)

/-- The number of bytes before the first `part` in a text. -/
def offset? (part : List Char) : List Char → Option Nat
  | [] => if part.isEmpty then some 0 else none
  | c :: text =>
    if part.isPrefixOf (c :: text) then some 0 else (offset? part text).map (c.utf8Size + ·)

theorem cut?_append (front back : List Char) :
    cut? (byteLength front) (front ++ back) = some (front, back) := by
  induction front with
  | nil => cases back <;> rfl
  | cons c front ih =>
    have positive := Char.utf8Size_pos c
    rw [List.cons_append, byteLength, cut?, if_neg (by omega), if_neg (by omega),
      Nat.add_sub_cancel_left, ih]
    rfl

theorem map_offset_getD (before more bytes : Nat) (found : Option Nat) :
    ((found.map (before + ·)).map (· + more)).getD (before + bytes) =
      before + (found.map (· + more)).getD bytes := by
  cases found with
  | none => rfl
  | some offset => exact Nat.add_assoc before offset more

theorem offset?_cons_of_ne {c first : Char} (other : first ≠ c) (part text : List Char) :
    offset? (first :: part) (c :: text) =
      (offset? (first :: part) text).map (c.utf8Size + ·) := by
  rw [offset?, List.isPrefixOf_cons_cons, beq_false_of_ne other, Bool.false_and,
    if_neg Bool.false_ne_true]

/-- A line ends before a feed or with the text. -/
theorem offset?_feed_getD (feed : Char) (text : List Char) :
    (offset? [feed] text).getD (byteLength text) = byteLength (text.takeWhile (· != feed)) := by
  induction text with
  | nil => rfl
  | cons c text ih =>
    by_cases same : feed = c
    · subst same
      simp [offset?, byteLength]
    · rw [offset?_cons_of_ne same, byteLength, Option.getD_map, ih,
        List.takeWhile_cons_of_pos (by simpa using Ne.symm same), byteLength]

end Text

namespace Placeholder

variable {stem : List Char} {count : Nat}

/-- A comment ends behind its marks or with the text. -/
theorem offset?_comment_getD (text : List Char) :
    ((Text.offset? ['*', '/'] text).map (· + 2)).getD (Text.byteLength text) =
      Text.byteLength (text.take (Scanner.blockCommentLength text)) := by
  induction text using Scanner.blockCommentLength.induct with
  | case1 rest => rfl
  | case2 c rest other ih =>
    have apart : ¬ ['*', '/'].isPrefixOf (c :: rest) = true := by
      intro starts
      obtain ⟨tail, same⟩ := List.isPrefixOf_iff_prefix.mp starts
      cases same
      exact other tail rfl rfl
    have length : Scanner.blockCommentLength (c :: rest) =
        Scanner.blockCommentLength rest + 1 := by
      rw [Scanner.blockCommentLength]
      exact other
    rw [length, List.take_succ_cons, Text.offset?, if_neg apart, Text.byteLength,
      Text.map_offset_getD, ih, Text.byteLength]
  | case3 => rfl

/-- The placeholder at the start of `text` with a number below `count`, and its length in bytes. -/
def measured? (stem : List Char) (count : Nat) (text : List Char) : Option (Nat × Nat) :=
  (Text.strip? stem text).bind fun rest =>
    ((readId? (rest.takeWhile Char.isDigit)).filter (· < count)).map fun id =>
      (id, Text.byteLength stem + Text.byteLength (rest.takeWhile Char.isDigit))

theorem measured?_eq (stem : List Char) (count : Nat) (text : List Char) :
    measured? stem count text = (take? stem count text).map fun found =>
      (found.1, Text.byteLength (name stem found.1)) := by
  rw [measured?, take?, Option.map_bind]
  refine Option.bind_congr fun rest _ => ?_
  rw [Function.comp_apply]
  cases read : (readId? (rest.takeWhile Char.isDigit)).filter (· < count) with
  | none => rfl
  | some id =>
    have digits := (readId?_eq_some.mp (Option.filter_eq_some_iff.mp read).1).1
    simp only [Option.map_some, name, Text.byteLength_append, digits]

/-! The loop over the text -/

/-- What the loop over a text keeps: the regions it is in, outermost first, the character before,
and the text that is left. -/
structure Sweep where
  regions : List Region
  previous : Option Char
  rest : List Char
deriving DecidableEq

/-- The region on top, or code if there is none. -/
def innermost (regions : List Region) : Region :=
  regions.getLast?.getD (.code 0)

/-- Another region in the place of the one on top, if there is one. -/
def setInnermost (regions : List Region) (region : Region) : List Region :=
  if regions.isEmpty then [] else regions.dropLast ++ [region]

@[simp] theorem innermost_concat (front : List Region) (top : Region) :
    innermost (front ++ [top]) = top := by
  rw [innermost, List.getLast?_concat, Option.getD_some]

@[simp] theorem setInnermost_concat (front : List Region) (top region : Region) :
    setInnermost (front ++ [top]) region = front ++ [region] := by
  rw [setInnermost, if_neg (by simp), List.dropLast_concat]

/-- The regions after the character `c`. -/
def regionsAfter (regions : List Region) (c : Char) (rest : List Char) : List Region :=
  match innermost regions with
  | .code braces =>
    if c = '\'' ∨ c = '"' then regions ++ [.quoted c]
    else if c = '\x60' then regions ++ [.template]
    else if c = '{' then setInnermost regions (.code (braces + 1))
    else if c = '}' then
      if 0 < braces then setInnermost regions (.code (braces - 1))
      else if 1 < regions.length then regions.dropLast
      else regions
    else regions
  | .quoted mark =>
    if c = '\\' then regions
    else if c = mark then regions.dropLast
    else regions
  | .template =>
    if c = '\\' then regions
    else if c = '\x60' then regions.dropLast
    else if ['$', '{'].isPrefixOf (c :: rest) then regions ++ [.code 0]
    else regions

/-- The number of bytes that are passed with the character `c`. -/
def bytesPassed (region : Region) (c : Char) (rest : List Char) : Nat :=
  let text := c :: rest
  let escaped := c.utf8Size + (rest.head?.map Char.utf8Size).getD 0
  match region with
  | .code _ =>
    if ['/', '/'].isPrefixOf text then (Text.offset? ['\n'] text).getD (Text.byteLength text)
    else if ['/', '*'].isPrefixOf text then
      ((Text.offset? ['*', '/'] text).map (· + 2)).getD (Text.byteLength text)
    else c.utf8Size
  | .quoted _ => if c = '\\' then escaped else c.utf8Size
  | .template =>
    if c = '\\' then escaped
    else if ['$', '{'].isPrefixOf text then 2
    else c.utf8Size

namespace Sweep

def start (output : List Char) : Sweep := ⟨[.code 0], none, output⟩

/-- Passes over a piece of text, unless the text is cut behind its end or inside a character. -/
def pass? (sweep : Sweep) (c : Char) (rest : List Char) : Option (List Char × Sweep) :=
  (Text.cut? (bytesPassed (innermost sweep.regions) c rest) (c :: rest)).map fun (passed, after) =>
    (passed, ⟨regionsAfter sweep.regions c rest, passed.getLast?, after⟩)

/-- What a placeholder called `name` becomes in the region on top. -/
def exposed? (sweep : Sweep) (name after : List Char) : Option (List Char) :=
  (Scanner.mk (innermost sweep.regions) [] sweep.previous).exposed? name after

/-- One round of the loop: what is written in it, and what is kept for the next. There is none at
the end of the text, nor where the text is cut behind its end or inside a character. -/
def round? (stem : List Char) (count : Nat) (sweep : Sweep) : Option (List Char × Sweep) :=
  match sweep.rest with
  | [] => none
  | c :: rest =>
    match measured? stem count (c :: rest) with
    | none => sweep.pass? c rest
    | some (id, length) =>
      (Text.cut? length (c :: rest)).bind fun (held, after) =>
        match sweep.exposed? (name stem id) after with
        | none => sweep.pass? c rest
        | some written => some (written, { sweep with previous := held.getLast?, rest := after })

/-- What is kept after so many rounds. -/
def after? (stem : List Char) (count : Nat) : Nat → Sweep → Option Sweep
  | 0, sweep => some sweep
  | rounds + 1, sweep =>
    (sweep.round? stem count).bind fun (_, next) => after? stem count rounds next

/-- What is written in at most so many rounds. There is nothing if text is left after them. -/
def run? (stem : List Char) (count : Nat) : Nat → Sweep → Option (List Char)
  | 0, sweep => if sweep.rest.isEmpty then some [] else none
  | rounds + 1, sweep =>
    if sweep.rest.isEmpty then some []
    else (sweep.round? stem count).bind fun (written, next) =>
      (run? stem count rounds next).map (written ++ ·)

end Sweep

/-! The scanner in the loop -/

/-- The regions that the scanner is in, outermost first. -/
def Scanner.regions (scanner : Scanner) : List Region :=
  scanner.outer.reverse ++ [scanner.region]

def Sweep.of (scanner : Scanner) (text : List Char) : Sweep :=
  ⟨scanner.regions, scanner.previous, text⟩

namespace Scanner

variable {scanner : Scanner}

@[simp] theorem innermost_regions (scanner : Scanner) :
    innermost scanner.regions = scanner.region :=
  innermost_concat _ _

theorem setInnermost_regions (scanner : Scanner) (region : Region) :
    setInnermost scanner.regions region = { scanner with region }.regions :=
  setInnermost_concat _ _ _

theorem regions_enter (scanner : Scanner) (region : Region) :
    (scanner.enter region).regions = scanner.regions ++ [region] := by
  simp [regions, enter]

theorem regions_leave (inside : scanner.outer ≠ []) :
    scanner.leave.regions = scanner.regions.dropLast := by
  obtain ⟨region, outer, previous⟩ := scanner
  cases outer with
  | nil => exact absurd rfl inside
  | cons further outer => simp [regions, leave]

theorem isEmpty_outer : scanner.outer.isEmpty = true ↔ ¬ 1 < scanner.regions.length := by
  simp [regions]

end Scanner

theorem isPrefixOf_pair {first second c : Char} {rest : List Char} :
    [first, second].isPrefixOf (c :: rest) = true ↔ c = first ∧ rest.head? = some second := by
  rw [List.isPrefixOf_iff_prefix, List.cons_prefix_cons, @eq_comm _ first]
  cases rest with
  | nil => simp
  | cons d rest => simp [@eq_comm _ second]

theorem regionsAfter_code {scanner : Scanner} {braces : Nat} (code : scanner.region = .code braces)
    (c : Char) (rest : List Char) :
    regionsAfter scanner.regions c rest = (scanner.stepCodeMark braces c).regions := by
  simp only [regionsAfter, Scanner.innermost_regions, code, Scanner.setInnermost_regions,
    Scanner.stepCodeMark, Scanner.isEmpty_outer, ite_not]
  split_ifs with string template opens closes counted deep
  · exact (Scanner.regions_enter _ _).symm
  · exact (Scanner.regions_enter _ _).symm
  · rfl
  · rfl
  · refine (Scanner.regions_leave ?_).symm
    rintro outermost
    exact Scanner.isEmpty_outer.mp (List.isEmpty_iff.mpr outermost) deep
  · rfl
  · rfl

theorem length_escaped (c : Char) (rest : List Char) :
    c.utf8Size + (rest.head?.map Char.utf8Size).getD 0 = Text.byteLength (c :: rest.take 1) := by
  cases rest <;> rfl

theorem bytesPassed_eq (scanner : Scanner) (c : Char) (rest : List Char) :
    bytesPassed scanner.region c rest =
      Text.byteLength (c :: rest.take (scanner.stepRegion c rest).2) := by
  simp only [bytesPassed, Scanner.stepRegion, isPrefixOf_pair, length_escaped]
  cases scanner.region with
  | code braces =>
    dsimp only
    split_ifs with line block
    · obtain ⟨rfl, -⟩ := line
      rw [Text.offset?_feed_getD, ← List.prefix_iff_eq_take.mp (List.takeWhile_prefix _)]
      rfl
    · obtain ⟨rfl, -⟩ := block
      rw [Text.offset?_cons_of_ne (by decide), Text.byteLength, Text.map_offset_getD,
        offset?_comment_getD, Text.byteLength]
    · rfl
  | quoted mark =>
    dsimp only
    split_ifs <;> rfl
  | template =>
    dsimp only
    by_cases opens : c = '$' ∧ rest.head? = some '{'
    · obtain ⟨rfl, brace⟩ := opens
      obtain ⟨more, rfl⟩ := List.head?_eq_some_iff.mp brace
      rfl
    · rw [if_neg opens, if_neg opens]
      split_ifs <;> rfl

namespace Sweep

variable {scanner next : Scanner} {c : Char} {rest written after : List Char}

theorem exposed?_of (scanner : Scanner) (text name after : List Char) :
    (Sweep.of scanner text).exposed? name after = scanner.exposed? name after := by
  rw [exposed?, Sweep.of, Scanner.innermost_regions]
  rfl

theorem round?_of_take? {id : Nat} (taken : take? stem count (c :: rest) = some (id, after)) :
    (Sweep.of scanner (c :: rest)).round? stem count =
      match scanner.exposed? (name stem id) after with
      | none => (Sweep.of scanner (c :: rest)).pass? c rest
      | some written =>
        some (written, .of { scanner with previous := (name stem id).getLast? } after) := by
  have cut := Text.cut?_append (name stem id) after
  rw [← (take?_eq_some.mp taken).1] at cut
  rw [← exposed?_of scanner (c :: rest)]
  simp only [round?, Sweep.of, measured?_eq, taken, Option.map_some, cut, Option.bind_some]
  rfl

theorem round?_of_exposed
    (exposed : exposeAt? stem count scanner (c :: rest) = some (written, after, next)) :
    (Sweep.of scanner (c :: rest)).round? stem count = some (written, .of next after) := by
  obtain ⟨id, taken, isWritten, rfl⟩ := exposeAt?_eq_some.mp exposed
  rw [round?_of_take? taken, isWritten]

theorem round?_of_missing (missing : exposeAt? stem count scanner (c :: rest) = none) :
    (Sweep.of scanner (c :: rest)).round? stem count =
      (Sweep.of scanner (c :: rest)).pass? c rest := by
  cases taken : take? stem count (c :: rest) with
  | none => simp only [round?, Sweep.of, measured?_eq, taken, Option.map_none]
  | some found =>
    cases exposed : scanner.exposed? (name stem found.1) found.2 with
    | none => rw [round?_of_take? taken, exposed]
    | some written =>
      rw [exposeAt?_eq_some.mpr ⟨found.1, taken, exposed, rfl⟩] at missing
      cases missing

end Sweep

end Placeholder

end CssInline
