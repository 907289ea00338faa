import CssInline.Config.Slot

/-! Matchers as patterns: what the pattern of a matcher denotes, and where it is found. -/

namespace CssInline

/-- Patterns without classes and repetition. The alternatives of a group are sequences of parts. -/
inductive Pattern where
  | char (c : Char)
  | any
  | start
  | stop
  | group (alternatives : List (List Pattern))

namespace Pattern

/-! Where patterns match -/

mutual
/-- The pattern matches what stands between `before` and `after`. -/
inductive Matches : Pattern → (before here after : List Char) → Prop
  | char (c : Char) (before after : List Char) : Matches (.char c) before [c] after
  | any {c : Char} (noFeed : c ≠ '\n') (before after : List Char) :
      Matches .any before [c] after
  | start (after : List Char) : Matches .start [] [] after
  | stop (before : List Char) : Matches .stop before [] []
  | group {alternatives : List (List Pattern)} {parts : List Pattern}
      {before here after : List Char} (member : parts ∈ alternatives)
      (inside : MatchesAll parts before here after) :
      Matches (.group alternatives) before here after

/-- The parts match what stands between `before` and `after`, one after the other. -/
inductive MatchesAll : List Pattern → (before here after : List Char) → Prop
  | nil (before after : List Char) : MatchesAll [] before [] after
  | cons {part : Pattern} {parts : List Pattern} {before here later after : List Char}
      (first : Matches part before here (later ++ after))
      (others : MatchesAll parts (before ++ here) later after) :
      MatchesAll (part :: parts) before (here ++ later) after
end

def IsFoundIn (pattern : Pattern) (text : List Char) : Prop :=
  ∃ before here after, text = before ++ here ++ after ∧ pattern.Matches before here after

/-- One of the texts, at the end of what is searched. -/
def endingIn (names : List (List Char)) : Pattern :=
  .group [[.group (names.map (·.map char)), .stop]]

theorem matchesAll_nil {before here after : List Char} :
    MatchesAll [] before here after ↔ here = [] := by
  constructor
  · rintro ⟨⟩
    rfl
  · rintro rfl
    exact .nil before after

theorem matchesAll_cons {part : Pattern} {parts : List Pattern} {before here after : List Char} :
    MatchesAll (part :: parts) before here after ↔
      ∃ now later, here = now ++ later ∧ part.Matches before now (later ++ after) ∧
        MatchesAll parts (before ++ now) later after := by
  constructor
  · intro found
    cases found with
    | cons first others => exact ⟨_, _, rfl, first, others⟩
  · rintro ⟨now, later, rfl, first, others⟩
    exact .cons first others

theorem matches_char {c : Char} {before here after : List Char} :
    (char c).Matches before here after ↔ here = [c] := by
  constructor
  · rintro ⟨⟩
    rfl
  · rintro rfl
    exact .char c before after

theorem matches_stop {before here after : List Char} :
    stop.Matches before here after ↔ here = [] ∧ after = [] := by
  constructor
  · rintro ⟨⟩
    exact ⟨rfl, rfl⟩
  · rintro ⟨rfl, rfl⟩
    exact .stop before

theorem matches_group {alternatives : List (List Pattern)} {before here after : List Char} :
    (group alternatives).Matches before here after ↔
      ∃ parts ∈ alternatives, MatchesAll parts before here after := by
  constructor
  · intro found
    cases found with
    | group member inside => exact ⟨_, member, inside⟩
  · rintro ⟨parts, member, inside⟩
    exact .group member inside

theorem matchesAll_chars {name before here after : List Char} :
    MatchesAll (name.map char) before here after ↔ here = name := by
  induction name generalizing before here with
  | nil => exact matchesAll_nil
  | cons c name ih =>
    rw [List.map_cons, matchesAll_cons]
    constructor
    · rintro ⟨now, later, rfl, first, others⟩
      rw [matches_char.mp first, ih.mp others, List.singleton_append]
    · rintro rfl
      exact ⟨[c], name, rfl, matches_char.mpr rfl, ih.mpr rfl⟩

theorem matches_choice {names : List (List Char)} {before here after : List Char} :
    (group (names.map (·.map char))).Matches before here after ↔ here ∈ names := by
  rw [matches_group]
  constructor
  · rintro ⟨parts, member, inside⟩
    obtain ⟨name, isName, rfl⟩ := List.mem_map.mp member
    rwa [matchesAll_chars.mp inside]
  · intro isName
    exact ⟨_, List.mem_map_of_mem isName, matchesAll_chars.mpr rfl⟩

theorem matches_endingIn {names : List (List Char)} {before here after : List Char} :
    (endingIn names).Matches before here after ↔ here ∈ names ∧ after = [] := by
  rw [endingIn, matches_group]
  constructor
  · rintro ⟨parts, member, inside⟩
    rw [List.mem_singleton.mp member, matchesAll_cons] at inside
    obtain ⟨now, later, rfl, isName, inside⟩ := inside
    obtain ⟨_, _, rfl, atEnd, others⟩ := matchesAll_cons.mp inside
    obtain ⟨rfl, ended⟩ := matches_stop.mp atEnd
    obtain ⟨rfl, rfl⟩ := List.append_eq_nil_iff.mp ended
    rw [List.append_nil, List.append_nil]
    exact ⟨matches_choice.mp isName, rfl⟩
  · rintro ⟨isName, rfl⟩
    refine ⟨_, List.mem_singleton_self _, matchesAll_cons.mpr ⟨here, [], ?_, ?_, ?_⟩⟩
    · rw [List.append_nil]
    · exact matches_choice.mpr isName
    · exact matchesAll_cons.mpr ⟨[], [], rfl, matches_stop.mpr ⟨rfl, rfl⟩, .nil _ _⟩

/-- A search without an anchor at the start finds one of the texts just where a text ends so. -/
theorem isFoundIn_endingIn {names : List (List Char)} {text : List Char} :
    (endingIn names).IsFoundIn text ↔ ∃ name ∈ names, name <:+ text := by
  constructor
  · rintro ⟨before, here, after, split, found⟩
    obtain ⟨isName, rfl⟩ := matches_endingIn.mp found
    exact ⟨here, isName, before, by rw [split, List.append_nil]⟩
  · rintro ⟨name, isName, before, split⟩
    exact ⟨before, name, [], by rw [List.append_nil, split], matches_endingIn.mpr ⟨isName, rfl⟩⟩

/-! Reading patterns -/

inductive Token where
  | part (pattern : Pattern)
  | bar
  | opening
  | closing

namespace Token

def chars (text : List Char) : List Token :=
  text.map fun c => .part (.char c)

end Token

/-- A backslash takes the meaning from any of these. Before other characters it stands for a class
or an anchor. -/
def isEscapable (c : Char) : Bool :=
  c.toNat < 128 && !c.isAlphanum && c != '<' && c != '>'

def token? (c : Char) : Option Token :=
  match c with
  | '.' => some (.part .any)
  | '^' => some (.part .start)
  | '$' => some (.part .stop)
  | '|' => some .bar
  | ')' => some .closing
  | '\\' | '(' | '[' | '{' | '?' | '*' | '+' => none
  | c => some (.part (.char c))

def tokens? : List Char → Option (List Token)
  | [] => some []
  | '\\' :: c :: text =>
    if isEscapable c then (tokens? text).map (.part (.char c) :: ·) else none
  | '(' :: '?' :: ':' :: text => (tokens? text).map (.opening :: ·)
  | c :: text => (token? c).bind fun token => (tokens? text).map (token :: ·)

/-- A group that is being read. -/
structure Unclosed where
  alternatives : List (List Pattern)
  /-- The parts of the last alternative so far. -/
  parts : List Pattern

namespace Unclosed

def empty : Unclosed := ⟨[], []⟩

def add (unclosed : Unclosed) (part : Pattern) : Unclosed :=
  { unclosed with parts := unclosed.parts ++ [part] }

def next (unclosed : Unclosed) : Unclosed :=
  ⟨unclosed.alternatives ++ [unclosed.parts], []⟩

def close (unclosed : Unclosed) : Pattern :=
  .group unclosed.next.alternatives

end Unclosed

/-- `outer` are the groups around the one that is being read, from the inside out. -/
def build (outer : List Unclosed) (inner : Unclosed) : List Token → Option Pattern
  | [] => if outer.isEmpty then some inner.close else none
  | .part pattern :: tokens => build outer (inner.add pattern) tokens
  | .bar :: tokens => build outer inner.next tokens
  | .opening :: tokens => build (inner :: outer) .empty tokens
  | .closing :: tokens =>
    match outer with
    | [] => none
    | around :: outer => build outer (around.add inner.close) tokens

/-- A text as a pattern. Classes, repetition, flags and groups with a name are not read. -/
def read? (text : List Char) : Option Pattern :=
  (tokens? text).bind (build [] .empty)

/-! The pattern of a matcher -/

theorem isEscapable_of_isPatternMark {c : Char} (isMark : Matcher.isPatternMark c = true) :
    isEscapable c = true := by
  rw [Matcher.isPatternMark, List.contains_iff_mem] at isMark
  exact List.all_eq_true.mp (by decide) c isMark

theorem tokens?_of_plain {c : Char} (plain : Matcher.isPatternMark c = false)
    (text : List Char) : tokens? (c :: text) = (tokens? text).map (.part (.char c) :: ·) := by
  have read : token? c = some (.part (.char c)) := by
    -- All characters that are read as something else are marks.
    unfold token?
    split <;> first | rfl | cases plain
  rw [tokens?, read, Option.bind_some]
  · rintro _ _ rfl
    cases plain
  · rintro _ rfl
    cases plain

theorem tokens?_escapePattern (name rest : List Char) :
    tokens? (Matcher.escapePattern name ++ rest) =
      (tokens? rest).map (Token.chars name ++ ·) := by
  unfold Matcher.escapePattern
  induction name with
  | nil => exact (Option.map_id' (x := tokens? rest)).symm
  | cons c name ih =>
    have first (text : List Char) :
        tokens? ((if Matcher.isPatternMark c then ['\\', c] else [c]) ++ text) =
          (tokens? text).map (.part (.char c) :: ·) := by
      split
      · rename_i isMark
        simp only [List.cons_append, List.nil_append, tokens?]
        rw [if_pos (isEscapable_of_isPatternMark isMark)]
      · rename_i plain
        exact tokens?_of_plain (Bool.eq_false_iff.mpr plain) text
    rw [List.flatMap_cons, List.append_assoc, first, ih, Option.map_map]
    rfl

theorem tokens?_choice (names : List (List Char)) (rest : List Char) :
    tokens? (List.intercalate ['|'] (names.map Matcher.escapePattern) ++ rest) =
      (tokens? rest).map (List.intercalate [.bar] (names.map Token.chars) ++ ·) := by
  induction names with
  | nil => exact (Option.map_id' (x := tokens? rest)).symm
  | cons name names ih =>
    cases names with
    | nil =>
      rw [List.map_singleton, List.map_singleton, List.intercalate_singleton,
        List.intercalate_singleton]
      exact tokens?_escapePattern name rest
    | cons other names =>
      simp only [List.map_cons, List.intercalate_cons_cons, List.append_assoc,
        tokens?_escapePattern, List.cons_append, List.nil_append] at ih ⊢
      have bar (text : List Char) : tokens? ('|' :: text) = (tokens? text).map (.bar :: ·) := rfl
      rw [bar, ih, Option.map_map, Option.map_map]
      rfl

theorem build_chars (outer : List Unclosed) (inner : Unclosed) (name : List Char)
    (tokens : List Token) :
    build outer inner (Token.chars name ++ tokens) =
      build outer { inner with parts := inner.parts ++ name.map char } tokens := by
  unfold Token.chars
  induction name generalizing inner with
  | nil => rw [List.map_nil, List.map_nil, List.append_nil, List.nil_append]
  | cons c name ih =>
    rw [List.map_cons, List.cons_append, build, ih, Unclosed.add, List.append_assoc]
    rfl

theorem build_choice {names : List (List Char)} (going : names ≠ []) (outer : List Unclosed)
    (around : Unclosed) (alternatives : List (List Pattern)) (tokens : List Token) :
    build (around :: outer) ⟨alternatives, []⟩
        (List.intercalate [.bar] (names.map Token.chars) ++ .closing :: tokens) =
      build outer (around.add (.group (alternatives ++ names.map (·.map char)))) tokens := by
  -- A bar moves the name before it to the alternatives, so these grow from step to step.
  induction names generalizing alternatives with
  | nil => exact absurd rfl going
  | cons name names ih =>
    cases names with
    | nil =>
      rw [List.map_singleton, List.intercalate_singleton, build_chars]
      rfl
    | cons other names =>
      simp only [List.map_cons, List.intercalate_cons_cons, List.append_assoc, build_chars,
        List.cons_append, List.nil_append] at ih ⊢
      rw [build, Unclosed.next, ih (List.cons_ne_nil _ _), List.append_assoc]
      rfl

/-- The pattern of a matcher is read as the choice of its endings, in their order. -/
theorem read?_pattern (matcher : Matcher) :
    read? matcher.pattern = some (endingIn (matcher.endings.map String.toList)) := by
  have going : matcher.endings.map String.toList ≠ [] :=
    mt List.map_eq_nil_iff.mp matcher.endings_ne_nil
  have opening (text : List Char) :
      tokens? ('(' :: '?' :: ':' :: text) = (tokens? text).map (.opening :: ·) := rfl
  have endings : matcher.endings.map (fun ending => Matcher.escapePattern ending.toList) =
      (matcher.endings.map String.toList).map Matcher.escapePattern :=
    (List.map_map ..).symm
  have closing : tokens? [')', '$'] = some [.closing, .part .stop] := rfl
  rw [read?, Matcher.pattern, endings, List.append_assoc]
  simp only [List.cons_append, List.nil_append]
  rw [opening, tokens?_choice, closing]
  simp only [Option.map_some, Option.bind_some]
  rw [build, Unclosed.empty, build_choice going]
  rfl

end Pattern

/-! The names that extensions stand for -/

def dotted (name : List Char) : List Char :=
  if name.head? = some '.' then name else '.' :: name

/-- Blanks around extensions do not count, and neither do blank extensions. -/
def endingsOf (extensions : List String) : List (List Char) :=
  ((extensions.map fun extension => Text.trim extension.toList).filter (· ≠ [])).map dotted

namespace Matcher

theorem ending?_eq (extension : String) :
    (ending? extension).map String.toList =
      if Text.trim extension.toList = [] then none
      else some (dotted (Text.trim extension.toList)) := by
  unfold ending?
  split
  · rename_i empty
    rw [if_pos empty]
    rfl
  · rename_i rest starts
    simp [starts, dotted]
  · rename_i name going noDot
    have other : (Text.trim extension.toList).head? ≠ some '.' := by
      intro starts
      obtain ⟨rest, same⟩ := List.head?_eq_some_iff.mp starts
      exact noDot rest same
    rw [if_neg going, dotted, if_neg other, Option.map_some, String.toList_ofList]

theorem endings_eq (extensions : List String) :
    (extensions.filterMap ending?).map String.toList = endingsOf extensions := by
  induction extensions with
  | nil => rfl
  | cons extension extensions ih =>
    have first := ending?_eq extension
    unfold endingsOf at ih ⊢
    rw [List.map_cons, List.filter_cons, List.filterMap_cons]
    split at first
    · rename_i empty
      rw [Option.map_eq_none_iff.mp first]
      simpa [empty] using ih
    · rename_i going
      obtain ⟨ending, isEnding, same⟩ := Option.map_eq_some_iff.mp first
      simp [isEnding, same, going, ih]

theorem endingsOf_eq_nil {extensions : List String} :
    endingsOf extensions = [] ↔ ∀ extension ∈ extensions, Text.trim extension.toList = [] := by
  simp [endingsOf, List.filter_eq_nil_iff]

theorem ofExtensions?_eq_none {extensions : List String} :
    ofExtensions? extensions = none ↔
      ∀ extension ∈ extensions, Text.trim extension.toList = [] := by
  rw [← endingsOf_eq_nil, ← endings_eq, List.map_eq_nil_iff, ofExtensions?]
  split
  · rename_i empty
    exact ⟨fun _ => empty, fun _ => rfl⟩
  · rename_i going
    exact ⟨nofun, fun empty => absurd empty going⟩

theorem endings_of_ofExtensions? {extensions : List String} {matcher : Matcher}
    (made : ofExtensions? extensions = some matcher) :
    matcher.endings.map String.toList = endingsOf extensions := by
  obtain ⟨going, same⟩ := Option.dite_none_left_eq_some.mp made
  rw [← endings_eq, ← Option.some.inj same]

theorem manages_iff (matcher : Matcher) (path : String) :
    matcher.manages path = true ↔
      ∃ name ∈ matcher.endings.map String.toList, name <:+ path.toList := by
  rw [manages, List.any_eq_true]
  constructor
  · rintro ⟨ending, member, ends⟩
    exact ⟨_, List.mem_map_of_mem member, List.isSuffixOf_iff_suffix.mp ends⟩
  · rintro ⟨name, isName, ends⟩
    obtain ⟨ending, member, rfl⟩ := List.mem_map.mp isName
    exact ⟨ending, member, List.isSuffixOf_iff_suffix.mpr ends⟩

end Matcher

/-- There is no configuration just if all extensions are blank. Otherwise its pattern is read as
the choice of the names that the extensions stand for, in their order and at the end of the text,
and the paths in which this is found are those that end in such a name. -/
theorem Config.manages_what_ends_in_name (options : Options) (processor : Processor) :
    ((∀ extension ∈ options.extensions, Text.trim extension.toList = []) ∧
        (Config.ofOptions options processor).outcome = .error .noExtensions) ∨
      ((∃ extension ∈ options.extensions, Text.trim extension.toList ≠ []) ∧
        ∃ config, (Config.ofOptions options processor).outcome = .ok config ∧
          Pattern.read? config.matcher.pattern =
            some (Pattern.endingIn (endingsOf options.extensions)) ∧
          ∀ path, (config.manages path = true ↔
              (Pattern.endingIn (endingsOf options.extensions)).IsFoundIn path.toList) ∧
            (config.manages path = true ↔
              ∃ name ∈ endingsOf options.extensions, name <:+ path.toList)) := by
  cases made : Matcher.ofExtensions? options.extensions with
  | none =>
    refine .inl ⟨Matcher.ofExtensions?_eq_none.mp made, ?_⟩
    simp only [Config.ofOptions, Config.ofOptions?, made]
    rfl
  | some matcher =>
    have going : ¬ ∀ extension ∈ options.extensions, Text.trim extension.toList = [] := by
      intro blank
      rw [Matcher.ofExtensions?_eq_none.mpr blank] at made
      cases made
    have named := Matcher.endings_of_ofExtensions? made
    refine .inr ⟨by simpa using going, ⟨matcher, options.tag, processor, options.strict⟩, ?_, ?_,
      fun path => ?_⟩
    · simp only [Config.ofOptions, Config.ofOptions?, made]
      rfl
    · rw [Pattern.read?_pattern, named]
    · have ends := matcher.manages_iff path
      rw [named] at ends
      exact ⟨ends.trans Pattern.isFoundIn_endingIn.symm, ends⟩

end CssInline
