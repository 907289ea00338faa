import CssInline.Proofs.Enclosed.Operand

/-! Patterns, read as expressions. Where a pattern can be read, an expression goes just as far, if
it can be read at all. -/

namespace CssInline.Code

namespace Grammar

open Reader

variable {rules : Rules} {cursor middle next after : Cursor} {tree : Tree} {depth : Nat}

/-! Keys of properties -/

section Keys

variable {key : Tree} {mark : String} {word : Word}

theorem propertyKey_of_word (isWord : anyWord cursor = some (word, next)) :
    propertyKey rules scriptWithin cursor = some (.leaf (.keyName word.text), next) := by
  have starts := (anyWord_eq_some.mp isWord).1
  unfold propertyKey
  rw [bind_of_some (atQuote_of_word starts), if_neg Bool.false_ne_true,
    bind_of_some (atDigit_of_word starts), if_neg Bool.false_ne_true,
    bind_of_some (accept_of_other (by rw [markOf?_of_word starts]; nofun)),
    if_neg Bool.false_ne_true, bind_of_some isWord]
  rfl

theorem propertyKey_of_star (isMark : markOf? cursor.rest = some "*") :
    propertyKey rules scriptWithin cursor = none := by
  obtain ⟨rest, same⟩ := prefix_of_markOf? isMark
  have noQuote : atQuote cursor = some (false, cursor) := by
    change some (cursor.rest.head?.any _, cursor) = _
    rw [← same]
    rfl
  have noDigit : atDigit cursor = some (false, cursor) := by
    change some (cursor.rest.head?.any Char.isDigit ||
      (cursor.rest.head? == some '.' && (cursor.rest.drop 1).head?.any Char.isDigit), cursor) = _
    rw [← same]
    rfl
  unfold propertyKey
  rw [bind_of_some noQuote, if_neg Bool.false_ne_true, bind_of_some noDigit,
    if_neg Bool.false_ne_true, bind_of_some (accept_of_other (by rw [isMark]; decide)),
    if_neg Bool.false_ne_true]
  exact bind_of_none (anyWord_of_mark isMark)

section Ends

variable (isKey : propertyKey rules scriptWithin cursor = some (key, next))
  (isMark : markOf? next.rest = some mark) (member : mark ∈ keyEnds)

include isKey isMark member

/-- A word is no modifier where it is the key itself. -/
theorem modifier_of_key (text : String) : modifier text cursor = some (false, cursor) := by
  unfold modifier
  refine bind_of_some (attempt_of_none (Option.eq_none_iff_forall_ne_some.mpr fun found read => ?_))
  obtain ⟨_, middle, isWord, read⟩ := bind_eq_some.mp read
  obtain ⟨word, isWord, _⟩ := anyWord_of_expectWord isWord
  rw [propertyKey_of_word isWord] at isKey
  cases isKey
  rw [bind_of_some (mark?_apply _), isMark] at read
  have other := (require_eq_some.mp read).1
  simp [member] at other

theorem accessor?_of_key : accessor? cursor = some (none, cursor) := by
  have noModifier := modifier_of_key isKey isMark member
  unfold accessor?
  rw [bind_of_some (noModifier "get"), if_neg Bool.false_ne_true, bind_of_some (noModifier "set")]
  rfl

theorem lineModifier_of_key (text : String) : lineModifier text cursor = some (false, cursor) := by
  have fails : (do
      require (← modifier text)
      require (!(← Reader.afterBreak)) : Reader Unit) cursor = none := by
    rw [bind_of_some (modifier_of_key isKey isMark member text)]
    rfl
  unfold lineModifier
  rw [bind_of_some (attempt_of_none fails)]
  rfl

/-- A property without words before its key. -/
theorem property_of_key (noSpread : markOf? cursor.rest ≠ some "...") :
    property rules scriptWithin cursor = (do
      match ← attempt (leadingKey rules scriptWithin) with
      | some key => keyedProperty rules scriptWithin false false key
      | none => shorthandProperty rules scriptWithin) cursor := by
  have noStar : markOf? cursor.rest ≠ some "*" := fun isStar => by
    rw [propertyKey_of_star isStar] at isKey
    cases isKey
  unfold property
  rw [bind_of_some (accept_of_other noSpread), if_neg Bool.false_ne_true,
    bind_of_some (accessor?_of_key isKey isMark member)]
  dsimp only
  rw [bind_of_some (lineModifier_of_key isKey isMark member "async"),
    bind_of_some (accept_of_other noStar)]
  rfl

end Ends

end Keys

/-! Patterns -/

/-- For shorter texts than this, an expression goes as far as a pattern does. -/
def Covers (bound : Nat) : Prop :=
  ∀ {cursor after : Cursor} {pattern : Tree} {depth depth' : Nat}, cursor.rest.length < bound →
    Deep depth cursor → Deep depth' cursor →
      withDefault (rulesOf depth) scriptWithin (rulesOf depth .binding scriptWithin) cursor =
        some (pattern, after) →
      AtPatternEnd after →
        EndsAt (fun _ => True) (rulesOf depth' .assignment scriptWithin) cursor after

theorem AtPatternEnd.noMark (ends : AtPatternEnd cursor) {mark : String}
    (other : mark ∉ patternEnds) : markOf? cursor.rest ≠ some mark := by
  obtain ⟨mark', member, isMark⟩ := ends
  intro same
  rw [isMark] at same
  cases same
  exact other member

theorem withDefault_of_binding {pattern : Reader Tree}
    (isPattern : pattern cursor = some (tree, after)) (ends : AtPatternEnd after) :
    withDefault rules scriptWithin pattern cursor = some (tree, after) := by
  unfold withDefault
  rw [bind_of_some isPattern, bind_of_some (accept_of_other (ends.noMark (by decide)))]
  rfl

theorem Deep.mono (deep : Deep depth cursor) (shorter : after.rest.length ≤ cursor.rest.length) :
    Deep depth after := by
  unfold Deep at *
  omega

theorem Deep.later {value : α} {reader : Reader α} (deep : Deep depth cursor)
    (read : reader cursor = some (value, after)) : Deep depth after :=
  deep.mono (length_le read)

/-- What is taken makes room for as many rules as follow each other without taking something. -/
theorem Deep.less {less : Nat} (deep : Deep (depth + less) cursor) (few : less ≤ 16)
    (shorter : after.rest.length < cursor.rest.length) : Deep depth after := by
  unfold Deep at *
  omega

/-- What is read after an item of a list. -/
def listTail (closing : String) (tree : Tree) (done : List Tree) :
    Reader (List Tree ⊕ List Tree) := do
  if ← accept "," then return .inl (tree :: done)
  expect closing
  return .inr (tree :: done).reverse

section Steps

variable {bound depth' : Nat} {done done' : List Tree} {tree' : Tree}
  {step : List Tree ⊕ List Tree} {closing : String}

theorem mark_of_listTail (read : listTail closing tree done cursor = some (step, after)) :
    ∃ mark ∈ [",", closing], markOf? cursor.rest = some mark := by
  rcases accept_cases read with ⟨_, _, read⟩ | ⟨_, isMark, _⟩
  · obtain ⟨_, _, closes, _⟩ := bind_eq_some.mp read
    exact ⟨closing, by simp, (expect_eq_some.mp closes).1⟩
  · exact ⟨",", by simp, isMark⟩

theorem atPatternEnd_of_listTail (member : closing ∈ patternEnds)
    (read : listTail closing tree done cursor = some (step, after)) : AtPatternEnd cursor := by
  obtain ⟨mark, isEnd, isMark⟩ := mark_of_listTail read
  refine ⟨mark, ?_, isMark⟩
  simp only [List.mem_cons, List.not_mem_nil, or_false] at isEnd
  rcases isEnd with rfl | rfl
  · decide
  · exact member

theorem endsAt_listTail (read : listTail closing tree done cursor = some (step, after)) :
    EndsAt (fun step' => step'.isLeft = step.isLeft) (listTail closing tree' done') cursor
      after := by
  rcases accept_cases read with ⟨_, isComma, read⟩ | ⟨_, _, isComma, read⟩
  · obtain ⟨_, _, closes, same⟩ := bind_eq_some.mp read
    cases same
    exact .andThen isComma (.andThen closes (endsAt_pure rfl))
  · cases read
    exact .andThen isComma (endsAt_pure rfl)

/-- An element of a list pattern, and the same text as an element of a list. -/
theorem endsAt_arrayStep (covers : Covers bound) (short : cursor.rest.length < bound)
    (deep : Deep depth cursor) (deep' : Deep depth' cursor)
    (read : arrayPatternStep (rulesOf depth) scriptWithin done cursor = some (step, after)) :
    EndsAt (fun step' => step'.isLeft = step.isLeft)
      (arrayStep (rulesOf depth') scriptWithin done') cursor after := by
  unfold arrayPatternStep at read
  unfold arrayStep
  rcases accept_cases read with ⟨_, isEnd, read⟩ | ⟨middle, _, isEnd, read⟩
  case inr =>
    cases read
    exact .andThen isEnd (endsAt_pure rfl)
  refine .andThen isEnd ?_
  rcases accept_cases read with ⟨_, isComma, read⟩ | ⟨middle, _, isComma, read⟩
  case inr =>
    cases read
    exact .andThen isComma (endsAt_pure rfl)
  refine .andThen isComma ?_
  rw [if_neg Bool.false_ne_true, bind_of_some (atMark_apply "..." cursor)] at read
  by_cases isRest : markOf? cursor.rest = some "..."
  · rw [beq_iff_eq.mpr isRest, if_pos rfl] at read
    obtain ⟨rest, middle, isRest, read⟩ := bind_eq_some.mp read
    obtain ⟨_, start, isMark, isRest⟩ := bind_eq_some.mp isRest
    obtain ⟨pattern, _, isPattern, same⟩ := bind_eq_some.mp isRest
    cases same
    obtain ⟨_, _, closes, same⟩ := bind_eq_some.mp read
    cases same
    have closed := (expect_eq_some.mp closes).1
    have ends : AtPatternEnd middle := ⟨"]", by decide, closed⟩
    have shorter := length_le isMark
    have element := covers (by omega) (deep.later isMark) (deep'.later isMark)
      (withDefault_of_binding isPattern ends) ends
    refine .bind (.andThen (accept_of_expect isMark) (element.bind fun _ _ => endsAt_pure trivial))
      fun _ (_ : True) => ?_
    exact .andThen (accept_of_other (by rw [closed]; decide)) (.andThen closes (endsAt_pure rfl))
  · rw [beq_eq_false_iff_ne.mpr isRest, if_neg Bool.false_ne_true] at read
    obtain ⟨tree, middle, isPattern, read⟩ := bind_eq_some.mp read
    have ends : AtPatternEnd middle := atPatternEnd_of_listTail (by decide) read
    refine .bind (.andThen (accept_of_other isRest) (covers short deep deep' isPattern ends))
      fun _ _ => endsAt_listTail read

theorem variableName_of_declaredName {id : String}
    (isName : declaredName scriptWithin cursor = some (id, after)) :
    variableName scriptWithin cursor = some (id, after) := by
  obtain ⟨_, _, isVariable, required⟩ := bind_eq_some.mp isName
  obtain ⟨_, _, required, same⟩ := bind_eq_some.mp required
  obtain ⟨_, rfl⟩ := require_eq_some.mp required
  cases same
  exact isVariable

theorem binding_of_declaredName {id : String}
    (isName : declaredName scriptWithin cursor = some (id, after)) (deep : Deep depth cursor) :
    rulesOf depth .binding scriptWithin cursor = some (.leaf (.binding id), after) := by
  obtain ⟨depth, rfl⟩ := Nat.exists_eq_succ_of_ne_zero (Nat.ne_zero_of_lt deep)
  obtain ⟨word, isWord, _⟩ := variableName_eq_some.mp (variableName_of_declaredName isName)
  have noMark (mark : String) : markOf? cursor.rest ≠ some mark := by
    rw [markOf?_of_word (anyWord_eq_some.mp isWord).1]
    nofun
  change binding (rulesOf depth) scriptWithin cursor = _
  unfold binding
  rw [bind_of_some (accept_of_other (noMark _)), if_neg Bool.false_ne_true,
    bind_of_some (accept_of_other (noMark _)), if_neg Bool.false_ne_true, bind_of_some isName]
  rfl

section Properties

variable {key pattern : Tree}

/-- A key with its pattern is a key with its value. -/
theorem endsAt_keyedProperty (covers : Covers bound) (short : cursor.rest.length < bound)
    (deep : Deep depth cursor) (deep' : Deep depth' cursor)
    (noSpread : markOf? cursor.rest ≠ some "...")
    (isKey : propertyKey (rulesOf depth) scriptWithin cursor = some (key, next))
    (isColon : expect ":" next = some ((), middle))
    (isPattern : withDefault (rulesOf depth) scriptWithin (rulesOf depth .binding scriptWithin)
      middle = some (pattern, after))
    (ends : AtPatternEnd after) :
    EndsAt (fun _ => True) (property (rulesOf depth') scriptWithin) cursor after := by
  have isMark := (expect_eq_some.mp isColon).1
  have inside : next.rest ≠ [] := fun ended => by
    rw [ended] at isMark
    cases isMark
  have isKey' : propertyKey (rulesOf depth') scriptWithin cursor = some (key, next) :=
    eq_some_of_deep (fun rules => propertyKey rules scriptWithin)
      (fun _ _ _ _ => agree_propertyKey) deep deep' isKey inside
  have noParameters : atParameters scriptWithin next = some (false, next) := by
    rw [atParameters_apply, isMark]
    rfl
  have isLeading : leadingKey (rulesOf depth') scriptWithin cursor = some (key, next) := by
    unfold leadingKey
    rw [bind_of_some isKey', bind_of_some noParameters, bind_of_some (atMark_apply ":" next),
      isMark]
    rfl
  have value := covers (by have := length_le isKey; have := length_le isColon; omega)
    ((deep.later isKey).later isColon) ((deep'.later isKey).later isColon) isPattern ends
  refine .of_eq (property_of_key isKey' isMark (by decide) noSpread) ?_
  refine .andThen (attempt_of_some isLeading) (.andThen noParameters ?_)
  exact .andThen rfl (.andThen isColon (value.bind fun _ _ => endsAt_pure trivial))

/-- A name with its default value is a shorthand property with the same value. -/
theorem endsAt_shorthandProperty (deep : Deep depth cursor) (deep' : Deep depth' cursor)
    (noSpread : markOf? cursor.rest ≠ some "...")
    (read : shorthandPattern (rulesOf depth) scriptWithin cursor = some (tree, after))
    (ends : ∃ mark ∈ [",", "\x7d"], markOf? after.rest = some mark) (atEnd : AtPatternEnd after) :
    EndsAt (fun _ => True) (property (rulesOf depth') scriptWithin) cursor after := by
  obtain ⟨id, next, isName, read⟩ := bind_eq_some.mp read
  have isVariable := variableName_of_declaredName isName
  obtain ⟨word, isWord, _, _⟩ := variableName_eq_some.mp isVariable
  have isKey : propertyKey (rulesOf depth') scriptWithin cursor =
    some (.leaf (.keyName word.text), next) := propertyKey_of_word isWord
  have follows : ∃ mark ∈ ["=", ",", "\x7d"], markOf? next.rest = some mark := by
    rcases accept_cases read with ⟨_, _, read⟩ | ⟨_, isMark, _⟩
    · cases read
      obtain ⟨mark, member, isMark⟩ := ends
      exact ⟨mark, List.mem_cons_of_mem _ member, isMark⟩
    · exact ⟨"=", by decide, isMark⟩
  obtain ⟨mark, member, isMark⟩ := follows
  have others : ∀ mark ∈ ["=", ",", "\x7d"], mark ∈ keyEnds ∧ mark ≠ "(" ∧ mark ≠ ":" := by decide
  obtain ⟨isEnd, noParen, noColon⟩ := others mark member
  have noLeading : leadingKey (rulesOf depth') scriptWithin cursor = none := by
    unfold leadingKey
    have noneOf : (some mark == some "(" || (scriptWithin.types && some mark == some "<") ||
        some mark == some ":") = false := by simp [noParen, noColon, scriptWithin]
    rw [bind_of_some isKey, bind_of_some (atParameters_apply scriptWithin next),
      bind_of_some (atMark_apply ":" next), isMark, noneOf]
    rfl
  refine .of_eq (property_of_key isKey isMark isEnd noSpread) ?_
  refine .andThen (attempt_of_none noLeading) (.andThen isVariable ?_)
  rcases accept_cases read with ⟨_, noValue, same⟩ | ⟨first, _, isValue, read⟩
  · cases same
    exact .andThen noValue (endsAt_pure trivial)
  · obtain ⟨value, _, read, same⟩ := bind_eq_some.mp read
    cases same
    have sameValue : rulesOf depth' .assignment scriptWithin.bracketed first =
        some (value, after) :=
      rule_eq_some_of_deep ((deep.later isName).later isValue) ((deep'.later isName).later isValue)
        read atEnd.atBindingEnd.inside
    exact .andThen isValue (.andThen sameValue (endsAt_pure trivial))

/-- A property of an object pattern, and the same text as a property of an object. -/
theorem endsAt_property (covers : Covers bound) (short : cursor.rest.length < bound)
    (deep : Deep depth cursor) (deep' : Deep depth' cursor)
    (noSpread : markOf? cursor.rest ≠ some "...")
    (read : propertyPattern (rulesOf depth) scriptWithin cursor = some (tree, after))
    (ends : ∃ mark ∈ [",", "\x7d"], markOf? after.rest = some mark) :
    EndsAt (fun _ => True) (property (rulesOf depth') scriptWithin) cursor after := by
  have atEnd : AtPatternEnd after := by
    obtain ⟨mark, member, isMark⟩ := ends
    exact ⟨mark, (by decide : ∀ mark ∈ [",", "\x7d"], mark ∈ patternEnds) mark member, isMark⟩
  obtain ⟨keyed?, start, attempted, read⟩ := bind_eq_some.mp read
  rcases attempt_eq_some attempted with ⟨rfl, same⟩ | ⟨key, rfl, isKeyed⟩
  · rw [same] at read
    exact endsAt_shorthandProperty deep deep' noSpread read ends atEnd
  · obtain ⟨_, _, isKey, isColon⟩ := bind_eq_some.mp isKeyed
    obtain ⟨_, _, isColon, same⟩ := bind_eq_some.mp isColon
    cases same
    obtain ⟨_, _, isPattern, same⟩ := bind_eq_some.mp read
    cases same
    exact endsAt_keyedProperty covers short deep deep' noSpread isKey isColon isPattern atEnd

end Properties

/-- A step of an object pattern, and the same text as a step of an object. -/
theorem endsAt_objectStep (covers : Covers bound) (short : cursor.rest.length < bound)
    (deep : Deep depth cursor) (deep' : Deep depth' cursor)
    (read : objectPatternStep (rulesOf depth) scriptWithin done cursor = some (step, after)) :
    EndsAt (fun step' => step'.isLeft = step.isLeft)
      (commaListStep "\x7d" (property (rulesOf depth') scriptWithin) done') cursor after := by
  unfold objectPatternStep at read
  unfold commaListStep
  rcases accept_cases read with ⟨_, isEnd, read⟩ | ⟨middle, _, isEnd, read⟩
  case inr =>
    cases read
    exact .andThen isEnd (endsAt_pure rfl)
  refine .andThen isEnd ?_
  rw [if_neg Bool.false_ne_true, bind_of_some (atMark_apply "..." cursor)] at read
  by_cases isRest : markOf? cursor.rest = some "..."
  · rw [beq_iff_eq.mpr isRest, if_pos rfl] at read
    obtain ⟨_, start, isMark, read⟩ := bind_eq_some.mp read
    obtain ⟨id, middle, isName, read⟩ := bind_eq_some.mp read
    obtain ⟨_, _, closes, same⟩ := bind_eq_some.mp read
    cases same
    have closed := (expect_eq_some.mp closes).1
    have ends : AtPatternEnd middle := ⟨"\x7d", by decide, closed⟩
    have shorter := length_le isMark
    have isPattern := binding_of_declaredName isName (deep.later isMark)
    have value := covers (by omega) (deep.later isMark) (deep'.later isMark)
      (withDefault_of_binding isPattern ends) ends
    refine .bind (.andThen (accept_of_expect isMark) (value.bind fun _ _ => endsAt_pure trivial))
      fun _ (_ : True) => ?_
    exact .andThen (accept_of_other (by rw [closed]; decide)) (.andThen closes (endsAt_pure rfl))
  · rw [beq_eq_false_iff_ne.mpr isRest, if_neg Bool.false_ne_true] at read
    obtain ⟨tree, middle, isPattern, read⟩ := bind_eq_some.mp read
    have value := endsAt_property covers short deep deep' isRest isPattern (mark_of_listTail read)
    exact value.bind fun _ _ => endsAt_listTail read

/-- A pattern is one operand of an expression. -/
theorem endsAt_operand (covers : Covers bound) (short : cursor.rest.length ≤ bound)
    (deep : Deep (depth + 1) cursor) (deep' : Deep (depth' + 3) cursor)
    (read : binding (rulesOf depth) scriptWithin cursor = some (tree, next))
    (ends : AtBindingEnd next) :
    arrow? rules scriptWithin cursor = some (none, cursor) ∧
      EndsAt (fun _ => True) (conditional (rulesOf (depth' + 2)) scriptWithin) cursor next := by
  have noOperator {mark : String} (isMark : markOf? cursor.rest = some mark)
      (other : mark ∉ unaryOperators ∧ mark ∉ ["++", "--"]) (token : String)
      (isToken : tokenOf? cursor.rest = some token) :
      token ∉ unaryOperators ∧ token ∉ ["++", "--"] := by
    rw [tokenOf?, isMark] at isToken
    cases isToken
    exact other
  unfold binding at read
  -- A pattern in square brackets, one in braces, or a name.
  rcases accept_cases read with ⟨_, _, read⟩ | ⟨start, isMark, opens, read⟩
  case inr =>
    obtain ⟨elements, _, read, same⟩ := bind_eq_some.mp read
    cases same
    have shorter := takesIf_accept _ opens rfl
    have list : EndsAt (fun _ => True) (iterate (arrayStep (rulesOf depth') scriptWithin) [])
        start next := by
      refine endsAt_iterate (fun inside read => ?_) (Nat.le_refl _) read
      exact endsAt_arrayStep covers (by omega) (deep.less (by decide) (by omega))
        (deep'.less (by decide) (by omega)) read
    refine ⟨noArrow_of_mark isMark (by decide), endsAt_conditional (noOperator isMark (by decide))
      (.of_eq (primary_of_bracket isMark) ?_) ends⟩
    exact .andThen (expect_of_accept opens) (list.bind fun _ _ => endsAt_pure trivial)
  rcases accept_cases read with ⟨_, _, read⟩ | ⟨start, isMark, opens, read⟩
  case inr =>
    obtain ⟨elements, _, read, same⟩ := bind_eq_some.mp read
    cases same
    have shorter := takesIf_accept _ opens rfl
    have list : EndsAt (fun _ => True)
        (commaList "\x7d" (property (rulesOf depth') scriptWithin)) start next := by
      refine endsAt_iterate (fun inside read => ?_) (Nat.le_refl _) read
      exact endsAt_objectStep covers (by omega) (deep.less (by decide) (by omega))
        (deep'.less (by decide) (by omega)) read
    refine ⟨noArrow_of_mark isMark (by decide), endsAt_conditional (noOperator isMark (by decide))
      (.of_eq (primary_of_brace isMark) ?_) ends⟩
    exact .andThen (expect_of_accept opens) (list.bind fun _ _ => endsAt_pure trivial)
  obtain ⟨id, _, isName, same⟩ := bind_eq_some.mp read
  cases same
  obtain ⟨word, isWord, rfl, isName⟩ :=
    variableName_eq_some.mp (variableName_of_declaredName isName)
  have isVariable : Variable cursor word next := ⟨isWord, isName, fun _ => ends.noWord⟩
  refine ⟨isVariable.noArrow fun mark member => ends.noMark ?_, endsAt_conditional ?_
    (endsAt_of_eq isVariable.primary trivial) ends⟩
  · exact (by decide : ∀ mark ∈ ["=>", "(", "<"], mark ∉ "=" :: patternEnds) mark member
  · exact fun token isToken => ⟨isVariable.noToken (by decide +kernel) isToken,
      isVariable.noToken (by decide +kernel) isToken⟩

/-- What is read after one operand as its default value is read as a value that is assigned. -/
theorem endsAt_assignmentFrom (left : Tree) (deep : Deep depth next) (deep' : Deep depth' next)
    (ends : AtBindingEnd next) (atEnd : AtPatternEnd after)
    (read : (do
      if ← accept "=" then
        return .node .defaulted [tree, ← rulesOf depth .assignment scriptWithin.bracketed]
      return tree : Reader Tree) next = some (tree', after)) :
    EndsAt (fun _ => True) (assignmentFrom (rulesOf depth') scriptWithin left) next after := by
  refine .andThen (atMark_apply "=" next) ?_
  rcases accept_cases read with ⟨noMark, _, same⟩ | ⟨start, isMark, isValue, read⟩
  · cases same
    rw [beq_eq_false_iff_ne.mpr noMark, if_neg Bool.false_ne_true]
    refine .andThen (acceptOneOf_of_other fun _ => ends.noToken (by decide)) ?_
    exact endsAt_pure trivial
  · obtain ⟨value, _, read, same⟩ := bind_eq_some.mp read
    cases same
    rw [beq_iff_eq.mpr isMark, if_pos rfl]
    have sameValue : rulesOf depth' .assignment scriptWithin start = some (value, after) :=
      rule_eq_some_of_deep (deep.later isValue) (deep'.later isValue) read
        atEnd.atBindingEnd.inside
    refine (endsAt_ofOption _).bind fun target _ => .andThen (expect_of_accept isValue) ?_
    exact .andThen sameValue (endsAt_pure trivial)

theorem covers (bound : Nat) : Covers bound := by
  induction bound with
  | zero => nofun
  | succ bound ih =>
    intro cursor after pattern depth depth' short deep deep' read atEnd
    have least : 16 ≤ depth ∧ 16 ≤ depth' := by
      unfold Deep at deep deep'
      omega
    obtain ⟨depth, rfl⟩ : ∃ less, depth = less + 1 := ⟨depth - 1, by omega⟩
    obtain ⟨depth', rfl⟩ : ∃ less, depth' = less + 3 := ⟨depth' - 3, by omega⟩
    obtain ⟨tree, next, isBinding, read⟩ := bind_eq_some.mp read
    have ends : AtBindingEnd next := by
      rcases accept_cases read with ⟨_, _, same⟩ | ⟨_, isMark, _⟩
      · cases same
        exact atEnd.atBindingEnd
      · exact ⟨"=", by decide, isMark⟩
    obtain ⟨noArrow, operand⟩ :=
      endsAt_operand ih (Nat.le_of_lt_succ short) deep deep' isBinding ends
    have shorter := takes_binding _ _ isBinding trivial
    have enough : Deep (depth' + 2 + 1) cursor := deep'
    change EndsAt _ (assignment (rulesOf (depth' + 2)) scriptWithin) cursor after
    refine .andThen (atWord_apply "yield" cursor) (.andThen noArrow (operand.bind fun left _ => ?_))
    exact endsAt_assignmentFrom left (deep.later isBinding) (enough.less (by decide) shorter)
      ends atEnd read

end Steps

/-! Parameters -/

/-- The marks that end parameters or collect the rest of them. -/
def parameterMarks : List String :=
  [")", "..."]

section Marks

variable {mark : String} (isMark : markOf? cursor.rest = some mark) (member : mark ∈ parameterMarks)

include isMark member

theorem primary_of_parameterMark : primary rules scriptWithin cursor = none := by
  have noWord : wordExpression rules scriptWithin cursor = none := by
    unfold wordExpression
    rw [bind_of_some (keyword?_apply cursor), keywordOf?_of_mark isMark]
    exact bind_of_none (bind_of_none (anyWord_of_mark isMark))
  obtain ⟨rest, line, afterBreak, comments⟩ := cursor
  obtain ⟨rest', rfl⟩ := prefix_of_markOf? isMark
  simp only [parameterMarks, List.mem_cons, List.not_mem_nil, or_false] at member
  rcases member with rfl | rfl <;> exact noWord

/-- No expression starts with such a mark. -/
theorem assignment_of_parameterMark : rulesOf depth .assignment scriptWithin cursor = none := by
  have others : ∀ mark ∈ parameterMarks,
      mark ∉ ["(", "<"] ∧ mark ∉ unaryOperators ∧ mark ∉ ["++", "--"] := by decide
  obtain ⟨noHead, noOperator, noUpdate⟩ := others mark member
  have none_of_rule {goal : Goal} {depth : Nat}
      (fails : ∀ less, produce (rulesOf less) goal scriptWithin cursor = none) :
      rulesOf depth goal scriptWithin cursor = none :=
    match depth with
    | 0 => rfl
    | less + 1 => fails less
  have acceptNone {tokens : List String} (other : mark ∉ tokens) :
      acceptOneOf tokens cursor = some (none, cursor) :=
    acceptOneOf_of_other fun token isToken => by
      rw [tokenOf?, isMark] at isToken
      cases isToken
      exact other
  have noOperand (depth : Nat) : rulesOf depth .operand scriptWithin cursor = none :=
    none_of_rule fun _ => by
      change access _ scriptWithin true cursor = none
      unfold access
      rw [bind_of_some (rfl : lineNumber cursor = some (cursor.line, cursor))]
      exact bind_of_none (primary_of_parameterMark isMark member)
  have noUnary (depth : Nat) : rulesOf depth .unary scriptWithin cursor = none :=
    none_of_rule fun less => by
      change unary _ scriptWithin cursor = none
      unfold unary
      rw [bind_of_some (acceptNone noOperator), bind_of_some (acceptNone noUpdate)]
      change postfixed _ scriptWithin cursor = none
      exact bind_of_none (noOperand less)
  refine none_of_rule fun less => ?_
  change assignment _ scriptWithin cursor = none
  unfold assignment
  rw [bind_of_some (atWord_apply "yield" cursor)]
  change (arrow? _ scriptWithin >>= _) cursor = none
  rw [bind_of_some (noArrow_of_mark isMark noHead)]
  exact bind_of_none (bind_of_none (bind_of_none (noUnary less)))

end Marks

theorem parameter_eq (rules : Rules) : parameter rules scriptWithin =
    withDefault rules scriptWithin (rules .binding scriptWithin) := by
  have absent : Tree.absent.isAbsent = true := rfl
  simp only [parameter, parameterTarget, receiver_plain, attempt_fail, pure_bind, withDefault]
  simp [absent]

/-- Where parameters and their closing parenthesis are read, no expression goes to the end of the
text. -/
theorem inside_of_parameterList {trees : List Tree} {depth' : Nat} (deep : Deep depth cursor)
    (deep' : Deep depth' cursor)
    (parameters : iterate (parameterStep (rulesOf depth) scriptWithin) [] cursor =
      some (trees, after))
    (read : rulesOf (depth' + 1) .expression scriptWithin cursor = some (tree, next)) :
    next.rest ≠ [] := by
  let step (done : List Tree) : Reader (List Tree ⊕ List Tree) := do
    let tree ← rulesOf depth' .assignment scriptWithin
    if ← accept "," then return .inl (tree :: done) else return .inr (tree :: done).reverse
  -- Step by step an item of the expression ends where the parameter does. The expression goes on
  -- only behind a comma, so that it ends at what ends the parameters.
  have loops (fuel : Nat) : ∀ {fuel' cursor done done' found last}, Deep depth cursor →
      Deep depth' cursor →
      iterateFrom (parameterStep (rulesOf depth) scriptWithin) fuel done cursor =
        some (trees, after) →
      iterateFrom step fuel' done' cursor = some (found, last) → last.rest ≠ [] := by
    induction fuel with
    | zero => nofun
    | succ fuel ih =>
      intro fuel' cursor done done' found last deep deep' parameters read
      cases fuel' with
      | zero => cases read
      | succ fuel' =>
        rw [iterateFrom] at parameters read
        obtain ⟨state, middle, isParameter, parameters⟩ := bind_eq_some.mp parameters
        obtain ⟨state', middle', isItem, read⟩ := bind_eq_some.mp read
        obtain ⟨item, start, isItem, follows⟩ := bind_eq_some.mp isItem
        rcases accept_cases isParameter with ⟨_, _, isParameter⟩ | ⟨_, isMark, _⟩
        case inr =>
          rw [assignment_of_parameterMark isMark (by decide)] at isItem
          cases isItem
        rcases accept_cases isParameter with ⟨_, _, isParameter⟩ | ⟨_, isMark, _⟩
        case inr =>
          rw [assignment_of_parameterMark isMark (by decide)] at isItem
          cases isItem
        rw [if_neg Bool.false_ne_true, parameter_eq] at isParameter
        obtain ⟨pattern, start', isPattern, tail⟩ := bind_eq_some.mp isParameter
        have atEnd : AtPatternEnd start' := atPatternEnd_of_listTail (by decide) tail
        obtain ⟨rfl, _⟩ :=
          covers _ (Nat.lt_succ_self _) deep deep' isPattern atEnd isItem
        rcases accept_cases tail with ⟨_, noComma, _⟩ | ⟨_, _, isComma, same⟩
        · rw [bind_of_some noComma] at follows
          cases follows
          cases read
          exact atEnd.atBindingEnd.inside
        · cases same
          rw [bind_of_some isComma] at follows
          cases follows
          exact ih ((deep.later isPattern).later isComma) ((deep'.later isPattern).later isComma)
            parameters read
  obtain ⟨trees', last, items, same⟩ := bind_eq_some.mp read
  rw [iterate_apply] at parameters
  rw [separated, iterate_apply] at items
  have going := loops _ deep deep' parameters items
  split at same <;> cases same <;> exact going

end Grammar

end CssInline.Code
