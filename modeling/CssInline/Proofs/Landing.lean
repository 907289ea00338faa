import CssInline.Proofs.Opening.Statement

/-! Expressions as statements of their own: what is written out is read as a statement of the same
expression just if it opens plainly. -/

namespace CssInline.Code

open Reader Grammar

/-! Texts of one item -/

def Form.isInitialized : Form → Bool
  | .initialized _ => true
  | _ => false

/-- The items of a text that `read` reads one after the other. -/
def itemsOf (read : Within → Reader Tree) (text : List Char) : Option (List Tree) :=
  let reader : Reader (List Tree) := do
    settle
    items read scriptWithin atEnd
  ((reader (Cursor.start text)).map Prod.fst).filter fun items =>
    !Tree.anyOf Form.isInitialized items

/-- The expressions of a text, each with what ends a statement after it. -/
def readExpressions (text : List Char) : Option (List Tree) :=
  itemsOf (fun within => withComments (expressionStatement (rulesOf (depthFor text)) within)) text

theorem readScript_eq (text : List Char) :
    readScript text = itemsOf (item (rulesOf (depthFor text))) text := by
  have place : ({
      types := Dialect.plain.types
      markup := Dialect.plain.markup
      isModule := false
      strict := false } : Within) = scriptWithin := rfl
  unfold readScript readItems itemsOf
  simp only [Bool.false_eq_true, if_false, place]
  congr

namespace Grammar

variable {cursor after : Cursor} {tree : Tree} {read : Within → Reader Tree} {within : Within}

/-- Whether more than one item has been read. -/
def Prologue.IsLong (state : Prologue) : Prop :=
  2 ≤ state.done.length

theorem items_eq_singleton : items read within atEnd cursor = some ([tree], after) ↔
    cursor.rest ≠ [] ∧ read within cursor = some (tree, after) ∧ after.rest = [] := by
  have atEnd_apply (cursor : Cursor) : atEnd cursor = some (cursor.rest.isEmpty, cursor) := rfl
  unfold items
  constructor
  · intro found
    rcases iterate_eq_some found with done | ⟨state, middle, fuel, step, found⟩
    · rw [bind_of_some (atEnd_apply cursor)] at done
      split at done
      · cases done
      · obtain ⟨_, _, _, same⟩ := bind_eq_some.mp done
        cases same
    rw [bind_of_some (atEnd_apply cursor)] at step
    split at step
    · cases step
    rename_i going
    obtain ⟨first, middle, isFirst, same⟩ := bind_eq_some.mp step
    cases same
    refine ⟨mt List.isEmpty_iff.mpr going, ?_⟩
    cases fuel with
    | zero => cases found
    | succ fuel =>
      rw [iterateFrom] at found
      obtain ⟨next, last, step, found⟩ := bind_eq_some.mp found
      rw [bind_of_some (atEnd_apply middle)] at step
      split at step
      · rename_i ended
        cases step
        cases found
        exact ⟨isFirst, List.isEmpty_iff.mp ended⟩
      · obtain ⟨second, _, _, same⟩ := bind_eq_some.mp step
        cases same
        -- From the second item on there are more than one.
        have many : 2 ≤ [tree].length := by
          refine (?_ : Gives last _ fun trees : List Tree => 2 ≤ trees.length) (.refl last) found
          refine @Gives.iterateFrom _ _ last Prologue.IsLong _ _
            (fun state long => .last fun ended => ?_) fuel _ (Nat.le_refl 2)
          split
          · have count : 2 ≤ state.done.length := long
            exact .pure (by simpa using count)
          · exact .last fun tree => .pure (Nat.le_succ_of_le long)
        exact absurd many (by simp)
  · rintro ⟨going, whole, done⟩
    let strict := within.strict || (isDirective tree && isStrictDirective tree)
    refine iterate_of_more ⟨[tree], { within with strict }, isDirective tree⟩ after ?_ ?_
    · rw [bind_of_some (atEnd_apply cursor), if_neg (mt List.isEmpty_iff.mp going),
        bind_of_some whole]
      rfl
    · rw [bind_of_some (atEnd_apply after), if_pos (List.isEmpty_iff.mpr done)]
      rfl

end Grammar

theorem itemsOf_eq_singleton {read : Within → Reader Tree} {text : List Char} {tree : Tree} :
    itemsOf read text = some [tree] ↔ ∃ cursor after,
      settle (Cursor.start text) = some ((), cursor) ∧ cursor.rest ≠ [] ∧
        read scriptWithin cursor = some (tree, after) ∧ after.rest = [] ∧
          tree.any Form.isInitialized = false := by
  unfold itemsOf
  rw [Option.filter_eq_some_iff, Option.map_eq_some_iff]
  constructor
  · rintro ⟨⟨⟨trees, after⟩, found, rfl⟩, complete⟩
    obtain ⟨_, cursor, settled, found⟩ := bind_eq_some.mp found
    obtain ⟨going, whole, done⟩ := items_eq_singleton.mp found
    refine ⟨cursor, after, settled, going, whole, done, ?_⟩
    simpa [Tree.anyOf] using complete
  · rintro ⟨cursor, after, settled, going, whole, done, complete⟩
    refine ⟨⟨([tree], after), ?_, rfl⟩, by simpa [Tree.anyOf] using complete⟩
    rw [bind_of_some settled]
    exact items_eq_singleton.mpr ⟨going, whole, done⟩

/-! Comments before an item -/

namespace Grammar

variable {cursor after : Cursor} {tree : Tree} {reader : Reader Tree}

def commented (comments : List Comment) (tree : Tree) : Tree :=
  if comments.isEmpty then tree else .node (.commented comments) [tree]

theorem withComments_eq_some : withComments reader cursor = some (tree, after) ↔
    ∃ inner, reader cursor = some (inner, after) ∧ tree = commented cursor.comments inner := by
  unfold withComments
  rw [bind_of_some (rfl : here cursor = some (cursor, cursor)), bind_eq_some]
  constructor
  · rintro ⟨inner, middle, isInner, same⟩
    cases same
    exact ⟨inner, isInner, rfl⟩
  · rintro ⟨inner, isInner, rfl⟩
    exact ⟨inner, after, isInner, rfl⟩

@[simp] theorem unplaced_commented (comments : List Comment) (tree : Tree) :
    (commented comments tree).unplaced = tree.unplaced := by
  unfold commented
  split <;> rfl

end Grammar

/-! Statements that are expressions -/

/-- A statement that is the expression. -/
def Tree.statement (tree : Tree) : Tree :=
  .node .expressionStatement [tree]

theorem map_unplacedAll_eq_singleton {items? : Option (List Tree)} {tree : Tree} :
    items?.map Tree.unplacedAll = some [tree] ↔
      ∃ item, items? = some [item] ∧ item.unplaced = tree := by
  rw [Option.map_eq_some_iff]
  constructor
  · rintro ⟨items, found, same⟩
    match items, same with
    | [item], same => exact ⟨item, found, (List.cons.inj same).1⟩
  · rintro ⟨item, found, same⟩
    exact ⟨[item], found, by rw [← same]; rfl⟩

variable {text : List Char} {tree : Tree}

namespace Grammar

theorem expressionStatement_eq_some {rules : Rules} {within : Within} {cursor after : Cursor}
    (read : expressionStatement rules within cursor = some (tree, after)) :
    ∃ inner middle, rules .expression within cursor = some (inner, middle) ∧
      tree = inner.statement := by
  unfold expressionStatement at read
  obtain ⟨inner, middle, isExpression, read⟩ := bind_eq_some.mp read
  obtain ⟨_, _, _, same⟩ := bind_eq_some.mp read
  cases same
  exact ⟨inner, middle, isExpression, rfl⟩

/-- A statement of an expression opens as the expression does. -/
theorem opening_of_expressionStatement {item : Tree} {depth : Nat} {cursor after : Cursor}
    (read : expressionStatement (rulesOf depth) scriptWithin cursor = some (item, after))
    (same : item.unplaced = tree.statement) : tree.opening = cursor.opening := by
  obtain ⟨inner, middle, isExpression, rfl⟩ := expressionStatement_eq_some read
  have inside : inner.unplaced = tree := (List.cons.inj (Tree.node.inj same).2).1
  rw [← inside, Tree.opening_unplaced, (opens_rulesOf scriptWithin depth).1 isExpression]

end Grammar

/-- A statement of one expression is read where nothing else opens. -/
theorem readExpressions_of_readScript
    (read : (readScript text).map Tree.unplacedAll = some [tree.statement]) :
    (readExpressions text).map Tree.unplacedAll = some [tree.statement] ∧
      ∃ cursor, settle (Cursor.start text) = some ((), cursor) ∧ (tree.opening = .plain ∨
        tree.opening = .letBracket ∧ keywordOf? cursor.rest ≠ some "let") := by
  rw [map_unplacedAll_eq_singleton] at read ⊢
  obtain ⟨item, read, same⟩ := read
  rw [readScript_eq] at read
  obtain ⟨cursor, after, settled, going, whole, done, complete⟩ := itemsOf_eq_singleton.mp read
  obtain ⟨inner, isItem, rfl⟩ := withComments_eq_some.mp whole
  rw [unplaced_commented] at same
  have starts := starts_of_plainItem (by rw [same]; rfl) isItem
  rw [plainItem_of_starts starts] at isItem
  have found : readExpressions text = some [commented cursor.comments inner] :=
    itemsOf_eq_singleton.mpr ⟨cursor, after, settled, going,
      withComments_eq_some.mpr ⟨inner, isItem, rfl⟩, done, complete⟩
  refine ⟨⟨_, found, by rwa [unplaced_commented]⟩, cursor, settled, ?_⟩
  rw [opening_of_expressionStatement isItem same]
  exact opening_of_starts starts

theorem readScript_of_readExpressions
    (read : (readExpressions text).map Tree.unplacedAll = some [tree.statement])
    (plain : tree.opening = .plain) :
    (readScript text).map Tree.unplacedAll = some [tree.statement] := by
  rw [map_unplacedAll_eq_singleton] at read ⊢
  obtain ⟨item, read, same⟩ := read
  obtain ⟨cursor, after, settled, going, whole, done, complete⟩ := itemsOf_eq_singleton.mp read
  obtain ⟨inner, isItem, rfl⟩ := withComments_eq_some.mp whole
  rw [unplaced_commented] at same
  rw [opening_of_expressionStatement isItem same] at plain
  have deep : depthFor text = 16 * text.length + 12 + 4 := by
    unfold depthFor
    omega
  have starts : StartsExpression cursor := by
    rw [deep] at isItem
    exact starts_of_opening plain isItem done
  have found : readScript text = some [commented cursor.comments inner] := by
    rw [readScript_eq]
    refine itemsOf_eq_singleton.mpr ⟨cursor, after, settled, going, ?_, done, complete⟩
    exact withComments_eq_some.mpr ⟨inner, (plainItem_of_starts starts).trans isItem, rfl⟩
  exact ⟨_, found, by rwa [unplaced_commented]⟩

/-! What is written first -/

namespace Layout

/-- The marks of a layout without empty texts, which change nothing. -/
def visible : Layout → Layout
  | [] => []
  | .text value :: rest => if value.isEmpty then visible rest else .text value :: visible rest
  | mark :: rest => mark :: visible rest

theorem writeFrom_visible (level : Nat) (fresh : Bool) (layout : Layout) :
    writeFrom level fresh (visible layout) = writeFrom level fresh layout := by
  induction layout generalizing level fresh with
  | nil => rfl
  | cons mark layout ih =>
    cases mark with
    | text value => by_cases blank : value.isEmpty = true <;> simp [visible, writeFrom, blank, ih]
    | line => simp [visible, writeFrom, ih]
    | deeper => simp [visible, writeFrom, ih]
    | shallower => simp [visible, writeFrom, ih]

theorem visible_append (layout layout' : Layout) :
    visible (layout ++ layout') = visible layout ++ visible layout' := by
  induction layout with
  | nil => rfl
  | cons mark layout ih =>
    cases mark with
    | text value => by_cases blank : value.isEmpty = true <;> simp [visible, blank, ih]
    | line => simp [visible, ih]
    | deeper => simp [visible, ih]
    | shallower => simp [visible, ih]

end Layout

namespace Layout

/-- A layout of which what is seen starts with the other one. -/
def LeadBy (layout whole : Layout) : Prop :=
  visible layout <+: visible whole

theorem LeadBy.refl (layout : Layout) : LeadBy layout layout :=
  List.prefix_refl _

theorem LeadBy.append {layout whole : Layout} (leads : LeadBy layout whole) (rest : Layout) :
    LeadBy layout (whole ++ rest) := by
  unfold LeadBy
  rw [visible_append]
  exact leads.trans (List.prefix_append _ _)

end Layout

open Layout in
/-- A tree that is led by its first part is written from it on. -/
theorem Tree.leads_of_led {form : Form} (led : form.isLed = true) (part : Tree)
    (parts : List Tree) : LeadBy part.layout (Tree.node form (part :: parts)).layout := by
  have flatten : LeadBy part.layout (layouts (part :: parts)).flatten := (LeadBy.refl _).append _
  rw [Tree.layout]
  cases form <;> first | cases led | skip
  case member chain =>
    match parts with
    | [] => exact flatten
    | [property] => exact ((LeadBy.refl _).append _).append _
    | _ :: _ :: _ => exact flatten
  case call =>
    match parts with
    | [] => exact flatten
    | types :: arguments =>
      exact (((((LeadBy.refl _).append _).append _).append _).append _).append _
  case tagged =>
    match parts with
    | [] => exact flatten
    | types :: holes => exact ((LeadBy.refl _).append _).append _
  case nonNull => exact flatten.append _
  case update operator before =>
    cases before with
    | true => cases led
    | false => exact flatten.append _
  case sequence =>
    match parts with
    | [] => exact LeadBy.refl _
    | second :: parts => exact ((LeadBy.refl _).append _).append _
  case conditional => 
    match parts with
    | [consequent, alternative] => exact ((((LeadBy.refl _).append _).append _).append _).append _
    | [] => exact flatten
    | [_] => exact flatten
    | _ :: _ :: _ :: _ => exact flatten
  all_goals
    match parts with
    | [] => exact flatten
    | [right] => exact ((LeadBy.refl _).append _).append _
    | _ :: _ :: _ => exact flatten

theorem Form.opening_ne_letBracket (form : Form) : form.opening ≠ .letBracket := by
  cases form <;> nofun

/-- An access with brackets to the name `let` is written with them right after it. -/
theorem Tree.visible_of_opensLetBracket {form : Form} {object : Tree} {properties : List Tree}
    (opens : opensLetBracket form object properties = true) :
    [.text "let", .text "["] <+: (Tree.node form (object :: properties)).layout.visible := by
  unfold opensLetBracket at opens
  split at opens
  case h_2 => cases opens
  rename_i chain id isName
  simp only [Bool.and_eq_true, bne_iff_ne, beq_iff_eq] at opens
  obtain ⟨⟨noOption, rfl⟩, computed⟩ := opens
  obtain ⟨property, isFirst, isComputed⟩ := Option.any_eq_true _ _ |>.mp computed
  obtain ⟨others, rfl⟩ := List.head?_eq_some_iff.mp isFirst
  obtain ⟨_, _⟩ := object
  obtain ⟨_, _⟩ := property
  obtain rfl : _ = Form.name "let" := isName
  unfold Tree.isComputed at isComputed
  split at isComputed
  case h_2 => cases isComputed
  rename_i same
  obtain rfl : _ = Form.computed := same
  match others with
  | [] =>
    cases chain with
    | none => exact ⟨_, rfl⟩
    | link => exact ⟨_, rfl⟩
    | optional => exact absurd rfl noOption
  | _ :: _ => exact ⟨_, rfl⟩

theorem Tree.visible_of_letBracket {tree : Tree} (opens : tree.bareOpening = .letBracket) :
    [.text "let", .text "["] <+: tree.layout.visible := by
  induction tree using Tree.inductionOn with
  | node form parts ih =>
    cases parts with
    | nil => exact absurd opens form.opening_ne_letBracket
    | cons part parts =>
      rw [bareOpening] at opens
      split at opens
      · rename_i led
        split at opens
        · rename_i bracket
          exact visible_of_opensLetBracket bracket
        · exact (ih part List.mem_cons_self opens).trans (leads_of_led led part parts)
      · exact absurd opens form.opening_ne_letBracket

theorem Tree.print_of_letBracket {tree : Tree} (opens : tree.bareOpening = .letBracket) :
    ∃ rest, tree.statement.print.toList = 'l' :: 'e' :: 't' :: '[' :: rest := by
  have leads : Layout.LeadBy tree.layout tree.statement.layout :=
    (((Layout.LeadBy.refl _).append _).append _).append _
  obtain ⟨rest, seen⟩ := (visible_of_letBracket opens).trans leads
  refine ⟨(Layout.writeFrom 0 false rest).toList, ?_⟩
  rw [Tree.print, Layout.write, ← Layout.writeFrom_visible, ← seen]
  simp [Layout.writeFrom, Layout.indentation]

/-! Expressions that stay what they are -/

namespace Tree

/-- The statement of the expression, written out, is read as this statement again. -/
def Lands (tree : Tree) : Prop :=
  (readScript tree.statement.print.toList).map unplacedAll = some [tree.statement]

/-- The same where nothing but expressions is looked for. -/
def ReadsBack (tree : Tree) : Prop :=
  (readExpressions tree.statement.print.toList).map unplacedAll = some [tree.statement]

instance (tree : Tree) : Decidable tree.Lands :=
  inferInstanceAs (Decidable (_ = _))

instance (tree : Tree) : Decidable tree.ReadsBack :=
  inferInstanceAs (Decidable (_ = _))

/-- The name `let` is written without escapes. -/
theorem keyword_of_letBracket {tree : Tree} (opens : tree.bareOpening = .letBracket)
    {cursor : Cursor}
    (settled : settle (Cursor.start tree.statement.print.toList) = some ((), cursor)) :
    keywordOf? cursor.rest = some "let" := by
  obtain ⟨rest, written⟩ := print_of_letBracket opens
  have first : settle (Cursor.start ('l' :: 'e' :: 't' :: '[' :: rest)) =
      some ((), Cursor.start ('l' :: 'e' :: 't' :: '[' :: rest)) := rfl
  rw [written, first] at settled
  cases settled
  rfl

theorem lands_iff {tree : Tree} (bare : tree.unplaced = tree) :
    tree.Lands ↔ tree.ReadsBack ∧ tree.opening = .plain := by
  constructor
  · intro lands
    obtain ⟨readsBack, cursor, settled, plain | ⟨bracket, noKeyword⟩⟩ :=
      readExpressions_of_readScript lands
    · exact ⟨readsBack, plain⟩
    · rw [opening, bare] at bracket
      exact absurd (keyword_of_letBracket bracket settled) noKeyword
  · rintro ⟨readsBack, plain⟩
    exact readScript_of_readExpressions readsBack plain

end Tree

end CssInline.Code

namespace CssInline

open Code

theorem exists_inner_of_parseExpression {source : String} {tree : Tree}
    (parsed : parseExpression source = .ok tree) :
    ∃ inner, (readScript (enclosed source)).map Tree.unplacedAll =
      some [inner.paren.statement] ∧ tree = guarded inner := by
  unfold parseExpression at parsed
  split at parsed
  · cases parsed
  · rename_i inner read
    cases parsed
    exact ⟨inner, read, rfl⟩
  · cases parsed
  · cases parsed

theorem opening_guarded (tree : Tree) :
    (guarded tree).opening = if isAtomic tree then tree.opening else .plain := by
  unfold guarded
  split
  · rfl
  · exact Tree.opening_of_own rfl _

/-- When the expression that was read from a text is made a statement, written out and read again,
it is that statement if and only if it comes back where only expressions are looked for and, unless
it is kept in parentheses, opens plainly: neither with a brace nor with a function, a class or the
name `let` before a bracket. -/
theorem expression_lands_iff_opens_plainly {source : String} {tree : Tree}
    (parsed : parseExpression source = .ok tree) :
    ∃ inner, (readScript (enclosed source)).map Tree.unplacedAll =
        some [inner.paren.statement] ∧ tree = guarded inner ∧
      (tree.Lands ↔ tree.ReadsBack ∧ (isAtomic inner = true → inner.opening = .plain)) := by
  obtain ⟨inner, read, rfl⟩ := exists_inner_of_parseExpression parsed
  refine ⟨inner, read, rfl, ?_⟩
  have bare : inner.unplaced = inner := by
    obtain ⟨item, _, same⟩ := map_unplacedAll_eq_singleton.mp read
    have again := Tree.unplaced_unplaced item
    rw [same] at again
    have inside := (List.cons.inj (Tree.node.inj again).2).1
    exact (List.cons.inj (Tree.node.inj inside).2).1
  have bareGuarded : (guarded inner).unplaced = guarded inner := by
    unfold guarded
    split
    · exact bare
    · exact congrArg Tree.paren bare
  rw [Tree.lands_iff bareGuarded, opening_guarded]
  cases isAtomic inner <;> simp

/-- A member of an empty object. -/
def memberOfObject : Tree :=
  .node (.member .none) [.node .object [], .leaf (.memberName "a")]

/-- Its parentheses are left out, and without them its brace opens a block. -/
theorem member_of_object_does_not_land :
    parseExpression "\x7b\x7d.a" = .ok memberOfObject ∧ memberOfObject.ReadsBack ∧
      ¬ memberOfObject.Lands := by
  have parsed : parseExpression "\x7b\x7d.a" = .ok memberOfObject := by decide +kernel
  have readsBack : memberOfObject.ReadsBack := by decide +kernel
  obtain ⟨inner, _, same, lands⟩ := expression_lands_iff_opens_plainly parsed
  refine ⟨parsed, readsBack, fun isLanding => ?_⟩
  have plain := (lands.mp isLanding).2
  unfold guarded at same
  split at same
  · rename_i atomic
    rw [← same] at plain atomic
    exact absurd (plain atomic) (by decide)
  · cases congrArg Tree.form same

end CssInline
