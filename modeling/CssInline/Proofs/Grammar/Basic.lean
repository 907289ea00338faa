import CssInline.Proofs.Grammar.Strength

/-! Lists, types, patterns and functions keep to their text. Each proof goes through the steps
of its reader. -/

namespace CssInline.Code.Grammar

open Placed

/-! Lists -/

section Lists

variable {start : Cursor} {item : Reader Tree}

variable {holds : Tree → Prop}

/-- What holds of the items holds of all items of a list. -/
theorem gives_commaList (gives : item.Gives start holds) (closing : String) :
    (commaList closing item).Gives start fun trees => ∀ tree ∈ trees, holds tree := by
  unfold commaList commaListStep
  refine .iterate (fun done (hold : ∀ tree ∈ done, holds tree) => ?_) nofun
  refine .last fun ended => ?_
  split
  · exact .pure fun tree member => hold tree (List.mem_reverse.mp member)
  refine .bind gives fun tree holdsTree => .last fun _ => ?_
  have more : ∀ other ∈ tree :: done, holds other := List.forall_mem_cons.mpr ⟨holdsTree, hold⟩
  split
  · exact .pure more
  · exact .last fun _ => .pure fun other member => more other (List.mem_reverse.mp member)

theorem gives_separated (gives : item.Gives start holds) (mark : String) :
    (separated mark item).Gives start fun trees => ∀ tree ∈ trees, holds tree := by
  unfold separated
  refine .iterate (fun done (hold : ∀ tree ∈ done, holds tree) => ?_) nofun
  refine .bind gives fun tree holdsTree => .last fun _ => ?_
  have more : ∀ other ∈ tree :: done, holds other := List.forall_mem_cons.mpr ⟨holdsTree, hold⟩
  split
  · exact .pure more
  · exact .pure fun other member => more other (List.mem_reverse.mp member)

@[simp] theorem keeps_commaList (keeps : Keeps start item) (closing : String) :
    Keeps start (commaList closing item) :=
  gives_commaList keeps closing

@[simp] theorem keeps_separated (keeps : Keeps start item) (mark : String) :
    Keeps start (separated mark item) :=
  gives_separated keeps mark

@[simp] theorem keeps_listUntil (keeps : Keeps start item) (closing : String) :
    Keeps start (listUntil closing item) := by
  unfold listUntil
  refine Keeps.iterate (fun _ _ => ?_) (by simp)
  repeat' first | with_reducible refine Keeps.bind ?_ fun _ _ => ?_ | split | simp_all

/-- The items of a prologue are placed, whatever it makes of those after it. -/
instance : Placed Prologue := ⟨fun start state => isPlaced start state.done⟩

@[simp] theorem isPlaced_prologue {state : Prologue} :
    isPlaced start state ↔ isPlaced start state.done := Iff.rfl

@[simp] theorem keeps_items {read : Within → Reader Tree} (keeps : ∀ within, Keeps start
    (read within)) (within : Within) (stop : Reader Bool) :
    Keeps start (items read within stop) := by
  unfold items
  refine Keeps.iterate (fun _ _ => ?_) (by simp)
  repeat' first | with_reducible refine Keeps.bind ?_ fun _ _ => ?_ | split | simp_all

end Lists

/-! Types and names -/

section Types

variable {start : Cursor} {rules : Rules} {within : Within}

@[simp] theorem isPlaced_typeNode (layout : Layout) : (typeNode layout).IsPlaced start := by
  simp [typeNode]

@[simp] theorem keeps_typeParameters? : Keeps start (typeParameters? rules within) := by
  unfold typeParameters?
  repeat' first | with_reducible refine Keeps.bind ?_ fun _ _ => ?_ | split | simp_all

@[simp] theorem keeps_type : Keeps start (type rules within) := by
  unfold type
  repeat' first | with_reducible refine Keeps.bind ?_ fun _ _ => ?_ | split | simp_all

@[simp] theorem keeps_privateName : Keeps start privateName := by
  unfold privateName
  repeat' first | with_reducible refine Keeps.bind ?_ fun _ _ => ?_ | split | simp_all

end Types

/-- The rules for smaller pieces of code keep to the text. -/
class Keeping (rules : Rules) : Prop extends Binding rules where
  keeps : ∀ start goal within, Keeps start (rules goal within)

section Rules

variable {start : Cursor} {rules : Rules} [Keeping rules] {within : Within}

@[simp] theorem keeps_rule {goal : Goal} : Keeps start (rules goal within) :=
  Keeping.keeps start goal within

/-- What a rule gives also binds as tightly as is asked for. -/
theorem Keeps.bindRule [Placed α] {goal : Goal} {next : Tree → Reader α}
    (keepsNext : ∀ tree, goal.Suits tree → tree.IsPlaced start → Keeps start (next tree)) :
    Keeps start (rules goal within >>= next) :=
  Keeps.bindGiven (Binding.suits start goal within) keeps_rule keepsNext

@[simp] theorem keeps_annotation? : Keeps start (annotation? rules within) := by
  unfold annotation?
  repeat' first | with_reducible refine Keeps.bind ?_ fun _ _ => ?_ | split | simp_all

/-! Patterns -/

@[simp] theorem isPlaced_stringKey (lexeme : StringLexeme) : (stringKey lexeme).IsPlaced start := by
  simp [stringKey]

@[simp] theorem keeps_propertyKey : Keeps start (propertyKey rules within) := by
  unfold propertyKey
  repeat' first | with_reducible refine Keeps.bind ?_ fun _ _ => ?_ | split | simp_all

@[simp] theorem keeps_withDefault {pattern : Reader Tree} (keeps : Keeps start pattern) :
    Keeps start (withDefault rules within pattern) := by
  unfold withDefault
  repeat' first | with_reducible refine Keeps.bind ?_ fun _ _ => ?_ | split | simp_all

@[simp] theorem keeps_restPattern : Keeps start (restPattern rules within) := by
  unfold restPattern
  repeat' first | with_reducible refine Keeps.bind ?_ fun _ _ => ?_ | split | simp_all

@[simp] theorem keeps_arrayPatternStep {done : List Tree} (placed : isPlaced start done) :
    Keeps start (arrayPatternStep rules within done) := by
  unfold arrayPatternStep
  repeat' first | with_reducible refine Keeps.bind ?_ fun _ _ => ?_ | split | simp_all

@[simp] theorem keeps_shorthandPattern : Keeps start (shorthandPattern rules within) := by
  unfold shorthandPattern
  repeat' first | with_reducible refine Keeps.bind ?_ fun _ _ => ?_ | split | simp_all

@[simp] theorem keeps_propertyPattern : Keeps start (propertyPattern rules within) := by
  unfold propertyPattern
  repeat' first
    | with_reducible refine Keeps.bind ?_ fun _ _ => ?_
    | with_reducible refine keeps_attempt ?_
    | split
    | simp_all

@[simp] theorem keeps_objectPatternStep {done : List Tree} (placed : isPlaced start done) :
    Keeps start (objectPatternStep rules within done) := by
  unfold objectPatternStep
  repeat' first | with_reducible refine Keeps.bind ?_ fun _ _ => ?_ | split | simp_all

@[simp] theorem keeps_binding : Keeps start (binding rules within) := by
  unfold binding
  have elements : Keeps start (Reader.iterate (arrayPatternStep rules within) []) :=
    Keeps.iterate (fun _ placed => keeps_arrayPatternStep placed) isPlaced_nil
  have properties : Keeps start (Reader.iterate (objectPatternStep rules within) []) :=
    Keeps.iterate (fun _ placed => keeps_objectPatternStep placed) isPlaced_nil
  repeat' first | with_reducible refine Keeps.bind ?_ fun _ _ => ?_ | split | simp_all

@[simp] theorem keeps_typedBinding : Keeps start (typedBinding rules within) := by
  unfold typedBinding
  repeat' first | with_reducible refine Keeps.bind ?_ fun _ _ => ?_ | split | simp_all

@[simp] theorem keeps_receiver : Keeps start (receiver within) := by
  unfold receiver
  repeat' first | with_reducible refine Keeps.bind ?_ fun _ _ => ?_ | split | simp_all

@[simp] theorem keeps_parameterTarget : Keeps start (parameterTarget rules within) := by
  unfold parameterTarget
  repeat' first | with_reducible refine Keeps.bind ?_ fun _ _ => ?_ | split | simp_all

@[simp] theorem keeps_parameter : Keeps start (parameter rules within) := by
  unfold parameter
  repeat' first | with_reducible refine Keeps.bind ?_ fun _ _ => ?_ | split | simp_all

@[simp] theorem keeps_parameterStep {done : List Tree} (placed : isPlaced start done) :
    Keeps start (parameterStep rules within done) := by
  unfold parameterStep
  repeat' first | with_reducible refine Keeps.bind ?_ fun _ _ => ?_ | split | simp_all

@[simp] theorem keeps_parameters : Keeps start (parameters rules within) := by
  unfold parameters
  have list : Keeps start (Reader.iterate (parameterStep rules within) []) :=
    Keeps.iterate (fun _ placed => keeps_parameterStep placed) isPlaced_nil
  repeat' first | with_reducible refine Keeps.bind ?_ fun _ _ => ?_ | split | simp_all

/-! Functions -/

@[simp] theorem keeps_functionBody : Keeps start (functionBody rules within) := by
  unfold functionBody
  repeat' first | with_reducible refine Keeps.bind ?_ fun _ _ => ?_ | split | simp_all

@[simp] theorem keeps_callable (tight : Bool) : Keeps start (callable rules within tight) := by
  unfold callable
  repeat' first | with_reducible refine Keeps.bind ?_ fun _ _ => ?_ | split | simp_all

@[simp] theorem keeps_functionFrom (isAsync named isDeclaration : Bool) :
    Keeps start (functionFrom rules within isAsync named isDeclaration) := by
  unfold functionFrom
  repeat' first | with_reducible refine Keeps.bind ?_ fun _ _ => ?_ | split | simp_all

@[simp] theorem keeps_functionTree (named isDeclaration : Bool) :
    Keeps start (functionTree rules within named isDeclaration) := by
  unfold functionTree
  repeat' first | with_reducible refine Keeps.bind ?_ fun _ _ => ?_ | split | simp_all

@[simp] theorem keeps_arrowBody (isAsync : Bool) :
    Keeps start (arrowBody rules within isAsync) := by
  unfold arrowBody
  repeat' first | with_reducible refine Keeps.bind ?_ fun _ _ => ?_ | split | simp_all

omit [Keeping rules] in
theorem gives_functionBody : (functionBody rules within).Gives start fun body =>
    1 ≤ body.strength ∧ body.isBlock = true := by
  unfold functionBody
  exact .last fun _ => .last fun _ => .pure ⟨(by decide : 1 ≤ 19), rfl⟩

/-- A body that is an expression is none that opens with a brace. -/
theorem gives_arrowBody (isAsync : Bool) :
    (arrowBody rules within isAsync).Gives start fun body =>
      1 ≤ body.strength ∧ (body.isBlock = true ∨ body.opening ≠ .brace) := by
  intro cursor _ body after read
  have here := Cursor.Reaches.refl cursor
  unfold arrowBody at read
  rw [Reader.bind_of_some (Reader.atMark_apply "\x7b" cursor)] at read
  split at read
  · exact (gives_functionBody here read).imp_right .inl
  · rename_i noBlock
    refine ⟨Binding.suits cursor .assignment _ here read, .inr ?_⟩
    rw [(Binding.opens _).2 read]
    exact Cursor.opening_ne_brace (mt beq_iff_eq.mpr noBlock)

@[simp] theorem keeps_arrowFrom (isAsync : Bool) {types list result : Tree}
    (placedTypes : types.IsPlaced start)
    (placedList : list.IsPlaced start) (placedResult : result.IsPlaced start) :
    Keeps start (arrowFrom rules within isAsync types list result) := by
  unfold arrowFrom
  refine Keeps.bindGiven (gives_arrowBody isAsync) (keeps_arrowBody isAsync) fun _ _ _ => ?_
  simp_all

@[simp] theorem keeps_arrowHead (isAsync : Bool) :
    Keeps start (arrowHead rules within isAsync) := by
  unfold arrowHead
  repeat' first | with_reducible refine Keeps.bind ?_ fun _ _ => ?_ | split | simp_all

@[simp] theorem keeps_bareArrowHead : Keeps start (bareArrowHead within) := by
  unfold bareArrowHead
  repeat' first | with_reducible refine Keeps.bind ?_ fun _ _ => ?_ | split | simp_all

@[simp] theorem keeps_arrow? : Keeps start (arrow? rules within) := by
  unfold arrow?
  repeat' first
    | with_reducible refine Keeps.bind ?_ fun _ _ => ?_
    | with_reducible refine keeps_attempt ?_
    | split
    | simp_all

end Rules

end CssInline.Code.Grammar
