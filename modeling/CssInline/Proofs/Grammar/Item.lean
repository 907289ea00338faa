import CssInline.Proofs.Placed

/-! The items of a file: imports, exports, declarations and statements, and never an expression. -/

namespace CssInline.Code

/-- Whether it is the form of a statement, a declaration or an export. -/
def Form.isStatement : Form → Bool
  | .expressionStatement | .variableStatement | .declaration | .block | .emptyStatement | .debugger
  | .returnStatement | .throwStatement | .breakStatement _ | .continueStatement _
  | .ifStatement | .switchStatement | .tryStatement | .withStatement | .labeled _
  | .forLoop | .forIn | .forOf _ | .whileLoop | .doWhile
  | .plain _ | .enum _ _ | .namespaceBlock _ | .declare
  | .exportNames _ | .exportAll _ _ | .exportDeclaration | .exportDefault
  | .exportDefaultDeclaration => true
  | _ => false

def Tree.IsStatement (tree : Tree) : Prop :=
  tree.form.isStatement = true

/-- An import, or a statement, a declaration or an export, perhaps with comments before it. -/
inductive Tree.IsItem : Tree → Prop
  | importOf (clause : ImportClause) : IsItem (.leaf (.importItem clause))
  | statement {tree : Tree} (isStatement : tree.IsStatement) : IsItem tree
  | commented {tree : Tree} (comments : List Comment) (inside : tree.IsItem) :
      IsItem (.node (.commented comments) [tree])

theorem Reader.Gives.mono {start : Cursor} {holds holds' : α → Prop} {reader : Reader α}
    (gives : reader.Gives start holds) (weaker : ∀ value, holds value → holds' value) :
    reader.Gives start holds' :=
  fun _ reached value _ read => weaker value (gives reached read)

/-- What a reader gives last decides about what it gives. -/
theorem Reader.Gives.last {start : Cursor} {holds : β → Prop} {reader : Reader α}
    {next : α → Reader β} (gives : ∀ value, (next value).Gives start holds) :
    (reader >>= next).Gives start holds :=
  Reader.Gives.bind (Reader.Gives.any reader) fun value _ => gives value

namespace Grammar

variable {start : Cursor} {rules : Rules} {within : Within}

theorem gives_withComments {reader : Reader Tree} (gives : reader.Gives start Tree.IsItem) :
    (withComments reader).Gives start Tree.IsItem := by
  unfold withComments
  refine .last fun cursor => .bind gives fun tree isItem => .pure ?_
  split
  · exact isItem
  · exact .commented _ isItem

/-! Statements -/

@[simp] theorem gives_variableStatement (keyword : String) :
    (variableStatement rules within keyword).Gives start Tree.IsStatement := by
  unfold variableStatement
  repeat' first | exact .pure rfl | with_reducible refine .last fun _ => ?_

@[simp] theorem gives_block : (block rules within).Gives start Tree.IsStatement := by
  unfold block
  repeat' first | exact .pure rfl | with_reducible refine .last fun _ => ?_

@[simp] theorem gives_expressionStatement :
    (expressionStatement rules within).Gives start Tree.IsStatement := by
  unfold expressionStatement
  repeat' first | exact .pure rfl | with_reducible refine .last fun _ => ?_

@[simp] theorem gives_returnStatement :
    (returnStatement rules within).Gives start Tree.IsStatement := by
  unfold returnStatement
  repeat' first | exact .pure rfl | with_reducible refine .last fun _ => ?_ | split

@[simp] theorem gives_throwStatement :
    (throwStatement rules within).Gives start Tree.IsStatement := by
  unfold throwStatement
  repeat' first | exact .pure rfl | with_reducible refine .last fun _ => ?_

@[simp] theorem gives_ifStatement : (ifStatement rules within).Gives start Tree.IsStatement := by
  unfold ifStatement
  repeat' first | exact .pure rfl | with_reducible refine .last fun _ => ?_ | split

@[simp] theorem gives_switchStatement :
    (switchStatement rules within).Gives start Tree.IsStatement := by
  unfold switchStatement
  repeat' first | exact .pure rfl | with_reducible refine .last fun _ => ?_

@[simp] theorem gives_tryStatement : (tryStatement rules within).Gives start Tree.IsStatement := by
  unfold tryStatement
  repeat' first | exact .pure rfl | with_reducible refine .last fun _ => ?_ | split

@[simp] theorem gives_whileLoop : (whileLoop rules within).Gives start Tree.IsStatement := by
  unfold whileLoop
  repeat' first | exact .pure rfl | with_reducible refine .last fun _ => ?_

@[simp] theorem gives_doWhile : (doWhile rules within).Gives start Tree.IsStatement := by
  unfold doWhile
  repeat' first | exact .pure rfl | with_reducible refine .last fun _ => ?_

@[simp] theorem gives_forOf (isAwait : Bool) (head : Tree) :
    (forOf rules within isAwait head).Gives start Tree.IsStatement := by
  unfold forOf
  repeat' first | exact .pure rfl | with_reducible refine .last fun _ => ?_

@[simp] theorem gives_forIn (head : Tree) :
    (forIn rules within head).Gives start Tree.IsStatement := by
  unfold forIn
  repeat' first | exact .pure rfl | with_reducible refine .last fun _ => ?_

@[simp] theorem gives_forLoop (head : Tree) :
    (forLoop rules within head).Gives start Tree.IsStatement := by
  unfold forLoop
  repeat' first | exact .pure rfl | with_reducible refine .last fun _ => ?_

@[simp] theorem gives_forStatement : (forStatement rules within).Gives start Tree.IsStatement := by
  unfold forStatement
  repeat' first | with_reducible refine .last fun _ => ?_ | split | simp

@[simp] theorem gives_withStatement :
    (withStatement rules within).Gives start Tree.IsStatement := by
  unfold withStatement
  repeat' first | exact .pure rfl | with_reducible refine .last fun _ => ?_

@[simp] theorem gives_labeled (label : String) :
    (labeled rules within label).Gives start Tree.IsStatement := by
  unfold labeled
  repeat' first | exact .pure rfl | with_reducible refine .last fun _ => ?_

@[simp] theorem gives_emptyStatement : emptyStatement.Gives start Tree.IsStatement := by
  unfold emptyStatement
  repeat' first | exact .pure rfl | with_reducible refine .last fun _ => ?_

@[simp] theorem gives_debugger : debugger.Gives start Tree.IsStatement := by
  unfold debugger
  repeat' first | exact .pure rfl | with_reducible refine .last fun _ => ?_

theorem gives_keywordStatement? {word : String} {reader : Reader Tree}
    (found : keywordStatement? rules within word = some reader) :
    reader.Gives start Tree.IsStatement := by
  unfold keywordStatement? at found
  split at found <;> cases found
  all_goals first | exact .last fun _ => .pure rfl | simp

@[simp] theorem gives_plainStatement :
    (plainStatement rules within).Gives start Tree.IsStatement := by
  unfold plainStatement
  repeat' first
    | with_reducible refine .last fun _ => ?_
    | split
    | simp
    | exact gives_keywordStatement? ‹_›

/-! Declarations -/

@[simp] theorem gives_interface : (interface rules within).Gives start Tree.IsStatement := by
  unfold interface
  repeat' first | exact .pure rfl | with_reducible refine .last fun _ => ?_ | split

@[simp] theorem gives_typeAlias : (typeAlias rules within).Gives start Tree.IsStatement := by
  unfold typeAlias
  repeat' first | exact .pure rfl | with_reducible refine .last fun _ => ?_

@[simp] theorem gives_enumeration : (enumeration rules within).Gives start Tree.IsStatement := by
  unfold enumeration
  repeat' first | exact .pure rfl | with_reducible refine .last fun _ => ?_

@[simp] theorem gives_namespaceBlock (keyword : String) :
    (namespaceBlock rules within keyword).Gives start Tree.IsStatement := by
  unfold namespaceBlock
  repeat' first | exact .pure rfl | with_reducible refine .last fun _ => ?_ | split

@[simp] theorem gives_abstractClass :
    (abstractClass rules within).Gives start Tree.IsStatement := by
  unfold abstractClass
  repeat' first | exact .pure rfl | with_reducible refine .last fun _ => ?_

@[simp] theorem gives_ambient : (ambient rules within).Gives start Tree.IsStatement := by
  unfold ambient
  repeat' first | exact .pure rfl | with_reducible refine .last fun _ => ?_

theorem gives_typeDeclaration? : (typeDeclaration? rules within).Gives start fun reader? =>
    ∀ reader ∈ reader?, reader.Gives start Tree.IsStatement := by
  unfold typeDeclaration?
  repeat' first
    | with_reducible refine .last fun _ => ?_
    | split
    | refine .pure fun reader found => ?_
    | dsimp only
  all_goals cases found
  all_goals simp

@[simp] theorem gives_functionDeclaration (named : Bool) :
    (functionDeclaration rules within named).Gives start Tree.IsStatement := by
  unfold functionDeclaration
  repeat' first | exact .pure rfl | with_reducible refine .last fun _ => ?_

@[simp] theorem gives_classDeclaration (named : Bool) :
    (classDeclaration rules within named).Gives start Tree.IsStatement := by
  unfold classDeclaration
  repeat' first | exact .pure rfl | with_reducible refine .last fun _ => ?_

theorem gives_declaration? : (declaration? rules within).Gives start fun tree? =>
    ∀ tree ∈ tree?, tree.IsStatement := by
  have found {reader : Reader Tree} (gives : reader.Gives start Tree.IsStatement) :
      (do return some (← reader) : Reader (Option Tree)).Gives start fun tree? =>
        ∀ tree ∈ tree?, tree.IsStatement :=
    .bind gives fun tree isStatement => .pure fun other same => Option.some.inj same ▸ isStatement
  unfold declaration?
  repeat' first
    | exact .pure nofun
    | exact found (by simp)
    | with_reducible refine .bind gives_typeDeclaration? fun reader? gives => ?_
    | exact found (gives _ rfl)
    | with_reducible refine .last fun _ => ?_
    | split

theorem gives_plainItem : (plainItem rules within).Gives start Tree.IsStatement := by
  unfold plainItem
  refine .bind gives_declaration? fun tree? isStatement => ?_
  split
  · exact .pure (isStatement _ rfl)
  · exact gives_plainStatement

theorem gives_item : (item rules within).Gives start Tree.IsItem :=
  gives_withComments (gives_plainItem.mono fun _ isStatement => .statement isStatement)

/-! Imports and exports -/

@[simp] theorem gives_importAlias : (importAlias within).Gives start Tree.IsStatement := by
  unfold importAlias
  repeat' first | exact .pure rfl | with_reducible refine .last fun _ => ?_ | split

@[simp] theorem gives_exportedNames (typeOnly : Bool) :
    (exportedNames within typeOnly).Gives start Tree.IsStatement := by
  unfold exportedNames
  repeat' first | exact .pure rfl | with_reducible refine .last fun _ => ?_ | split

@[simp] theorem gives_exportAll : (exportAll within).Gives start Tree.IsStatement := by
  unfold exportAll
  repeat' first | exact .pure rfl | with_reducible refine .last fun _ => ?_

@[simp] theorem gives_exportDefault :
    (exportDefault rules within).Gives start Tree.IsStatement := by
  unfold exportDefault
  repeat' first | exact .pure rfl | with_reducible refine .last fun _ => ?_ | split

theorem gives_importFrom (typeOnly : Bool) :
    (importFrom within typeOnly).Gives start Tree.IsItem := by
  unfold importFrom
  repeat' first
    | exact .pure (.importOf _)
    | with_reducible refine .last fun _ => ?_
    | split
    | dsimp only

theorem gives_bareImport : (bareImport within).Gives start Tree.IsItem := by
  unfold bareImport
  exact .last fun source => .pure (.importOf _)

theorem gives_importDeclaration : (importDeclaration within).Gives start Tree.IsItem := by
  unfold importDeclaration
  refine .last fun _ => .last fun quoted => ?_
  split
  · exact gives_bareImport
  · refine .bind (.attempt gives_importAlias) fun tree? isStatement => ?_
    split
    · exact .pure (.statement (isStatement _ rfl))
    · exact .last fun typeOnly => gives_importFrom typeOnly

theorem gives_exportItem : (exportItem rules within).Gives start Tree.IsStatement := by
  unfold exportItem
  repeat' first
    | exact .pure rfl
    | with_reducible refine .last fun _ => ?_
    | split
    | simp

theorem gives_plainModuleItem : (plainModuleItem rules within).Gives start Tree.IsItem := by
  unfold plainModuleItem
  refine .last fun atImport => ?_
  split
  · exact gives_importDeclaration
  · refine .last fun atExport => ?_
    split
    · exact gives_exportItem.mono fun _ isStatement => .statement isStatement
    · exact gives_plainItem.mono fun _ isStatement => .statement isStatement

theorem gives_moduleItem : (moduleItem rules within).Gives start Tree.IsItem :=
  gives_withComments gives_plainModuleItem

theorem gives_items {read : Within → Reader Tree} {holds : Tree → Prop}
    (gives : ∀ within, (read within).Gives start holds) (within : Within) (stop : Reader Bool) :
    (items read within stop).Gives start fun trees => ∀ tree ∈ trees, holds tree := by
  unfold items
  refine .iterate (fun state (done : ∀ tree ∈ state.done, holds tree) => ?_) nofun
  refine .last fun stopped => ?_
  split
  · exact .pure fun tree member => done tree (List.mem_reverse.mp member)
  · refine .bind (gives state.within) fun tree isTree => .pure fun other member => ?_
    cases List.mem_cons.mp member with
    | inl same => rwa [same]
    | inr earlier => exact done other earlier

end Grammar

theorem readItems_isItem {dialect : Dialect} {isModule : Bool} {text : List Char}
    {items : List Tree} (read : readItems dialect isModule text = some items) :
    ∀ item ∈ items, item.IsItem := by
  obtain ⟨found, _⟩ := Option.filter_eq_some_iff.mp read
  obtain ⟨⟨_, after⟩, whole, same⟩ := Option.map_eq_some_iff.mp found
  cases same
  have gives (rules : Grammar.Rules) (within : Grammar.Within) :
      (if isModule then Grammar.moduleItem rules else Grammar.item rules) within
        |>.Gives (Cursor.start text) Tree.IsItem := by
    split
    · exact Grammar.gives_moduleItem
    · exact Grammar.gives_item
  exact Reader.Gives.last (fun _ => Grammar.gives_items (gives _) _ _) (Cursor.Reaches.refl _) whole

/-- A file is a list of items. -/
theorem Program.isItem_of_parse? {dialect : Dialect} {text : String} {program : Program}
    (parsed : Program.parse? dialect text = some program) :
    ∀ item ∈ program.items, item.IsItem := by
  obtain ⟨items, read, same⟩ := Option.map_eq_some_iff.mp parsed
  cases same
  unfold readFile at read
  dsimp only at read
  split at read
  · rename_i asModule
    cases read
    exact readItems_isItem (Option.filter_eq_some_iff.mp asModule).1
  · cases Option.or_eq_some_iff.mp read with
    | inl asScript => exact readItems_isItem asScript
    | inr asModule => exact readItems_isItem asModule.2

end CssInline.Code
