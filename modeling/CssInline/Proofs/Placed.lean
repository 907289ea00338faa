import CssInline.Code.Program
import CssInline.Proofs.Grouping

/-! Code that stands in a text, and readers that give only what stands in the text they read. -/

namespace CssInline.Code

namespace Tree

mutual

/-- The nodes of a tree, each after its parts. -/
def nodes : Tree → List Tree
  | .node form parts => nodesOf parts ++ [.node form parts]

def nodesOf : List Tree → List Tree
  | [] => []
  | tree :: trees => tree.nodes ++ nodesOf trees

end

theorem mem_nodesOf {node : Tree} {trees : List Tree} :
    node ∈ nodesOf trees ↔ ∃ tree ∈ trees, node ∈ tree.nodes := by
  induction trees with
  | nil => simp [nodesOf]
  | cons tree trees ih => simp [nodesOf, ih]

theorem mem_nodes {node : Tree} {form : Form} {parts : List Tree} :
    node ∈ (Tree.node form parts).nodes ↔
      (∃ part ∈ parts, node ∈ part.nodes) ∨ node = .node form parts := by
  simp [nodes, mem_nodesOf]

theorem forall_nodes {holds : Tree → Prop} {form : Form} {parts : List Tree} :
    (∀ inner ∈ (node form parts).nodes, holds inner) ↔
      (∀ part ∈ parts, ∀ inner ∈ part.nodes, holds inner) ∧ holds (node form parts) := by
  constructor
  · intro all
    refine ⟨fun part member inner inside => ?_, all _ (mem_nodes.mpr (.inr rfl))⟩
    exact all inner (mem_nodes.mpr (.inl ⟨part, member, inside⟩))
  · rintro ⟨below, self⟩ inner inside
    cases mem_nodes.mp inside with
    | inl deeper =>
      obtain ⟨part, member, inside⟩ := deeper
      exact below part member inner inside
    | inr same => rwa [same]

mutual

theorem nodes_subset {node : Tree} : (tree : Tree) → node ∈ tree.nodes → node.nodes ⊆ tree.nodes
  | .node form parts, inside => by
    intro other deeper
    cases mem_nodes.mp inside with
    | inl inPart =>
      have inParts := nodesOf_subset parts (mem_nodesOf.mpr inPart) deeper
      exact mem_nodes.mpr (.inl (mem_nodesOf.mp inParts))
    | inr same => rwa [same] at deeper

theorem nodesOf_subset {node : Tree} :
    (trees : List Tree) → node ∈ nodesOf trees → node.nodes ⊆ nodesOf trees
  | [], inside => by cases inside
  | tree :: trees, inside => by
    intro other deeper
    cases List.mem_append.mp inside with
    | inl first => exact List.mem_append_left _ (nodes_subset tree first deeper)
    | inr later => exact List.mem_append_right _ (nodesOf_subset trees later deeper)

end

/-- What the text from `start` on says about a node. A string is written somehow. A tagged template
has a tag, type arguments and an interpolation between each two of its texts. It starts on a line of
the text, not after its end, and its texts stand there as they are written. -/
@[simp] def Fits (start : Cursor) : Tree → Prop
  | .node (.tagged line quasis) parts =>
    parts.length = quasis.length + 1 ∧
      (start.line ≤ line ∧ ∃ cursor, start.Reaches cursor ∧ cursor.rest ≠ [] ∧ line ≤ cursor.line) ∧
      ∀ quasi ∈ quasis, ∃ raw, raw <:+: start.rest ∧ quasi = quasiOf raw
  | .node (.string _ raw) _ => raw ≠ none
  | _ => True

/-- Whether a tree can be what is read from the text: its nodes fit there, and their parts are
grouped without parentheses. -/
def IsPlaced (start : Cursor) (tree : Tree) : Prop :=
  ∀ node ∈ tree.nodes, node.Fits start ∧ node.IsGrouped

theorem Fits.mono {start start' : Cursor} (reaches : start'.Reaches start) {tree : Tree}
    (fits : tree.Fits start) : tree.Fits start' := by
  unfold Fits at fits ⊢
  split at fits
  · obtain ⟨count, ⟨low, cursor, reached, going, high⟩, texts⟩ := fits
    refine ⟨count, ⟨Nat.le_trans reaches.line_le low, cursor, reaches.trans reached, going, high⟩,
      fun quasi member => ?_⟩
    obtain ⟨raw, inside, same⟩ := texts quasi member
    exact ⟨raw, inside.trans reaches.suffix.isInfix, same⟩
  · exact fits
  · trivial

theorem IsPlaced.mono {start start' : Cursor} (reaches : start'.Reaches start) {tree : Tree}
    (placed : tree.IsPlaced start) : tree.IsPlaced start' :=
  fun node inside => ⟨(placed node inside).1.mono reaches, (placed node inside).2⟩

end Tree

/-! Values that are read -/

/-- What the text from `start` on says about a value that is read from it. About most it says
nothing. -/
class Placed (α : Type) where
  isPlaced : Cursor → α → Prop

open Placed

instance (priority := low) : Placed α := ⟨fun _ _ => True⟩

instance : Placed Tree := ⟨Tree.IsPlaced⟩

instance : Placed Quasi :=
  ⟨fun start quasi => ∃ raw, raw <:+: start.rest ∧ quasi = quasiOf raw⟩

instance [Placed α] : Placed (List α) :=
  ⟨fun start values => ∀ value ∈ values, isPlaced start value⟩

instance [Placed α] : Placed (Option α) :=
  ⟨fun start value? => ∀ value ∈ value?, isPlaced start value⟩

instance [Placed α] [Placed β] : Placed (α × β) :=
  ⟨fun start pair => isPlaced start pair.1 ∧ isPlaced start pair.2⟩

instance [Placed α] [Placed β] : Placed (α ⊕ β) :=
  ⟨fun start => Sum.elim (isPlaced start) (isPlaced start)⟩

/-- Values about which the text says nothing. -/
class Plain (α : Type) [Placed α] : Prop where
  isPlaced : ∀ start (value : α), isPlaced start value

instance : Plain α := ⟨fun _ _ => trivial⟩

section Values

variable {start : Cursor} [Placed α] [Placed β]

instance [Plain α] : Plain (List α) := ⟨fun start _ value _ => Plain.isPlaced start value⟩

instance [Plain α] : Plain (Option α) := ⟨fun start _ value _ => Plain.isPlaced start value⟩

instance [Plain α] [Plain β] : Plain (α × β) :=
  ⟨fun start value => ⟨Plain.isPlaced start value.1, Plain.isPlaced start value.2⟩⟩

@[simp] theorem isPlaced_plain [Plain α] (value : α) : isPlaced start value :=
  Plain.isPlaced start value

@[simp] theorem isPlaced_tree {tree : Tree} : isPlaced start tree ↔ tree.IsPlaced start := Iff.rfl

theorem isPlaced_list {values : List α} :
    isPlaced start values ↔ ∀ value ∈ values, isPlaced start value := Iff.rfl

@[simp] theorem isPlaced_nil : isPlaced start ([] : List α) := nofun

@[simp] theorem isPlaced_cons {value : α} {values : List α} :
    isPlaced start (value :: values) ↔ isPlaced start value ∧ isPlaced start values :=
  List.forall_mem_cons

@[simp] theorem isPlaced_append {values values' : List α} :
    isPlaced start (values ++ values') ↔ isPlaced start values ∧ isPlaced start values' :=
  List.forall_mem_append

@[simp] theorem isPlaced_reverse {values : List α} :
    isPlaced start values.reverse ↔ isPlaced start values := by
  simp [isPlaced_list]

@[simp] theorem isPlaced_none : isPlaced start (none : Option α) := nofun

@[simp] theorem isPlaced_some {value : α} : isPlaced start (some value) ↔ isPlaced start value :=
  ⟨fun placed => placed value rfl, fun placed _ same => Option.some.inj same ▸ placed⟩

@[simp] theorem isPlaced_option_bind {value? : Option α} {next : α → Option β}
    (placed : isPlaced start value?)
    (placedNext : ∀ value, isPlaced start value → isPlaced start (next value)) :
    isPlaced start (value?.bind next) := by
  cases value? with
  | none => exact isPlaced_none
  | some value => exact placedNext value (isPlaced_some.mp placed)

@[simp] theorem isPlaced_option_map {value? : Option α} {f : α → β}
    (placed : isPlaced start value?)
    (placedNext : ∀ value, isPlaced start value → isPlaced start (f value)) :
    isPlaced start (value?.map f) := by
  cases value? with
  | none => exact isPlaced_none
  | some value => exact isPlaced_some.mpr (placedNext value (isPlaced_some.mp placed))

@[simp] theorem isPlaced_pair {pair : α × β} :
    isPlaced start pair ↔ isPlaced start pair.1 ∧ isPlaced start pair.2 := Iff.rfl

@[simp] theorem isPlaced_inl {value : α} :
    isPlaced start (.inl value : α ⊕ β) ↔ isPlaced start value := Iff.rfl

@[simp] theorem isPlaced_inr {value : β} :
    isPlaced start (.inr value : α ⊕ β) ↔ isPlaced start value := Iff.rfl

end Values

namespace Tree

variable {start : Cursor}

@[simp] theorem isPlaced_node {form : Form} {parts : List Tree} :
    (Tree.node form parts).IsPlaced start ↔
      isPlaced start parts ∧ (Tree.node form parts).Fits start ∧
        (Tree.node form parts).IsGrouped :=
  forall_nodes

@[simp] theorem isPlaced_leaf {form : Form} :
    (leaf form).IsPlaced start ↔ (node form []).Fits start := by
  rw [leaf, isPlaced_node]
  exact ⟨fun placed => placed.2.1, fun fits => ⟨isPlaced_nil, fits, isGrouped_leaf form⟩⟩

@[simp] theorem isPlaced_absent : absent.IsPlaced start := by
  simp [absent]

@[simp] theorem isPlaced_name (id : String) : (name id).IsPlaced start := by
  simp [name]

@[simp] theorem isPlaced_getD {tree? : Option Tree} (placed : isPlaced start tree?) :
    (tree?.getD absent).IsPlaced start := by
  cases tree? with
  | none => exact isPlaced_absent
  | some tree => exact isPlaced_some.mp placed

@[simp] theorem isPlaced_paren {tree : Tree} : tree.paren.IsPlaced start ↔ tree.IsPlaced start := by
  simp [paren]

end Tree

/-! Readers -/

/-- Whether `holds` is true of all that `reader` gives from a place after `start` on. -/
def Reader.Gives (start : Cursor) (reader : Reader α) (holds : α → Prop) : Prop :=
  ∀ ⦃cursor⦄, start.Reaches cursor → ∀ ⦃value after⦄, reader cursor = some (value, after) →
    holds value

namespace Reader.Gives

variable {start : Cursor} {holds : α → Prop} {holds' : β → Prop}

theorem bind {reader : Reader α} {next : α → Reader β} (first : reader.Gives start holds)
    (second : ∀ value, holds value → (next value).Gives start holds') :
    (reader >>= next).Gives start holds' := by
  intro cursor reached value after read
  obtain ⟨first', middle, readFirst, readNext⟩ := Reader.bind_eq_some.mp read
  have there := reached.trans (reader.reaches readFirst)
  exact second first' (first reached readFirst) there readNext

theorem and {holds' : α → Prop} {reader : Reader α} (gives : reader.Gives start holds)
    (gives' : reader.Gives start holds') :
    reader.Gives start fun value => holds value ∧ holds' value :=
  fun _ reached _ _ read => ⟨gives reached read, gives' reached read⟩

theorem any (reader : Reader α) : reader.Gives start fun _ => True :=
  fun _ _ _ _ _ => trivial

theorem pure {value : α} (true : holds value) : Reader.Gives start (pure value) holds := by
  intro cursor reached value' after read
  cases read
  exact true

theorem fail : (Reader.fail : Reader α).Gives start holds := by
  intro cursor reached value after read
  cases read

theorem attempt {reader : Reader α} (gives : reader.Gives start holds) :
    reader.attempt.Gives start fun value? => ∀ value ∈ value?, holds value := by
  intro cursor reached value? after read value found
  unfold Reader.attempt at read
  dsimp only at read
  split at read
  · rename_i inside
    cases read
    cases found
    exact gives reached inside
  · cases read
    cases found

theorem ofOption {value? : Option α} (true : ∀ value, value? = some value → holds value) :
    (Reader.ofOption value?).Gives start holds := by
  cases value? with
  | none => exact fail
  | some value => exact pure (true value rfl)

theorem iterateFrom {step : α → Reader (α ⊕ β)}
    (gives : ∀ state, holds state → (step state).Gives start (Sum.elim holds holds')) (fuel : Nat)
    {state : α} (begins : holds state) : (iterateFrom step fuel state).Gives start holds' := by
  induction fuel generalizing state with
  | zero => exact fail
  | succ fuel ih =>
    refine (gives state begins).bind fun next holdsNext => ?_
    cases next with
    | inl state => exact ih holdsNext
    | inr result => exact pure holdsNext

theorem iterate {step : α → Reader (α ⊕ β)}
    (gives : ∀ state, holds state → (step state).Gives start (Sum.elim holds holds')) {state : α}
    (begins : holds state) : (iterate step state).Gives start holds' := by
  intro cursor reached
  exact iterateFrom gives (cursor.rest.length + 2) begins reached

end Reader.Gives

/-- What is read from a place after `start` on is placed there. -/
def Keeps (start : Cursor) [Placed α] (reader : Reader α) : Prop :=
  reader.Gives start (isPlaced start)

instance [Placed α] : Placed (Reader α) := ⟨fun start reader => Keeps start reader⟩

section Readers

variable {start : Cursor} [Placed α] [Placed β]

@[simp] theorem isPlaced_reader {reader : Reader α} :
    isPlaced start reader ↔ Keeps start reader := Iff.rfl

@[simp] theorem keeps_plain [Plain α] (reader : Reader α) : Keeps start reader :=
  fun _ _ value _ _ => Plain.isPlaced start value

theorem Keeps.bind {reader : Reader α} {next : α → Reader β} (keeps : Keeps start reader)
    (keepsNext : ∀ value, isPlaced start value → Keeps start (next value)) :
    Keeps start (reader >>= next) :=
  Reader.Gives.bind keeps keepsNext

/-- The same where more is known of what is read first. -/
theorem Keeps.bindGiven {reader : Reader α} {next : α → Reader β} {holds : α → Prop}
    (given : reader.Gives start holds) (keeps : Keeps start reader)
    (keepsNext : ∀ value, holds value → isPlaced start value → Keeps start (next value)) :
    Keeps start (reader >>= next) :=
  Reader.Gives.bind (given.and keeps) fun value both => keepsNext value both.1 both.2

@[simp] theorem keeps_pure {value : α} : Keeps start (pure value) ↔ isPlaced start value :=
  ⟨fun keeps => keeps (Cursor.Reaches.refl start) rfl, Reader.Gives.pure⟩

@[simp] theorem keeps_map {reader : Reader α} {f : α → β} (keeps : Keeps start reader)
    (placed : ∀ value, isPlaced start value → isPlaced start (f value)) :
    Keeps start (f <$> reader) := by
  rw [map_eq_pure_bind]
  exact keeps.bind fun value placedValue => keeps_pure.mpr (placed value placedValue)

@[simp] theorem keeps_fail : Keeps start (Reader.fail : Reader α) :=
  Reader.Gives.fail

@[simp] theorem keeps_attempt {reader : Reader α} (keeps : Keeps start reader) :
    Keeps start reader.attempt :=
  Reader.Gives.attempt keeps

@[simp] theorem keeps_ofOption {value : Option α} (placed : isPlaced start value) :
    Keeps start (Reader.ofOption value) :=
  Reader.Gives.ofOption placed

theorem Keeps.iterate {step : α → Reader (α ⊕ β)}
    (keeps : ∀ state, isPlaced start state → Keeps start (step state)) {state : α}
    (placed : isPlaced start state) : Keeps start (Reader.iterate step state) :=
  Reader.Gives.iterate keeps placed

end Readers

end CssInline.Code
