import CssInline.Proofs.Grouping

/-! Chains of operators and operands put together: every operation groups its parts. -/

namespace CssInline.Code

/-! Operators -/

theorem one_le_bindingStrength {operator : String} (known : (precedence? operator).isSome = true) :
    1 ≤ bindingStrength operator := by
  unfold bindingStrength
  unfold precedence? at known ⊢
  split <;> simp_all

/-- No operator binds as tightly as the power. -/
theorem bindingStrength_lt {operator : String} (other : operator ≠ "**") :
    bindingStrength operator < 12 := by
  unfold bindingStrength precedence?
  split <;> first | decide | exact absurd rfl other

theorem leastLeft_le (operator : String) : leastLeft operator ≤ 15 := by
  have bound := bindingStrength_le operator
  unfold leastLeft
  split <;> omega

theorem leastRight_le (operator : String) : leastRight operator ≤ 14 := by
  unfold leastRight
  split
  · exact Nat.le_refl 14
  · rename_i other
    have bound := bindingStrength_lt (mt beq_iff_eq.mpr other)
    omega

theorem one_le_leastLeft (operator : String) : 1 ≤ leastLeft operator := by
  unfold leastLeft
  split <;> omega

theorem one_le_leastRight (operator : String) : 1 ≤ leastRight operator := by
  unfold leastRight
  split <;> omega

/-- What an operator completes can stand before it. -/
theorem leastLeft_of_yieldsTo {operator operator' : String}
    (yields : yieldsTo operator (bindingStrength operator') = true) :
    leastLeft operator ≤ 2 + bindingStrength operator' := by
  have bound := bindingStrength_le operator'
  unfold yieldsTo at yields
  unfold leastLeft
  split at yields
  · rename_i isPower
    rw [beq_iff_eq.mp isPower, decide_eq_true_eq] at yields
    have power : bindingStrength "**" = 12 := rfl
    omega
  · rename_i other
    rw [decide_eq_true_eq] at yields
    rw [if_neg other]
    omega

/-- An operation can stand after an operator that it does not complete. -/
theorem leastRight_of_yieldsTo {operator operator' : String}
    (rests : yieldsTo operator (bindingStrength operator') = false) :
    leastRight operator' ≤ 2 + bindingStrength operator := by
  unfold yieldsTo at rests
  split at rests
  · rename_i isPower
    rw [beq_iff_eq.mp isPower]
    exact leastRight_le operator'
  · rename_i other
    have low := bindingStrength_lt (mt beq_iff_eq.mpr other)
    rw [decide_eq_false_iff_not] at rests
    unfold leastRight
    split
    · rename_i isPower'
      rw [beq_iff_eq.mp isPower'] at rests
      have power : bindingStrength "**" = 12 := rfl
      omega
    · omega

/-! Pending operations -/

namespace Tree

/-- What a chain of operations can stand before: an operand, or a type after a word. -/
def IsSettled (tree : Tree) : Prop :=
  15 ≤ tree.strength ∨ tree.isCast = true

end Tree

/-- Pending operations that wait for a right operand with the given strength. The innermost comes
first, and each is the right operand of the one after it. -/
def Stacked (holds : Tree → Prop) : List (Tree × String) → Nat → Prop
  | [], _ => True
  | (left, operator) :: pending, strength =>
    (holds left ∧ 1 ≤ bindingStrength operator ∧
        (left.isCast = true ∨ leastLeft operator ≤ left.strength)) ∧
      leastRight operator ≤ strength ∧ Stacked holds pending (2 + bindingStrength operator)

/-- Whether the innermost pending operation is one that is not completed. -/
def Rests (binds : Nat → Bool) (pending : List (Tree × String)) : Prop :=
  ∀ left operator, pending.head? = some (left, operator) →
    binds (bindingStrength operator) = false

/-- What stands where `right` stood once the operations are completed. -/
def Completes (binds : Nat → Bool) (right tree : Tree) : Prop :=
  tree = right ∨ ∃ operator, tree.form = .binary operator ∧
    binds (bindingStrength operator) = true ∧ 1 ≤ bindingStrength operator

section Chains

variable {holds isType : Tree → Prop} {pending pending' : List (Tree × String)}

theorem Stacked.congr {strength strength' : Nat} (stacked : Stacked holds pending strength)
    (allows : ∀ left operator, pending.head? = some (left, operator) →
      leastRight operator ≤ strength') : Stacked holds pending strength' := by
  cases pending with
  | nil => trivial
  | cons first pending => exact ⟨stacked.1, allows _ _ rfl, stacked.2.2⟩

/-- Whether operations keep what holds of their operands. -/
structure Combines (holds isType : Tree → Prop) : Prop where
  binary : ∀ ⦃operator left right⦄, holds left → holds right →
    (Tree.node (.binary operator) [left, right]).Binds →
    holds (.node (.binary operator) [left, right])
  cast : ∀ ⦃operator left type⦄, holds left → isType type →
    (Tree.node (.cast operator) [left, type]).Binds → holds (.node (.cast operator) [left, type])

theorem binaryNode?_eq_some {operator : String} {left right tree : Tree}
    (found : binaryNode? operator left right = some tree) :
    isMisused operator left right = false ∧ tree = .node (.binary operator) [left, right] := by
  unfold binaryNode? at found
  split at found
  · cases found
  · rename_i used
    exact ⟨Bool.not_eq_true _ ▸ used, (Option.some.inj found).symm⟩

theorem complete?_spec (combines : Combines holds isType) {binds : Nat → Bool} {right tree : Tree}
    (stacked : Stacked holds pending right.strength) (holdsRight : holds right)
    (completed : complete? binds pending right = some (pending', tree)) :
    Stacked holds pending' tree.strength ∧ holds tree ∧ Rests binds pending' ∧
      Completes binds right tree := by
  induction pending generalizing right with
  | nil =>
    cases completed
    exact ⟨trivial, holdsRight, nofun, .inl rfl⟩
  | cons first pending ih =>
    obtain ⟨left, operator⟩ := first
    obtain ⟨⟨holdsLeft, known, allowed⟩, allowedRight, stackedRest⟩ := stacked
    unfold complete? at completed
    split at completed
    · rename_i isBound
      obtain ⟨operation, isNode, completed⟩ := Option.bind_eq_some_iff.mp completed
      obtain ⟨used, rfl⟩ := binaryNode?_eq_some isNode
      have holdsNode := combines.binary holdsLeft holdsRight ⟨allowed, allowedRight, used⟩
      have stackedNode : Stacked holds pending
          (Tree.node (.binary operator) [left, right]).strength := stackedRest
      obtain ⟨stacked, holdsTree, rests, completes⟩ := ih stackedNode holdsNode completed
      refine ⟨stacked, holdsTree, rests, ?_⟩
      cases completes with
      | inl same => exact .inr ⟨operator, by rw [same]; rfl, isBound, known⟩
      | inr isBinary => exact .inr isBinary
    · rename_i isLoose
      cases completed
      refine ⟨⟨⟨holdsLeft, known, allowed⟩, allowedRight, stackedRest⟩, holdsRight, ?_, .inl rfl⟩
      intro left' operator' isFirst
      cases isFirst
      exact Bool.not_eq_true _ ▸ isLoose

/-- What an operator leaves pending can be pending before the operation. -/
theorem Rests.allows {operator : String} (rests : Rests (yieldsTo operator) pending) :
    ∀ left operator', pending.head? = some (left, operator') →
      leastRight operator' ≤ 2 + bindingStrength operator :=
  fun _ _ isFirst => leastRight_of_yieldsTo (rests _ _ isFirst)

theorem Completes.allows {operator : String} {right left : Tree} (settled : right.IsSettled)
    (completes : Completes (yieldsTo operator) right left) :
    left.isCast = true ∨ leastLeft operator ≤ left.strength := by
  rcases completes with same | ⟨operator', isBinary, isBound, _⟩
  · rw [same]
    exact settled.symm.imp_right (Nat.le_trans (leastLeft_le operator))
  · rw [Tree.strength, isBinary]
    exact .inr (leastLeft_of_yieldsTo isBound)

/-- What an operand or an operation is at least, once all is completed that binds tightly enough. -/
theorem Completes.le_strength {binds : Nat → Bool} {least : Nat}
    (enough : ∀ strength, binds strength = true → 1 ≤ strength → least ≤ 2 + strength)
    (low : least ≤ 2 + bindingStrength "in") {right tree : Tree} (settled : right.IsSettled)
    (completes : Completes binds right tree) : least ≤ tree.strength := by
  have bound : bindingStrength "in" = 8 := rfl
  rcases completes with same | ⟨operator, isBinary, isBound, known⟩
  · rw [same]
    rcases settled with tight | isCast
    · omega
    · rw [Tree.strength_of_isCast isCast]
      exact low
  · rw [Tree.strength, isBinary]
    exact enough _ isBound known

/-- An operation with a known operator and an operand. -/
def Operation.Suits (holds isType : Tree → Prop) : Operation → Prop
  | .binary operator operand =>
    1 ≤ bindingStrength operator ∧ 15 ≤ operand.strength ∧ holds operand
  | .cast _ type => isType type

theorem combineFrom?_spec (combines : Combines holds isType) {operations : List Operation}
    (suits : ∀ operation ∈ operations, operation.Suits holds isType) {last tree : Tree}
    (stacked : Stacked holds pending last.strength) (settled : last.IsSettled)
    (holdsLast : holds last) (combined : combineFrom? pending last operations = some tree) :
    holds tree ∧ 3 ≤ tree.strength := by
  induction operations generalizing pending last with
  | nil =>
    obtain ⟨⟨pending', tree'⟩, completed, same⟩ := Option.map_eq_some_iff.mp combined
    cases same
    obtain ⟨_, holdsTree, _, completes⟩ := complete?_spec combines stacked holdsLast completed
    refine ⟨holdsTree, completes.le_strength (fun _ _ known => ?_) (by decide) settled⟩
    omega
  | cons operation operations ih =>
    obtain ⟨suitsFirst, suitsRest⟩ := List.forall_mem_cons.mp suits
    cases operation with
    | binary operator operand =>
      obtain ⟨known, tight, holdsOperand⟩ := suitsFirst
      obtain ⟨⟨pending', left⟩, completed, combined⟩ := Option.bind_eq_some_iff.mp combined
      obtain ⟨stacked, holdsLeft, rests, completes⟩ :=
        complete?_spec combines stacked holdsLast completed
      refine ih suitsRest ?_ (.inl tight) holdsOperand combined
      have low : leastRight operator ≤ 15 := Nat.le_succ_of_le (leastRight_le operator)
      exact ⟨⟨holdsLeft, known, completes.allows settled⟩, Nat.le_trans low tight,
        stacked.congr rests.allows⟩
    | cast operator type =>
      obtain ⟨⟨pending', left⟩, completed, combined⟩ := Option.bind_eq_some_iff.mp combined
      obtain ⟨stacked, holdsLeft, rests, completes⟩ :=
        complete?_spec combines stacked holdsLast completed
      have tight : 2 + bindingStrength "in" ≤ left.strength := by
        refine completes.le_strength (fun strength isBound _ => ?_) (Nat.le_refl _) settled
        exact Nat.add_le_add_left (of_decide_eq_true isBound) 2
      have stackedNode : Stacked holds pending'
          (Tree.node (.cast operator) [left, type]).strength := stacked.congr rests.allows
      exact ih suitsRest stackedNode (.inr rfl) (combines.cast holdsLeft suitsFirst tight) combined

/-- Operands and the operations between them make an expression that keeps what holds of them. -/
theorem combine?_spec (combines : Combines holds isType) {first tree : Tree}
    (tight : 15 ≤ first.strength) (holdsFirst : holds first) {operations : List Operation}
    (suits : ∀ operation ∈ operations, operation.Suits holds isType)
    (combined : combine? first operations = some tree) : holds tree ∧ 3 ≤ tree.strength := by
  have empty : Stacked holds [] first.strength := trivial
  exact combineFrom?_spec combines suits empty (.inl tight) holdsFirst combined

end Chains

end CssInline.Code
