import CssInline.Proofs.Grammar.Module

/-! The code of a whole file stands in the text of the file. -/

namespace CssInline.Code

open Placed

namespace Grammar

theorem keeps_produce {rules : Rules} [Keeping rules] (start : Cursor) (goal : Goal)
    (within : Within) : Keeps start (produce rules goal within) := by
  cases goal <;> simp [produce]

instance keeping_rulesOf (depth : Nat) : Keeping (rulesOf depth) := by
  induction depth with
  | zero => exact ⟨fun _ _ _ => keeps_fail⟩
  | succ depth ih => exact ⟨keeps_produce⟩

end Grammar

theorem readItems_placed {dialect : Dialect} {isModule : Bool} {text : List Char}
    {items : List Tree} (read : readItems dialect isModule text = some items) :
    isPlaced (Cursor.start text) items := by
  obtain ⟨found, _⟩ := Option.filter_eq_some_iff.mp read
  obtain ⟨⟨_, after⟩, whole, same⟩ := Option.map_eq_some_iff.mp found
  cases same
  refine Keeps.bind (keeps_plain _) (fun _ _ => ?_) (Cursor.Reaches.refl _) whole
  refine Grammar.keeps_items (fun within => ?_) _ _
  split
  · exact Grammar.keeps_moduleItem
  · exact Grammar.keeps_item

theorem readFile_placed {dialect : Dialect} {text : List Char} {items : List Tree}
    (read : readFile dialect text = some items) : isPlaced (Cursor.start text) items := by
  unfold readFile at read
  dsimp only at read
  split at read
  · rename_i asModule
    cases read
    exact readItems_placed (Option.filter_eq_some_iff.mp asModule).1
  · cases Option.or_eq_some_iff.mp read with
    | inl asScript => exact readItems_placed asScript
    | inr asModule => exact readItems_placed asModule.2

theorem splitShebang_reaches (text : List Char) :
    (Cursor.start text).Reaches (Cursor.start (splitShebang text).2) := by
  unfold splitShebang
  split
  · rename_i rest
    refine ⟨'#' :: '!' :: rest.takeWhile fun c => !isLineBreak c, ?_, ?_⟩
    · simp [Cursor.start]
    · have none : lineFeeds (rest.takeWhile fun c => !isLineBreak c) = 0 :=
        lineFeeds_eq_zero fun c member => by
          simpa using List.all_eq_true.mp List.all_takeWhile c member
      simpa [Cursor.start, lineFeeds] using none
  · exact Cursor.Reaches.refl _

/-- Every node of a file stands in the text of the file, and none takes parentheses that are not
there. -/
theorem Program.placed_of_parse? {dialect : Dialect} {text : String} {program : Program}
    (parsed : Program.parse? dialect text = some program) :
    isPlaced (Cursor.start text.toList) program.items := by
  obtain ⟨items, read, same⟩ := Option.map_eq_some_iff.mp parsed
  cases same
  intro tree member
  exact Tree.IsPlaced.mono (splitShebang_reaches text.toList) (readFile_placed read tree member)

theorem Program.fits_of_parse? {dialect : Dialect} {text : String} {program : Program}
    (parsed : Program.parse? dialect text = some program) {node : Tree}
    (inside : node ∈ Tree.nodesOf program.items) : node.Fits (Cursor.start text.toList) := by
  obtain ⟨tree, member, inside⟩ := Tree.mem_nodesOf.mp inside
  exact (placed_of_parse? parsed tree member node inside).1

end CssInline.Code
