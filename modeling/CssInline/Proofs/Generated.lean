import CssInline.Proofs.Trace
import CssInline.Proofs.Untouched

/-! Generated code among the parts of a node. A node is compared with the sites when its parts are
done, so what was put in the place of a part can complete it. Only a callee, a first argument and a
tag take part in the comparison. -/

namespace CssInline

open Code

/-! Nodes and the parts that matter -/

theorem Site.isSome_of?_iff {config : Config} {tree : Tree} :
    (of? config tree).isSome = true ↔ config.IsSite tree := by
  cases found : of? config tree with
  | none => simpa using of?_eq_none_iff.mp found
  | some site =>
    refine ⟨fun _ => ?_, fun _ => rfl⟩
    apply Classical.not_not.mp
    intro noSite
    rw [of?_eq_none_iff.mpr noSite] at found
    cases found

def Code.Tree.isName (id : String) : Tree → Bool
  | .node (.name other) _ => other == id
  | _ => false

theorem Code.Tree.isName_iff {id : String} {tree : Tree} :
    tree.isName id = true ↔ tree.form = .name id := by
  obtain ⟨form, parts⟩ := tree
  unfold isName
  split
  · rename_i same
    cases same
    simp
  · rename_i other
    simp only [form_node, Bool.false_eq_true, false_iff]
    rintro rfl
    exact other id parts rfl

namespace Config

variable (config : Config)

instance (tree : Tree) : Decidable (config.IsSite tree) :=
  decidable_of_iff _ Site.isSome_of?_iff

/-- A string with the path of a style module. -/
def isPath : Tree → Bool
  | .node (.string path _) _ => config.manages path
  | _ => false

/-- Whether something can be put in the place of the node: it is a site, or generated code can
complete it to one. -/
def isReplaceable : Tree → Bool
  | .node (.importItem clause) _ => (Site.ofImport? config clause).isSome
  | .node (.call .none) (callee :: _ :: first :: _) =>
    (callee.isName "require" || isReplaceable callee) &&
      (config.isPath first || isReplaceable first)
  | .node (.tagged _ _) (tag :: _ :: _) => tag.isName config.tag || isReplaceable tag
  | _ => false

/-- No site is the callee, the first argument or the tag of the node. -/
def standsApart : Tree → Bool
  | .node (.call .none) (callee :: _ :: first :: _) =>
    !decide (config.IsSite callee) && !decide (config.IsSite first)
  | .node (.tagged _ _) (tag :: _ :: _) => !decide (config.IsSite tag)
  | _ => true

variable {config}

theorem isPath_iff {tree : Tree} :
    config.isPath tree = true ↔
      ∃ path raw, tree.form = .string path raw ∧ config.manages path = true := by
  obtain ⟨form, parts⟩ := tree
  unfold isPath
  split
  · rename_i same
    cases same
    simp
  · rename_i other
    simp only [Bool.false_eq_true, Tree.form_node, false_iff, not_exists, not_and]
    rintro path raw rfl
    exact absurd rfl (other path raw parts)

/-- Away from other sites only a site can be replaced. -/
theorem isSite_of_isReplaceable (tree : Tree)
    (apart : ∀ node ∈ tree.nodes, config.standsApart node = true)
    (replaceable : config.isReplaceable tree = true) : config.IsSite tree := by
  induction tree using Tree.inductionOn with
  | node form parts ih =>
    have inside {part : Tree} (member : part ∈ parts) (noSite : ¬ config.IsSite part) :
        config.isReplaceable part = false := by
      refine Bool.eq_false_iff.mpr fun replaceablePart => noSite (ih part member ?_ replaceablePart)
      intro node deeper
      exact apart node (Tree.mem_nodes.mpr (.inl ⟨part, member, deeper⟩))
    have self := apart _ (Tree.mem_nodes.mpr (.inr rfl))
    unfold isReplaceable at replaceable
    split at replaceable
    · rename_i whole
      cases whole
      exact Site.isSome_of?_iff.mp replaceable
    · rename_i callee types first others whole
      cases whole
      simp only [standsApart, Bool.and_eq_true, Bool.not_eq_true', decide_eq_false_iff_not] at self
      obtain ⟨noCallee, noFirst⟩ := self
      rw [inside (by simp) noCallee, inside (by simp) noFirst, Bool.or_false, Bool.or_false,
        Bool.and_eq_true, Tree.isName_iff, isPath_iff] at replaceable
      obtain ⟨named, path, raw, literal, managed⟩ := replaceable
      obtain ⟨calleeForm, inName⟩ := callee
      obtain ⟨firstForm, inPath⟩ := first
      cases named
      cases literal
      exact .require managed
    · rename_i line quasis tag types holes whole
      cases whole
      simp only [standsApart, Bool.not_eq_true', decide_eq_false_iff_not] at self
      rw [inside (by simp) self, Bool.or_false, Tree.isName_iff] at replaceable
      obtain ⟨tagForm, inTag⟩ := tag
      cases replaceable
      exact .template
    · cases replaceable

end Config

/-! Nodes whose parts are done -/

/-- The site with its interpolations done. -/
def Site.finish (context : Context) : Site → Site
  | .template styles holes => .template styles (holes.map context.finished)
  | site => site

namespace Context

variable {context : Context}

/-- What is no site when its parts are done keeps its form. -/
theorem form_finished {tree : Tree} (noSite : context.siteAt? tree = none) :
    (context.finished tree).form = tree.form := by
  obtain ⟨form, parts⟩ := tree
  rw [finished, treePass_node]
  cases failed : (context.treesPass parts).failure? with
  | some failure =>
    rw [Pass.andThen_of_some failed]
    rfl
  | none =>
    rw [Pass.andThen_of_none failed, treesPass_of_goes (goes_of_treesPass failed)]
    dsimp only
    rw [sitePass_of_none context noSite]
    rfl

theorem exists_finished {form : Form} {parts : List Tree}
    (noSite : context.siteAt? (.node form parts) = none) :
    ∃ parts', context.finished (.node form parts) = .node form parts' := by
  cases done : context.finished (.node form parts) with
  | node form' parts' =>
    have kept := form_finished noSite
    rw [done] at kept
    cases kept
    exact ⟨parts', rfl⟩

/-- A site stays one when its parts are done, with the same request. -/
theorem siteAt?_of_isSite {tree : Tree} (isSite : context.config.IsSite tree) :
    context.siteAt? tree = (Site.of? context.config tree).map (Site.finish context) := by
  cases isSite with
  | importOf loads names managed =>
    simp [siteAt?, Site.of?, Site.ofImport?, loads, names, managed, Site.finish]
  | @require path raw inName inPath others types managed =>
    obtain ⟨inName', callee⟩ : ∃ parts', context.finished (.node (.name "require") inName) =
      .node (.name "require") parts' := exists_finished rfl
    obtain ⟨inPath', first⟩ : ∃ parts', context.finished (.node (.string path raw) inPath) =
      .node (.string path raw) parts' := exists_finished rfl
    simp [siteAt?, callee, first, Site.of?, Site.ofRequire?, managed, Site.finish]
  | @template line quasis inTag holes types =>
    obtain ⟨inTag', tag⟩ : ∃ parts', context.finished (.node (.name context.config.tag) inTag) =
      .node (.name context.config.tag) parts' := exists_finished rfl
    simp [siteAt?, tag, Site.of?, Site.ofTagged?, Site.finish]

/-- What turns out to be a site is one or was completed. -/
theorem isReplaceable_of_siteAt? (tree : Tree) (isSite : (context.siteAt? tree).isSome = true) :
    context.config.isReplaceable tree = true := by
  induction tree using Tree.inductionOn with
  | node form parts ih =>
    -- A part either keeps its form or is replaced, and then it is replaceable.
    have formOf (part : Tree) (member : part ∈ parts) :
        (context.finished part).form = part.form ∨ context.config.isReplaceable part = true := by
      cases missing : context.siteAt? part with
      | none => exact .inl (form_finished missing)
      | some site => exact .inr (ih part member (by rw [missing]; rfl))
    obtain ⟨done, isDone⟩ : ∃ done, parts.map context.finished = done := ⟨_, rfl⟩
    rw [siteAt?, isDone, Site.isSome_of?_iff] at isSite
    cases isSite with
    | importOf loads names managed =>
      simp [Config.isReplaceable, Site.ofImport?, loads, names, managed]
    | @require path raw inName inPath others types managed =>
      obtain ⟨callee, rest, rfl, isCallee, more⟩ := List.map_eq_cons_iff.mp isDone
      obtain ⟨_, rest, rfl, _, more⟩ := List.map_eq_cons_iff.mp more
      obtain ⟨first, _, rfl, isFirst, _⟩ := List.map_eq_cons_iff.mp more
      have atCallee : callee.isName "require" = true ∨
          context.config.isReplaceable callee = true := by
        have kept := formOf callee (by simp)
        rw [isCallee] at kept
        exact kept.imp_left fun same => Tree.isName_iff.mpr same.symm
      have atFirst : context.config.isPath first = true ∨
          context.config.isReplaceable first = true := by
        have kept := formOf first (by simp)
        rw [isFirst] at kept
        exact kept.imp_left fun same => Config.isPath_iff.mpr ⟨path, raw, same.symm, managed⟩
      simp only [Config.isReplaceable, Bool.and_eq_true, Bool.or_eq_true]
      exact ⟨atCallee, atFirst⟩
    | template =>
      obtain ⟨tag, rest, rfl, isTag, more⟩ := List.map_eq_cons_iff.mp isDone
      obtain ⟨_, _, rfl, _, _⟩ := List.map_eq_cons_iff.mp more
      have kept := formOf tag (by simp)
      rw [isTag] at kept
      simp only [Config.isReplaceable, Bool.or_eq_true]
      exact kept.imp_left fun same => Tree.isName_iff.mpr same.symm

end Context

end CssInline
