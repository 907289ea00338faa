import CssInline.Inline

/-! A walk over code, taken apart. After a failure it changes nothing and does nothing, so what a
walk comes to is put together from what its steps come to. -/

namespace CssInline

open Code

variable {context : Context} {progress : Progress}

/-! Walks after a failure -/

/-- Nothing happens once a failure is recorded, and the result is the one that is given. -/
def Walk.Rests (walk : Walk α) (kept : α) : Prop :=
  ∀ ⦃progress : Progress⦄, progress.failure?.isSome → walk progress = (kept, progress)

theorem Walk.rests_pure (kept : α) : Walk.Rests (pure kept) kept :=
  fun _ _ => rfl

theorem Walk.rests_unlessHalted (kept : α) (walk : Walk α) :
    (Walk.unlessHalted kept walk).Rests kept := by
  intro progress failed
  change (if progress.failure?.isSome then pure kept else walk : Walk α) progress = _
  rw [if_pos failed]
  rfl

theorem Walk.Rests.bind {walk : Walk α} {next : α → Walk β} {kept : α} {keptNext : β}
    (first : walk.Rests kept) (second : (next kept).Rests keptNext) :
    Walk.Rests (walk >>= next) keptNext := by
  intro progress failed
  change next (walk progress).1 (walk progress).2 = _
  rw [first failed]
  exact second failed

/-! Walks before a failure -/

/-- What happened before does not matter to the walk, as long as nothing failed. -/
def Walk.Goes (walk : Walk α) : Prop :=
  ∀ events, walk ⟨events, none⟩ =
    (walk.pass.result, ⟨events ++ walk.pass.events, walk.pass.failure?⟩)

namespace Pass

def done (result : α) : Pass α := ⟨result, [], none⟩

/-- Goes on with `next`, or keeps what a stop leaves unchanged. -/
def andThen (pass : Pass α) (unchanged : α → β) (next : α → Pass β) : Pass β :=
  match pass.failure? with
  | none =>
    let after := next pass.result
    ⟨after.result, pass.events ++ after.events, after.failure?⟩
  | some failure => ⟨unchanged pass.result, pass.events, some failure⟩

@[simp] theorem andThen_done (result : α) (unchanged : α → β) (next : α → Pass β) :
    (done result).andThen unchanged next = next result := by
  simp [andThen, done]

theorem andThen_of_none {pass : Pass α} (goes : pass.failure? = none) (unchanged : α → β)
    (next : α → Pass β) :
    pass.andThen unchanged next =
      ⟨(next pass.result).result, pass.events ++ (next pass.result).events,
        (next pass.result).failure?⟩ := by
  simp only [andThen, goes]

theorem andThen_of_some {pass : Pass α} {failure : Failure} (stops : pass.failure? = some failure)
    (unchanged : α → β) (next : α → Pass β) :
    pass.andThen unchanged next = ⟨unchanged pass.result, pass.events, some failure⟩ := by
  simp only [andThen, stops]

/-- The result of `run`, or `kept` and a stop. -/
def ofRun (kept : α) (run : Run α) : Pass α :=
  match run.outcome with
  | .ok result => ⟨result, run.events, none⟩
  | .error failure => ⟨kept, run.events ++ [.stopped failure], some failure⟩

theorem ofRun_of_ok (kept : α) {run : Run α} {result : α} (outcome : run.outcome = .ok result) :
    ofRun kept run = ⟨result, run.events, none⟩ := by
  simp only [ofRun, outcome]

theorem ofRun_of_error (kept : α) {run : Run α} {failure : Failure}
    (outcome : run.outcome = .error failure) :
    ofRun kept run = ⟨kept, run.events ++ [.stopped failure], some failure⟩ := by
  simp only [ofRun, outcome]

/-- The record of a stop comes after everything else. -/
theorem events_ofRun (kept : α) (run : Run α) :
    (ofRun kept run).events =
      run.events ++ ((ofRun kept run).failure?.map Event.stopped).toList := by
  cases outcome : run.outcome with
  | ok result =>
    rw [ofRun_of_ok kept outcome]
    exact (List.append_nil _).symm
  | error failure =>
    rw [ofRun_of_error kept outcome]
    rfl

end Pass

namespace Walk

@[simp] theorem pass_unlessHalted (kept : α) (walk : Walk α) :
    (unlessHalted kept walk).pass = walk.pass := rfl

theorem goes_pure (result : α) : Goes (pure result) := by
  intro events
  change (result, (⟨events, none⟩ : Progress)) = (result, ⟨events ++ [], none⟩)
  rw [List.append_nil]

/-- A walk and what follows it, where what follows rests after a failure. -/
theorem pass_bind {walk : Walk α} {next : α → Walk β} (unchanged : α → β)
    (goesNext : ∀ result, (next result).Goes)
    (restsNext : ∀ result, (next result).Rests (unchanged result)) :
    (walk >>= next).pass = walk.pass.andThen unchanged fun result => (next result).pass := by
  have applied : (walk >>= next) .start =
      next walk.pass.result ⟨walk.pass.events, walk.pass.failure?⟩ := rfl
  cases failed : walk.pass.failure? with
  | none =>
    rw [failed, goesNext] at applied
    rw [Pass.andThen_of_none failed, pass, applied]
  | some failure =>
    rw [failed, restsNext _ (by rfl)] at applied
    rw [Pass.andThen_of_some failed, pass, applied]

theorem Goes.bind {walk : Walk α} {next : α → Walk β} (goes : walk.Goes) (unchanged : α → β)
    (goesNext : ∀ result, (next result).Goes)
    (restsNext : ∀ result, (next result).Rests (unchanged result)) : Goes (walk >>= next) := by
  intro events
  have applied : (walk >>= next) ⟨events, none⟩ =
      next walk.pass.result ⟨events ++ walk.pass.events, walk.pass.failure?⟩ := by
    change next (walk ⟨events, none⟩).1 (walk ⟨events, none⟩).2 = _
    rw [goes]
  rw [applied, pass_bind unchanged goesNext restsNext]
  cases failed : walk.pass.failure? with
  | none => rw [goesNext, Pass.andThen_of_none failed, List.append_assoc]
  | some failure => rw [restsNext _ (by rfl), Pass.andThen_of_some failed]

theorem Goes.unlessHalted {walk : Walk α} (goes : walk.Goes) (kept : α) :
    (unlessHalted kept walk).Goes :=
  goes

theorem pass_settle (run : Run α) (kept : α) :
    (do return (← settle run).getD kept : Walk α).pass = .ofRun kept run := by
  change (let (result?, after) := settle run .start;
    (⟨result?.getD kept, after.events, after.failure?⟩ : Pass α)) = _
  cases outcome : run.outcome with
  | ok result => simp [settle, outcome, Pass.ofRun_of_ok kept outcome, Progress.start]
  | error failure => simp [settle, outcome, Pass.ofRun_of_error kept outcome, Progress.start]

theorem goes_settle (run : Run α) (kept : α) :
    Goes (do return (← settle run).getD kept) := by
  intro events
  rw [pass_settle]
  change (let (result?, after) := settle run ⟨events, none⟩; (result?.getD kept, after)) = _
  cases outcome : run.outcome with
  | ok result => simp [settle, outcome, Pass.ofRun_of_ok kept outcome]
  | error failure => simp [settle, outcome, Pass.ofRun_of_error kept outcome]

end Walk

/-! The walk over trees -/

theorem Site.of?_template {config : Config} {tree : Tree} {template : Template} {holes : List Tree}
    (isSite : of? config tree = some (.template template holes)) :
    ∃ line quasis inTag types,
      tree = .node (.tagged line quasis) (.node (.name config.tag) inTag :: types :: holes) ∧
        template = ⟨quasis.map Quasi.text, line⟩ := by
  unfold of? at isSite
  split at isSite
  · unfold ofImport? at isSite
    split at isSite
    · cases isSite
    · obtain ⟨name, _, other⟩ := Option.map_eq_some_iff.mp isSite
      cases other
  · unfold ofRequire? at isSite
    split at isSite <;> cases isSite
  · unfold ofTagged? at isSite
    split at isSite
    · rename_i same
      cases isSite
      exact ⟨_, _, _, _, by rw [eq_of_beq same], rfl⟩
    · cases isSite
  · cases isSite

namespace Context

variable (context : Context)

/-- What becomes of a node whose parts are done. -/
def sitePass (tree : Tree) : Pass Tree :=
  match Site.of? context.config tree with
  | none => .done tree
  | some site => .ofRun tree (site.compile context)

theorem sitePass_of_none {tree : Tree} (missing : Site.of? context.config tree = none) :
    context.sitePass tree = .done tree := by
  simp only [sitePass, missing]

theorem sitePass_of_some {tree : Tree} {site : Site}
    (isSite : Site.of? context.config tree = some site) :
    context.sitePass tree = .ofRun tree (site.compile context) := by
  simp only [sitePass, isSite]

def treePass (tree : Tree) : Pass Tree :=
  (context.inlineTree tree).pass

def treesPass (trees : List Tree) : Pass (List Tree) :=
  (context.inlineTrees trees).pass

theorem rests_inlineTree (tree : Tree) : (context.inlineTree tree).Rests tree := by
  cases tree with
  | node form parts =>
    rw [inlineTree]
    exact Walk.rests_unlessHalted _ _

theorem rests_inlineTrees (trees : List Tree) : (context.inlineTrees trees).Rests trees := by
  induction trees with
  | nil => exact Walk.rests_pure []
  | cons tree trees ih =>
    exact (context.rests_inlineTree tree).bind (ih.bind (Walk.rests_pure (tree :: trees)))

theorem goes_inlineSite (tree : Tree) : (context.inlineSite tree).Goes := by
  unfold inlineSite
  split
  · exact Walk.goes_pure tree
  · exact Walk.goes_settle _ tree

theorem pass_inlineSite (tree : Tree) :
    (context.inlineSite tree).pass = context.sitePass tree := by
  unfold inlineSite sitePass
  cases Site.of? context.config tree with
  | none => rfl
  | some site => exact Walk.pass_settle (site.compile context) tree

mutual

theorem goes_inlineTree : (tree : Tree) → (context.inlineTree tree).Goes
  | .node form parts => by
    rw [inlineTree]
    exact ((goes_inlineTrees parts).bind (Code.Tree.node form)
      (fun parts => (context.goes_inlineSite (.node form parts)).unlessHalted _)
      fun parts => Walk.rests_unlessHalted (Code.Tree.node form parts) _).unlessHalted _

theorem goes_inlineTrees : (trees : List Tree) → (context.inlineTrees trees).Goes
  | [] => Walk.goes_pure []
  | tree :: trees =>
    (goes_inlineTree tree).bind (· :: trees)
      (fun tree => (goes_inlineTrees trees).bind (tree :: ·)
        (fun trees => Walk.goes_pure (tree :: trees))
        fun trees => Walk.rests_pure (tree :: trees))
      fun tree => (context.rests_inlineTrees trees).bind (Walk.rests_pure (tree :: trees))

end

/-- The parts are done first, and then the node as it has become. -/
theorem treePass_node (form : Form) (parts : List Tree) :
    context.treePass (.node form parts) =
      (context.treesPass parts).andThen (.node form) fun parts =>
        context.sitePass (.node form parts) := by
  rw [treePass, inlineTree, Walk.pass_unlessHalted, Walk.pass_bind (Code.Tree.node form)
    (fun parts => (context.goes_inlineSite (.node form parts)).unlessHalted _)
    fun parts => Walk.rests_unlessHalted (Code.Tree.node form parts) _]
  simp only [Walk.pass_unlessHalted, pass_inlineSite]
  rfl

@[simp] theorem treesPass_nil : context.treesPass [] = .done [] := rfl

theorem treesPass_cons (tree : Tree) (trees : List Tree) :
    context.treesPass (tree :: trees) =
      (context.treePass tree).andThen (· :: trees) fun tree =>
        (context.treesPass trees).andThen (tree :: ·) fun trees => .done (tree :: trees) := by
  rw [treesPass, inlineTrees, Walk.pass_bind (· :: trees)
    (fun tree => (context.goes_inlineTrees trees).bind (tree :: ·)
      (fun trees => Walk.goes_pure (tree :: trees)) fun trees => Walk.rests_pure (tree :: trees))
    fun tree => (context.rests_inlineTrees trees).bind (Walk.rests_pure (tree :: trees))]
  congr 1
  funext tree
  exact Walk.pass_bind (tree :: ·) (fun trees => Walk.goes_pure (tree :: trees))
    fun trees => Walk.rests_pure (tree :: trees)

theorem pass_inlineProgram (program : Program) :
    (context.inlineProgram program).pass =
      ⟨{ program with items := (context.treesPass program.items).result },
        (context.treesPass program.items).events, (context.treesPass program.items).failure?⟩ :=
  rfl

end Context

end CssInline
