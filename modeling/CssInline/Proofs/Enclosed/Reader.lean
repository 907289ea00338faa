import CssInline.Proofs.Enclosed.Cursor

/-! Readers that read the same of a text and of the text in parentheses, unless they go beyond the
text. -/

namespace CssInline.Code

namespace Reader

/-! What readers take -/

/-- Where `reader` gives a value like this, it moves on. -/
def TakesIf (holds : α → Prop) (reader : Reader α) : Prop :=
  ∀ ⦃cursor value after⦄, reader cursor = some (value, after) → holds value →
    after.rest.length < cursor.rest.length

abbrev Takes (reader : Reader α) : Prop :=
  reader.TakesIf fun _ => True

theorem length_le {reader : Reader α} {cursor after : Cursor} {value : α}
    (read : reader cursor = some (value, after)) : after.rest.length ≤ cursor.rest.length :=
  (reader.reaches read).suffix.length_le

/-- At the end there is nothing to take. -/
theorem Takes.ended {reader : Reader α} (takes : reader.Takes) {cursor : Cursor}
    (ended : cursor.rest = []) : reader cursor = none := by
  cases read : reader cursor with
  | none => rfl
  | some found =>
    have shorter := takes read trivial
    rw [ended] at shorter
    cases shorter

section Taking

variable {holds : α → Prop} {taken : β → Prop} {reader : Reader β} {next : β → Reader α}

theorem TakesIf.first (takes : reader.Takes) : (reader >>= next).TakesIf holds := by
  intro cursor value after read _
  obtain ⟨first, middle, isFirst, read⟩ := bind_eq_some.mp read
  exact Nat.lt_of_le_of_lt (length_le read) (takes isFirst trivial)

theorem TakesIf.firstIf (takes : reader.TakesIf taken)
    (other : ∀ value, ¬ taken value → (next value).TakesIf holds) :
    (reader >>= next).TakesIf holds := by
  intro cursor value after read held
  obtain ⟨first, middle, isFirst, read⟩ := bind_eq_some.mp read
  by_cases took : taken first
  · exact Nat.lt_of_le_of_lt (length_le read) (takes isFirst took)
  · exact Nat.lt_of_lt_of_le (other first took read held) (length_le isFirst)

theorem TakesIf.later (takes : ∀ value, (next value).TakesIf holds) :
    (reader >>= next).TakesIf holds := by
  intro cursor value after read held
  obtain ⟨first, middle, isFirst, read⟩ := bind_eq_some.mp read
  exact Nat.lt_of_lt_of_le (takes first read held) (length_le isFirst)

@[simp] theorem takesIf_pure {value : α} (other : ¬ holds value) :
    (pure value : Reader α).TakesIf holds := by
  intro cursor value' after read held
  cases read
  exact absurd held other

@[simp] theorem takesIf_fail : (fail : Reader α).TakesIf holds :=
  nofun

theorem takesIf_attempt (takes : reader.Takes) :
    (attempt reader).TakesIf fun value? => value?.isSome := by
  intro cursor value? after read isSome
  rcases attempt_eq_some read with ⟨rfl, rfl⟩ | ⟨value, rfl, inside⟩
  · cases isSome
  · exact takes inside trivial

theorem takesIf_onlyIf {reader : Reader Bool} (takes : reader.TakesIf (· = true))
    (condition : Bool) : (onlyIf condition reader).TakesIf (· = true) := by
  cases condition with
  | true => exact takes
  | false => exact takesIf_pure Bool.noConfusion

end Taking

/-! Agreement -/

/-- What is read of a text and of the text in parentheses: the same, unless the second reader goes
beyond the text. It does so only past the closing parenthesis, to the very end. -/
inductive Meets (mayClose : Prop) : Option (α × Cursor) → Option (α × Cursor) → Prop
  | read (value : α) (cursor : Cursor) :
    Meets mayClose (some (value, cursor)) (some (value, cursor.enclosed))
  | failed : Meets mayClose none none
  | closed {value : α} {cursor : Cursor} (may : mayClose) (ended : cursor.rest = []) :
    Meets mayClose none (some (value, cursor))

/-- The readers read the same of a text and of the text in parentheses, from each place before
which `reserve` of the `limit` is left. -/
def Agree (limit : Nat) (mayClose : Prop) (reserve : Nat) (reader reader' : Reader α) : Prop :=
  ∀ cursor : Cursor, 16 * cursor.rest.length + reserve ≤ limit →
    Meets mayClose (reader cursor) (reader' cursor.enclosed)

section Combinators

variable {limit reserve : Nat} {mayClose : Prop}

theorem Meets.bind {reader reader' : Reader α} {next next' : α → Reader β}
    {cursor cursor' : Cursor} (first : Meets mayClose (reader cursor) (reader' cursor'))
    (second : ∀ value after, reader cursor = some (value, after) →
      Meets mayClose (next value after) (next' value after.enclosed)) :
    Meets mayClose ((reader >>= next) cursor) ((reader' >>= next') cursor') := by
  rw [bind_apply, bind_apply]
  generalize reader cursor = read, reader' cursor' = read' at first second
  cases first with
  | read value after => exact second value after rfl
  | failed => exact .failed
  | @closed value after may ended =>
    change Meets mayClose none (next' value after)
    cases found : next' value after with
    | none => exact .failed
    | some result =>
      have shorter := length_le found
      rw [ended, List.length_nil, Nat.le_zero, List.length_eq_zero_iff] at shorter
      exact .closed may shorter

theorem Agree.bind {reader reader' : Reader α} {next next' : α → Reader β}
    (first : Agree limit mayClose reserve reader reader')
    (second : ∀ value, Agree limit mayClose reserve (next value) (next' value)) :
    Agree limit mayClose reserve (reader >>= next) (reader' >>= next') := fun cursor enough =>
  (first cursor enough).bind fun value after read =>
    second value after (by have := length_le read; omega)

theorem Meets.map {read read' : Option (α × Cursor)} (meets : Meets mayClose read read')
    (f : α → β) : Meets mayClose (read.map fun (value, after) => (f value, after))
      (read'.map fun (value, after) => (f value, after)) := by
  cases meets with
  | read value cursor => exact .read (f value) cursor
  | failed => exact .failed
  | closed may ended => exact .closed may ended

theorem Agree.mono {reader reader' : Reader α} {reserve' : Nat}
    (agree : Agree limit mayClose reserve reader reader') (more : reserve ≤ reserve') :
    Agree limit mayClose reserve' reader reader' := fun cursor enough =>
  agree cursor (by omega)

/-- After something is taken there is enough of the limit left for every rule. -/
theorem Agree.after {reader reader' : Reader α} {next next' : α → Reader β} (takes : reader.Takes)
    (first : Agree limit mayClose reserve reader reader')
    (second : ∀ value, Agree limit mayClose 16 (next value) (next' value)) :
    Agree limit mayClose reserve (reader >>= next) (reader' >>= next') := fun cursor enough =>
  (first cursor enough).bind fun value after read =>
    second value after (by have := takes read trivial; omega)

theorem Agree.afterIf {holds : α → Prop} {reader reader' : Reader α} {next next' : α → Reader β}
    (takes : reader.TakesIf holds) (first : Agree limit mayClose reserve reader reader')
    (taken : ∀ value, holds value → Agree limit mayClose 16 (next value) (next' value))
    (other : ∀ value, ¬ holds value → Agree limit mayClose reserve (next value) (next' value)) :
    Agree limit mayClose reserve (reader >>= next) (reader' >>= next') := fun cursor enough =>
  (first cursor enough).bind fun value after read => by
    by_cases held : holds value
    · exact taken value held after (by have := takes read held; omega)
    · exact other value held after (by have := length_le read; omega)

/-- What must take something does not follow beyond the text. -/
theorem Agree.exactly {reader reader' : Reader α} {next next' : α → Reader β}
    (first : Agree limit True reserve reader reader')
    (second : ∀ value, Agree limit mayClose reserve (next value) (next' value))
    (fails : ∀ value {cursor : Cursor}, cursor.rest = [] → next' value cursor = none) :
    Agree limit mayClose reserve (reader >>= next) (reader' >>= next') := fun cursor enough => by
  have meets := first cursor enough
  rw [bind_apply, bind_apply]
  cases read : reader cursor with
  | none =>
    rw [read] at meets
    cases read' : reader' cursor.enclosed with
    | none => exact .failed
    | some found =>
      rw [read'] at meets
      cases meets with
      | closed may ended =>
        change Meets mayClose none (next' _ _)
        rw [fails _ ended]
        exact .failed
  | some found =>
    obtain ⟨value, after⟩ := found
    rw [read] at meets
    have shorter := length_le read
    generalize reader' cursor.enclosed = read' at meets
    cases meets with
    | read => exact second value after (by omega)

@[simp] theorem agree_pure (value : α) : Agree limit mayClose reserve (pure value) (pure value) :=
  fun cursor _ => .read value cursor

@[simp] theorem agree_fail : Agree limit mayClose reserve (fail : Reader α) fail :=
  fun _ _ => .failed

@[simp] theorem agree_require (condition : Bool) :
    Agree limit mayClose reserve (require condition) (require condition) := by
  cases condition with
  | true => exact agree_pure ()
  | false => exact agree_fail

@[simp] theorem require_false_bind (next : Unit → Reader α) : (require false >>= next) = fail := rfl

@[simp] theorem agree_ofOption (value? : Option α) :
    Agree limit mayClose reserve (ofOption value?) (ofOption value?) := by
  cases value? with
  | some value => exact agree_pure value
  | none => exact agree_fail

@[simp] theorem Agree.map {reader reader' : Reader α} (f : α → β)
    (agree : Agree limit mayClose reserve reader reader') :
    Agree limit mayClose reserve (f <$> reader) (f <$> reader') := by
  rw [map_eq_pure_bind, map_eq_pure_bind]
  exact agree.bind fun value => agree_pure (f value)

@[simp] theorem onlyIf_false (reader : Reader Bool) : onlyIf false reader = pure false := rfl

@[simp] theorem afterBreak_bind (reader : Reader α) : (afterBreak >>= fun _ => reader) = reader :=
  rfl

@[simp] theorem attempt_fail : attempt (fail : Reader α) = pure none := rfl

@[simp] theorem Agree.onlyIf {reader reader' : Reader Bool} (condition : Bool)
    (agree : Agree limit mayClose reserve reader reader') :
    Agree limit mayClose reserve (onlyIf condition reader) (onlyIf condition reader') := by
  cases condition with
  | true => exact agree
  | false => exact agree_pure false

/-- Tried readers must not go beyond the text. -/
@[simp] theorem Agree.attempt {reader reader' : Reader α}
    (agree : Agree limit False reserve reader reader') :
    Agree limit mayClose reserve (attempt reader) (attempt reader') := fun cursor enough => by
  have meets := agree cursor enough
  generalize found : reader cursor = read, found' : reader' cursor.enclosed = read' at meets
  cases meets with
  | read value after =>
    rw [attempt_of_some found, attempt_of_some found']
    exact .read (some value) after
  | failed =>
    rw [attempt_of_none found, attempt_of_none found']
    exact .read none cursor
  | closed may => exact may.elim

@[simp] theorem Agree.ahead {reader reader' : Reader α}
    (agree : Agree limit False reserve reader reader') :
    Agree limit mayClose reserve (ahead reader) (ahead reader') := fun cursor enough => by
  have meets := agree cursor enough
  change Meets mayClose (some ((reader cursor).map Prod.fst, cursor))
    (some ((reader' cursor.enclosed).map Prod.fst, cursor.enclosed))
  generalize reader cursor = read, reader' cursor.enclosed = read' at meets
  cases meets with
  | read value after => exact .read (some value) cursor
  | failed => exact .read none cursor
  | closed may => exact may.elim

end Combinators

/-! Loops -/

section Loops

variable {limit reserve : Nat} {mayClose : Prop} {step step' : α → Reader (α ⊕ β)}

theorem meets_iterateFrom {holds : α → Prop}
    (agree : ∀ state, holds state → Agree limit mayClose reserve (step state) (step' state))
    (takes : ∀ state, holds state → (step state).TakesIf fun next => next.isLeft)
    (keeps : ∀ {state cursor next after}, holds state →
      step state cursor = some (.inl next, after) → holds next)
    {fuel fuel' : Nat} {cursor : Cursor} (enough : 16 * cursor.rest.length + reserve ≤ limit)
    (bound : cursor.rest.length < fuel) (bound' : cursor.rest.length < fuel') {state : α}
    (held : holds state) :
    Meets mayClose (iterateFrom step fuel state cursor)
      (iterateFrom step' fuel' state cursor.enclosed) := by
  induction fuel generalizing fuel' cursor state with
  | zero => cases bound
  | succ fuel ih =>
    obtain ⟨fuel', rfl⟩ := Nat.exists_eq_succ_of_ne_zero (Nat.ne_zero_of_lt bound')
    rw [iterateFrom, iterateFrom]
    refine (agree state held cursor enough).bind fun next after read => ?_
    cases next with
    | inl next =>
      have shorter := takes state held read rfl
      exact ih (by omega) (by omega) (by omega) (keeps held read)
    | inr result => exact .read result after

theorem Agree.iterateWhere (holds : α → Prop)
    (agree : ∀ state, holds state → Agree limit mayClose reserve (step state) (step' state))
    (takes : ∀ state, holds state → (step state).TakesIf fun next => next.isLeft)
    (keeps : ∀ {state cursor next after}, holds state →
      step state cursor = some (.inl next, after) → holds next) {state : α} (held : holds state) :
    Agree limit mayClose reserve (iterate step state) (iterate step' state) :=
  fun cursor enough => by
    change Meets mayClose (iterateFrom step (cursor.rest.length + 2) state cursor)
      (iterateFrom step' (cursor.enclosed.rest.length + 2) state cursor.enclosed)
    refine meets_iterateFrom agree takes keeps enough (Nat.lt_add_of_pos_right Nat.two_pos) ?_ held
    unfold Cursor.enclosed
    split
    · rename_i ended
      rw [ended]
      exact Nat.zero_lt_succ _
    · simp only [Cursor.extended, List.length_append]
      omega

/-- Only steps that move on are followed by others. -/
theorem Agree.iterate (agree : ∀ state, Agree limit mayClose reserve (step state) (step' state))
    (takes : ∀ state, (step state).TakesIf fun next => next.isLeft) (state : α) :
    Agree limit mayClose reserve (iterate step state) (iterate step' state) :=
  .iterateWhere (fun _ => True) (fun state _ => agree state) (fun state _ => takes state)
    (fun _ _ => trivial) trivial

end Loops

end Reader

end CssInline.Code
