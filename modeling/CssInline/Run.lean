import CssInline.Event

/-! Computations that leave events behind and may fail. The events up to a failure are kept. -/

namespace CssInline

structure Run (α : Type) where
  events : List Event
  outcome : Except Failure α

namespace Run

def ok (value : α) : Run α := ⟨[], .ok value⟩

def fail (failure : Failure) : Run α := ⟨[], .error failure⟩

def emit (event : Event) : Run Unit := ⟨[event], .ok ()⟩

/-- After a failure `next` does not run. -/
def andThen (run : Run α) (next : α → Run β) : Run β :=
  match run.outcome with
  | .ok value => ⟨run.events ++ (next value).events, (next value).outcome⟩
  | .error failure => ⟨run.events, .error failure⟩

instance : Monad Run where
  pure := ok
  bind := andThen

@[simp] theorem events_pure (value : α) : (pure value : Run α).events = [] := rfl

@[simp] theorem outcome_pure (value : α) : (pure value : Run α).outcome = .ok value := rfl

@[simp] theorem events_fail (failure : Failure) : (fail failure : Run α).events = [] := rfl

@[simp] theorem outcome_fail (failure : Failure) :
    (fail failure : Run α).outcome = .error failure := rfl

@[simp] theorem events_emit (event : Event) : (emit event).events = [event] := rfl

@[simp] theorem outcome_emit (event : Event) : (emit event).outcome = .ok () := rfl

theorem bind_of_ok {run : Run α} (next : α → Run β) (outcome : run.outcome = .ok value) :
    run >>= next = ⟨run.events ++ (next value).events, (next value).outcome⟩ := by
  change andThen run next = _
  simp only [andThen, outcome]

theorem bind_of_error {run : Run α} {failure : Failure} (next : α → Run β)
    (outcome : run.outcome = .error failure) :
    run >>= next = ⟨run.events, .error failure⟩ := by
  change andThen run next = _
  simp only [andThen, outcome]

theorem bind_pure (run : Run α) : run >>= pure = run := by
  cases run with
  | mk events outcome =>
    cases outcome with
    | ok value =>
      rw [bind_of_ok pure rfl, events_pure, List.append_nil]
      rfl
    | error failure => rw [bind_of_error pure rfl]

end Run

end CssInline
