import CssInline.Site

/-! What happens in runs. -/

namespace CssInline

open Code

def Event.isStop : Event → Bool
  | .stopped _ => true
  | _ => false

def Event.isRequest : Event → Bool
  | .fetched _ _ | .processed _ _ => true
  | _ => false

/-- The calls of the loader and the processor, in order. -/
def Event.requests (events : List Event) : List Event :=
  events.filter Event.isRequest

/-- Events that neither report nor call. -/
def Event.AreQuiet (events : List Event) : Prop :=
  Event.diagnostics events = [] ∧ Event.requests events = []

namespace Event

@[simp] theorem diagnostics_append (first second : List Event) :
    diagnostics (first ++ second) = diagnostics first ++ diagnostics second :=
  List.filterMap_append

@[simp] theorem requests_append (first second : List Event) :
    requests (first ++ second) = requests first ++ requests second := by
  simp only [requests, List.filter_append]

theorem areQuiet_nil : AreQuiet [] := ⟨rfl, rfl⟩

end Event

def Run.Emits (allowed : Event → Prop) (run : Run α) : Prop :=
  ∀ event ∈ run.events, allowed event

namespace Run

variable {allowed : Event → Prop}

theorem emits_pure (value : α) : Emits allowed (pure value) := by
  intro event member
  cases member

theorem emits_fail (failure : Failure) : Emits allowed (fail failure : Run α) := by
  intro event member
  cases member

theorem emits_emit {event : Event} (permitted : allowed event) : Emits allowed (emit event) := by
  intro other member
  cases List.mem_singleton.mp member
  exact permitted

theorem Emits.bind {run : Run α} {next : α → Run β} (emits : run.Emits allowed)
    (emitsNext : ∀ value, (next value).Emits allowed) : Emits allowed (run >>= next) := by
  cases outcome : run.outcome with
  | ok value =>
    rw [bind_of_ok next outcome]
    intro event member
    cases List.mem_append.mp member with
    | inl earlier => exact emits event earlier
    | inr later => exact emitsNext value event later
  | error failure =>
    rw [bind_of_error next outcome]
    exact emits

end Run

namespace Context

variable {allowed : Event → Prop}

theorem emits_process (filename : String) (processor : Processor) (styles : String)
    (permitted : allowed (.processed filename styles)) :
    (process filename processor styles).Emits allowed := by
  refine (Run.emits_emit permitted).bind fun _ => ?_
  split
  · exact Run.emits_pure _
  · exact Run.emits_fail _

theorem emits_fetch (context : Context) (path : String)
    (permitted : ∀ opened, allowed (.fetched path opened)) :
    (context.fetch path).Emits allowed := by
  refine (Run.emits_emit (permitted _)).bind fun _ => ?_
  split
  · exact Run.emits_pure _
  · exact Run.emits_fail _

theorem emits_tolerate (context : Context) (position : Option Position) (fallback : α)
    {run : Run α} (emits : run.Emits allowed)
    (permitted : ∀ diagnostic, allowed (.reported diagnostic)) :
    (context.tolerate position fallback run).Emits allowed := by
  unfold tolerate
  split
  · exact emits
  · split
    · exact emits
    · intro event member
      cases List.mem_append.mp member with
      | inl earlier => exact emits event earlier
      | inr report =>
        cases List.mem_singleton.mp report
        exact permitted _

end Context

namespace Site

theorem emits_expressionOf {allowed : Event → Prop} (source : String) :
    (expressionOf source).Emits allowed := by
  unfold expressionOf
  split
  · exact Run.emits_pure _
  · exact Run.emits_fail _

/-- The compilation of a site records no stop. Only the walk does. -/
theorem compile_records_no_stop (context : Context) (site : Site) :
    (site.compile context).Emits fun event => event.isStop = false := by
  have module (path : String) :
      (context.compileModule path).Emits fun event => event.isStop = false := by
    refine context.emits_tolerate _ _ ?_ fun _ => rfl
    exact Run.Emits.bind (context.emits_fetch path fun _ => by rfl) fun styles =>
      Context.emits_process _ _ styles (by rfl)
  cases site with
  | importOf clause name =>
    simp only [compile, compileImport]
    split
    · exact Run.Emits.bind (Run.emits_emit (by rfl)) fun _ =>
        Run.Emits.bind (Run.emits_emit (by rfl)) fun _ => (module clause.source).bind fun source =>
          (emits_expressionOf source).bind fun _ => Run.emits_pure _
    · exact Run.Emits.bind (Run.emits_emit (by rfl)) fun _ =>
        (module clause.source).bind fun source =>
          (emits_expressionOf source).bind fun _ => Run.emits_pure _
  | require path =>
    exact Run.Emits.bind (Run.emits_emit (by rfl)) fun _ => (module path).bind emits_expressionOf
  | template template holes =>
    refine Run.Emits.bind (context.emits_tolerate _ _ ?_ fun _ => rfl) fun compiled =>
      Run.Emits.bind (Run.emits_emit (by rfl)) fun _ => (emits_expressionOf _).bind fun _ =>
        Run.emits_pure _
    exact Run.Emits.bind (Context.emits_process _ _ _ (by rfl)) fun _ => Run.emits_pure _

end Site

end CssInline
