import CssInline.Config.Slot

/-! Calls on a slot, one after the other: the first configuration that can be made stays. -/

namespace CssInline

theorem Config.events_ofOptions (options : Options) (processor : Processor) :
    (Config.ofOptions options processor).events = [] := by
  unfold Config.ofOptions
  split <;> rfl

/-- A configuration is made of the options and the processor that it was asked for with. -/
theorem Config.eq_of_ofOptions {options : Options} {processor : Processor} {config : Config}
    (made : (Config.ofOptions options processor).outcome = .ok config) :
    Matcher.ofExtensions? options.extensions = some config.matcher ∧ config.tag = options.tag ∧
      config.strict = options.strict ∧ config.processor = processor := by
  unfold Config.ofOptions at made
  split at made
  · rename_i config' isConfig
    cases made
    obtain ⟨matcher, isMatcher, rfl⟩ := Option.map_eq_some_iff.mp isConfig
    exact ⟨isMatcher, rfl, rfl, rfl⟩
  · cases made

namespace ConfigSlot

inductive Call where
  | get
  | fill (options : Options) (processor : Processor)

/-- What a call gives back. -/
inductive Answer where
  | got (config? : Option Config)
  | filled (outcome : Except Failure Config)

/-- What calls give back and record, and the slot that they leave. -/
structure History where
  answers : List Answer
  events : List Event
  slot : ConfigSlot

def perform (slot : ConfigSlot) : Call → History
  | .get => ⟨[.got slot.config?], [], slot⟩
  | .fill options processor =>
    let (run, after) := slot.fill options processor
    ⟨[.filled run.outcome], run.events, after⟩

def performAll (slot : ConfigSlot) : List Call → History
  | [] => ⟨[], [], slot⟩
  | call :: calls =>
    let now := slot.perform call
    let later := now.slot.performAll calls
    ⟨now.answers ++ later.answers, now.events ++ later.events, later.slot⟩

namespace Call

/-- No configuration can come of the call. -/
def IsRejected : Call → Prop
  | .get => True
  | .fill options processor =>
    ∃ failure, (Config.ofOptions options processor).outcome = .error failure

/-- The answer while there is no configuration. Who asks for one is told why it cannot be made. -/
def refusal : Call → Answer
  | .get => .got none
  | .fill options processor => .filled (Config.ofOptions options processor).outcome

/-- The answer once there is a configuration. -/
def reply (config : Config) : Call → Answer
  | .get => .got (some config)
  | .fill _ _ => .filled (.ok config)

/-- What the call records while there is no configuration. -/
def attempt? : Call → Option Event
  | .get => none
  | .fill options _ => some (.configuring options)

/-- The line of the log for that. -/
def entry? : Call → Option LogEntry
  | .get => none
  | .fill options _ =>
    some ⟨.debug, "initializing css modules config", [("options", .text options.describe)]⟩

end Call

/-! One call -/

theorem fill_empty (options : Options) (processor : Processor) :
    empty.fill options processor =
      (⟨[.configuring options], (Config.ofOptions options processor).outcome⟩,
        ⟨(Config.ofOptions options processor).outcome.toOption⟩) := by
  have recorded : (do Run.emit (.configuring options); Config.ofOptions options processor) =
      ⟨[.configuring options], (Config.ofOptions options processor).outcome⟩ := by
    rw [Run.bind_of_ok _ (Run.outcome_emit _), Config.events_ofOptions]
    rfl
  simp only [fill, empty, recorded]

theorem perform_of_filled (config : Config) (call : Call) :
    perform ⟨some config⟩ call = ⟨[call.reply config], [], ⟨some config⟩⟩ := by
  cases call with
  | get => rfl
  | fill options processor => rfl

theorem perform_of_rejected {call : Call} (rejected : call.IsRejected) :
    empty.perform call = ⟨[call.refusal], call.attempt?.toList, empty⟩ := by
  cases call with
  | get => rfl
  | fill options processor =>
    obtain ⟨failure, failed⟩ := rejected
    simp only [perform, fill_empty, Call.refusal, failed]
    rfl

theorem perform_of_accepted {options : Options} {processor : Processor} {config : Config}
    (accepted : (Config.ofOptions options processor).outcome = .ok config) :
    empty.perform (.fill options processor) =
      ⟨[.filled (.ok config)], [.configuring options], ⟨some config⟩⟩ := by
  simp only [perform, fill_empty, accepted]
  rfl

/-! Calls in order -/

theorem performAll_of_filled (config : Config) (calls : List Call) :
    performAll ⟨some config⟩ calls = ⟨calls.map (Call.reply config), [], ⟨some config⟩⟩ := by
  induction calls with
  | nil => rfl
  | cons call calls ih =>
    simp only [performAll, perform_of_filled, ih]
    rfl

theorem performAll_append_of_rejected {earlier : List Call}
    (rejected : ∀ call ∈ earlier, call.IsRejected) (later : List Call) :
    empty.performAll (earlier ++ later) =
      ⟨earlier.map Call.refusal ++ (empty.performAll later).answers,
        earlier.filterMap Call.attempt? ++ (empty.performAll later).events,
        (empty.performAll later).slot⟩ := by
  induction earlier with
  | nil => rfl
  | cons call earlier ih =>
    obtain ⟨first, others⟩ := List.forall_mem_cons.mp rejected
    simp only [List.cons_append, performAll, perform_of_rejected first, ih others,
      List.map_cons, List.filterMap_cons]
    cases call <;> rfl

theorem performAll_of_rejected {calls : List Call} (rejected : ∀ call ∈ calls, call.IsRejected) :
    empty.performAll calls = ⟨calls.map Call.refusal, calls.filterMap Call.attempt?, empty⟩ := by
  have whole := performAll_append_of_rejected rejected []
  simpa only [List.append_nil, performAll] using whole

theorem performAll_of_accepted {options : Options} {processor : Processor} {config : Config}
    (accepted : (Config.ofOptions options processor).outcome = .ok config) (later : List Call) :
    empty.performAll (.fill options processor :: later) =
      ⟨.filled (.ok config) :: later.map (Call.reply config), [.configuring options],
        ⟨some config⟩⟩ := by
  simp only [performAll, perform_of_accepted accepted, performAll_of_filled]
  rfl

theorem rejected_or_first_accepted (calls : List Call) :
    (∀ call ∈ calls, call.IsRejected) ∨
      ∃ earlier options processor later config,
        calls = earlier ++ .fill options processor :: later ∧
          (∀ call ∈ earlier, call.IsRejected) ∧
          (Config.ofOptions options processor).outcome = .ok config := by
  induction calls with
  | nil => exact .inl fun _ => nofun
  | cons call calls ih =>
    have settled : call.IsRejected ∨ ∃ options processor config,
        call = .fill options processor ∧
          (Config.ofOptions options processor).outcome = .ok config := by
      cases call with
      | get => exact .inl trivial
      | fill options processor =>
        cases made : (Config.ofOptions options processor).outcome with
        | error failure => exact .inl ⟨failure, made⟩
        | ok config => exact .inr ⟨options, processor, config, rfl, made⟩
    rcases settled with rejected | ⟨options, processor, config, rfl, made⟩
    · rcases ih with others | ⟨earlier, options, processor, later, config, rfl, others, made⟩
      · exact .inl (List.forall_mem_cons.mpr ⟨rejected, others⟩)
      · exact .inr ⟨call :: earlier, options, processor, later, config, rfl,
          List.forall_mem_cons.mpr ⟨rejected, others⟩, made⟩
    · exact .inr ⟨[], options, processor, calls, config, rfl, fun _ => nofun, made⟩

theorem log_attempts (sink : Sink) (filename : String) (calls : List Call) :
    Event.log sink filename (calls.filterMap Call.attempt?) = calls.filterMap Call.entry? := by
  rw [Event.log, List.filterMap_filterMap]
  congr 1
  funext call
  cases call <;> rfl

/-- Calls on an empty slot are refused, each for its own reason, and leave it empty up to the first
one that a configuration can be made for. From there on every call is answered with that
configuration. What stands in the log is one line for each attempt to make one. -/
theorem first_configuration_stays (calls : List Call) (sink : Sink) (filename : String) :
    ((∀ call ∈ calls, call.IsRejected) ∧
        (empty.performAll calls).answers = calls.map Call.refusal ∧
        (empty.performAll calls).slot = empty ∧
        Event.log sink filename (empty.performAll calls).events =
          calls.filterMap Call.entry?) ∨
      ∃ earlier options processor later config,
        calls = earlier ++ .fill options processor :: later ∧
          (∀ call ∈ earlier, call.IsRejected) ∧
          (Config.ofOptions options processor).outcome = .ok config ∧
          (Matcher.ofExtensions? options.extensions = some config.matcher ∧
            config.tag = options.tag ∧ config.strict = options.strict ∧
            config.processor = processor) ∧
          (empty.performAll calls).answers =
            earlier.map Call.refusal ++ .filled (.ok config) :: later.map (Call.reply config) ∧
          (empty.performAll calls).slot = ⟨some config⟩ ∧
          Event.log sink filename (empty.performAll calls).events =
            (earlier ++ [.fill options processor]).filterMap Call.entry? := by
  rcases rejected_or_first_accepted calls with
    rejected | ⟨earlier, options, processor, later, config, rfl, rejected, accepted⟩
  · refine .inl ⟨rejected, ?_⟩
    rw [performAll_of_rejected rejected]
    exact ⟨rfl, rfl, log_attempts sink filename calls⟩
  · refine .inr ⟨earlier, options, processor, later, config, rfl, rejected, accepted,
      Config.eq_of_ofOptions accepted, ?_⟩
    rw [performAll_append_of_rejected rejected, performAll_of_accepted accepted,
      ← log_attempts, List.filterMap_append]
    exact ⟨rfl, rfl, rfl⟩

end ConfigSlot

end CssInline
