import CssInline.Config.Slot
import CssInline.Inline

/-! Work on several files with one configuration. -/

namespace CssInline

structure Session where
  slot : ConfigSlot
  modules : Modules
  /-- What was tolerated since the diagnostics were last taken. -/
  diagnostics : List Diagnostic
  /-- The calls of the processor since they were last taken. -/
  calls : List (String × String)
  log : List LogEntry

namespace Session

def start : Session := ⟨.empty, .empty, [], [], []⟩

def record (session : Session) (filename : String) (events : List Event) : Session :=
  { session with
    diagnostics := session.diagnostics ++ Event.diagnostics events
    calls := session.calls ++ Event.calls events
    log := session.log ++ Event.log .collect filename events }

def configure (session : Session) (options : Options) (processor : Processor) :
    Except Failure Config × Session :=
  let (run, slot) := session.slot.fill options processor
  (run.outcome, { session with slot }.record "" run.events)

def insert (session : Session) (path source : String) : Session :=
  { session with modules := session.modules.insert path source }

def load (session : Session) (filename path : String) : Except LoadError String :=
  (session.modules.loader filename path).source

def report (session : Session) (diagnostic : Diagnostic) : Session :=
  { session with diagnostics := session.diagnostics ++ [diagnostic] }

def takeDiagnostics (session : Session) : List Diagnostic × Session :=
  (session.diagnostics, { session with diagnostics := [] })

def takeCalls (session : Session) : List (String × String) × Session :=
  (session.calls, { session with calls := [] })

/-- Runs a task on a file; there is no outcome without a configuration. -/
def run (session : Session) (filename code : String) (task : Context → Run α) :
    Option (Except Failure α) × Session :=
  match session.slot.config? with
  | none => (none, session)
  | some config =>
    let run := task { config, loader := session.modules.loader, filename, code }
    (some run.outcome, session.record filename run.events)

end Session

end CssInline
