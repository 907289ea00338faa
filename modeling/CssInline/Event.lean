import CssInline.Diagnostic
import CssInline.Failure
import CssInline.Options

/-! What happens while styles are compiled, in order, and how the log shows it. -/

namespace CssInline

inductive Event where
  /-- A configuration is being made. -/
  | configuring (options : Options)
  | importFound (path : String) (name : String)
  /-- An import names more than the module itself. -/
  | specifiersDropped (path : String)
  | requireFound (path : String)
  /-- A loader was asked for a module. -/
  | fetched (path : String) (opened : Option String)
  | processed (filename : String) (styles : String)
  /-- A failure was tolerated. -/
  | reported (diagnostic : Diagnostic)
  | templateCompiled (line : Nat)
  | stopped (failure : Failure)
deriving DecidableEq

namespace Event

def call? : Event → Option (String × String)
  | .processed filename styles => some (filename, styles)
  | _ => none

def diagnostic? : Event → Option Diagnostic
  | .reported diagnostic => some diagnostic
  | _ => none

def fetch? : Event → Option String
  | .fetched path _ => some path
  | _ => none

def calls (events : List Event) : List (String × String) :=
  events.filterMap call?

def diagnostics (events : List Event) : List Diagnostic :=
  events.filterMap diagnostic?

def fetches (events : List Event) : List String :=
  events.filterMap fetch?

end Event

/-! The log -/

inductive Level where
  | trace
  | debug
  | warn
  | error
deriving DecidableEq

inductive LogValue where
  | text (value : String)
  | number (value : Nat)
deriving DecidableEq

structure LogEntry where
  level : Level
  message : String
  fields : List (String × LogValue)
deriving DecidableEq

inductive Sink where
  | collect
  | log
deriving DecidableEq

def Diagnostic.logEntry (diagnostic : Diagnostic) : LogEntry where
  level := .error
  message := diagnostic.message
  fields :=
    ("filename", .text diagnostic.filename) ::
      match diagnostic.position with
      | none => []
      | some place => [("line", .number place.line), ("column", .number place.column)]

def Event.logEntry? (sink : Sink) (filename : String) : Event → Option LogEntry
  | .configuring options =>
    some ⟨.debug, "initializing css modules config", [("options", .text options.describe)]⟩
  | .importFound path name =>
    some ⟨.debug, "compiling css import",
      [("filename", .text filename), ("path", .text path), ("local", .text name)]⟩
  | .specifiersDropped path =>
    some ⟨.warn, "only the default import of a css module is kept",
      [("filename", .text filename), ("path", .text path)]⟩
  | .requireFound path =>
    some ⟨.debug, "compiling css require", [("filename", .text filename), ("path", .text path)]⟩
  | .fetched _ (some file) => some ⟨.trace, "loading css module", [("path", .text file)]⟩
  | .fetched _ none => none
  | .processed _ _ => none
  | .reported diagnostic =>
    match sink with
    | .collect => none
    | .log => some diagnostic.logEntry
  | .templateCompiled line =>
    some ⟨.debug, "compiled css template", [("filename", .text filename), ("line", .number line)]⟩
  | .stopped failure =>
    some ⟨.debug, "stopping css transform",
      [("filename", .text filename), ("err", .text failure.text)]⟩

def Event.log (sink : Sink) (filename : String) (events : List Event) : List LogEntry :=
  events.filterMap (Event.logEntry? sink filename)

def Sink.kept (sink : Sink) (events : List Event) : List Diagnostic :=
  match sink with
  | .collect => Event.diagnostics events
  | .log => []

end CssInline
