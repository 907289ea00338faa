import CssInline.Config
import CssInline.Run

/-! The configuration that all files of a session share. -/

namespace CssInline

def Config.ofOptions (options : Options) (processor : Processor) : Run Config :=
  match Config.ofOptions? options processor with
  | some config => return config
  | none => Run.fail .noExtensions

structure ConfigSlot where
  config? : Option Config

namespace ConfigSlot

def empty : ConfigSlot := ⟨none⟩

/-- The configuration in the slot, made from `options` if there is none yet, and the slot after
that. A failure leaves the slot empty, and the first success stays. -/
def fill (slot : ConfigSlot) (options : Options) (processor : Processor) :
    Run Config × ConfigSlot :=
  match slot.config? with
  | some config => (pure config, slot)
  | none =>
    let run := do
      Run.emit (.configuring options)
      Config.ofOptions options processor
    (run, ⟨run.outcome.toOption⟩)

end ConfigSlot

end CssInline
