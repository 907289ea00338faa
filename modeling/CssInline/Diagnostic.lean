import CssInline.Diagnostic.Report

/-! Failures that were tolerated. -/

namespace CssInline

structure Diagnostic where
  message : String
  filename : String
  /-- The place of the failing template. References to modules have none. -/
  position : Option Position
deriving DecidableEq

/-- The diagnostic beside the lines of `source`, the full text of its file. -/
def Diagnostic.render (diagnostic : Diagnostic) (source : String) : String :=
  Report.render {
    message := diagnostic.message
    source
    filename := diagnostic.filename
    position := diagnostic.position }

end CssInline
