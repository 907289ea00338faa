/-! Finding one text in another. -/

namespace CssInline.Text

def occurs (part : List Char) : List Char → Bool
  | [] => part.isEmpty
  | c :: text => part.isPrefixOf (c :: text) || occurs part text

/-- What follows `start` in `text`, if `text` starts with it. -/
def strip? : (start : List Char) → (text : List Char) → Option (List Char)
  | [], text => some text
  | _ :: _, [] => none
  | s :: start, c :: text => if s = c then strip? start text else none

end CssInline.Text
