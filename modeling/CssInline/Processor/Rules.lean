import CssInline.Processor
import CssInline.Text.Blank
import CssInline.Text.JsonString
import CssInline.Text.Search

/-! Processors that choose an answer by what the styles contain. -/

namespace CssInline.Processor

inductive Answer where
  | fail (failure : ProcessError)
  /-- A text with marks for the styles and the file name. -/
  | format (text : String)

structure Rule where
  /-- The rule applies where this occurs. -/
  contains : Option String
  answer : Answer

def Rule.applies (rule : Rule) (styles : List Char) : Bool :=
  match rule.contains with
  | none => true
  | some part => Text.occurs part.toList styles

/-- Puts the styles in for `%s`, as a JSON string for `%j`, trimmed for `%t`, and the file name
for `%f`. What is put in is not read again. -/
def fill (filename styles : List Char) : List Char → List Char
  | '%' :: 's' :: rest => styles ++ fill filename styles rest
  | '%' :: 'j' :: rest => Text.jsonString styles ++ fill filename styles rest
  | '%' :: 't' :: rest => Text.jsonString (Text.trim styles) ++ fill filename styles rest
  | '%' :: 'f' :: rest => Text.jsonString filename ++ fill filename styles rest
  | '%' :: '%' :: rest => '%' :: fill filename styles rest
  | c :: rest => c :: fill filename styles rest
  | [] => []

/-- An object that holds the styles. -/
def defaultFormat : String := "\x7b css: %j \x7d"

/-- Answers by the first rule that applies. -/
def ofRules (rules : List Rule) : Processor := fun filename styles =>
  match (rules.find? fun rule => rule.applies styles.toList).map Rule.answer with
  | some (.fail failure) => .error failure
  | some (.format text) => .ok (String.ofList (fill filename.toList styles.toList text.toList))
  | none => .ok (String.ofList (fill filename.toList styles.toList defaultFormat.toList))

end CssInline.Processor
