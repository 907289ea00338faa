import CssInline.Text.Blank

/-! Which paths name style modules. -/

namespace CssInline

/-- The endings that make a path a style module. -/
structure Matcher where
  endings : List String
  endings_ne_nil : endings ≠ []

namespace Matcher

/-- The matcher of the extensions that are set by default. -/
def css : Matcher :=
  ⟨[".css"], List.cons_ne_nil _ _⟩

/-- An extension without surrounding blanks and with its leading dot. -/
def ending? (extension : String) : Option String :=
  match Text.trim extension.toList with
  | [] => none
  | '.' :: rest => some (String.ofList ('.' :: rest))
  | name => some (String.ofList ('.' :: name))

/-- Blank extensions do not count, and one has to be left. -/
def ofExtensions? (extensions : List String) : Option Matcher :=
  let endings := extensions.filterMap ending?
  if h : endings = [] then none else some ⟨endings, h⟩

def manages (matcher : Matcher) (path : String) : Bool :=
  matcher.endings.any fun ending => ending.toList.isSuffixOf path.toList

/-- The characters with a meaning of their own in patterns. -/
def isPatternMark (c : Char) : Bool :=
  ['\\', '.', '+', '*', '?', '(', ')', '|', '[', ']', '{', '}', '^', '$', '#', '&', '-',
    '~'].contains c

def escapePattern (text : List Char) : List Char :=
  text.flatMap fun c => if isPatternMark c then ['\\', c] else [c]

/-- The matcher as a pattern: one of the endings, at the end of the path. -/
def pattern (matcher : Matcher) : List Char :=
  ['(', '?', ':'] ++
    List.intercalate ['|'] (matcher.endings.map fun ending => escapePattern ending.toList) ++
    [')', '$']

end Matcher

end CssInline
