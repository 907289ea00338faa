import CssInline.Loader

/-! Paths of files, taken apart and put together as text. -/

namespace CssInline.Path

/-- The pieces between slashes. -/
def components : List Char → List (List Char)
  | [] => [[]]
  | c :: rest =>
    if c = '/' then [] :: components rest
    else
      match components rest with
      | [] => [[c]]
      | first :: more => (c :: first) :: more

/-- Pieces that lead nowhere. -/
def isIdle (component : List Char) : Bool :=
  component.isEmpty || component == ['.']

/-- Splits off a leading slash, or a dot that stands for the current directory. -/
def splitHead (path : List Char) : List Char × List Char :=
  match path with
  | '/' :: rest => (['/'], rest)
  | ['.'] => (['.'], [])
  | '.' :: '/' :: rest => (['.'], '/' :: rest)
  | path => ([], path)

def isAbsolute (path : List Char) : Bool :=
  path.head? == some '/'

/-- The path without its last component; idle components around it go with it. -/
def parent? (path : List Char) : Option (List Char) :=
  let (head, body) := splitHead path
  match (components body).reverse.dropWhile isIdle with
  | [] => if head == ['.'] then some [] else none
  | _ :: rest => some (head ++ List.intercalate ['/'] (rest.dropWhile isIdle).reverse)

/-- `path` as seen from `base`. -/
def join (base path : List Char) : List Char :=
  if isAbsolute path then path
  else if base.isEmpty || base.getLast? == some '/' then base ++ path
  else base ++ '/' :: path

def isDotted (path : List Char) : Bool :=
  ['.', '/'].isPrefixOf path || ['.', '.', '/'].isPrefixOf path

/-- The file that `path` names in `filename`. Dotted paths start at the directory of `filename`,
bare ones at the module root. -/
def resolve (root : Option String) (filename path : String) : Except LoadError String :=
  if isAbsolute path.toList then .ok path
  else if isDotted path.toList then
    .ok (String.ofList (join ((parent? filename.toList).getD []) path.toList))
  else
    match root with
    | some root => .ok (String.ofList (join root.toList path.toList))
    | none => .error (.bareSpecifier path)

end CssInline.Path
