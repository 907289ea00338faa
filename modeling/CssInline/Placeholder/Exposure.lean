import CssInline.Placeholder
import CssInline.Text.Alphanumeric

/-! Placeholders inside the template literals of a code text become substitutions. -/

namespace CssInline.Placeholder

inductive Region where
  /-- Code, with so many braces open. -/
  | code (braces : Nat)
  /-- A string up to the closing mark. -/
  | quoted (mark : Char)
  | template
deriving DecidableEq

/-- Where the scanner stands: the region it is in, the regions around that one, and the character
before. -/
structure Scanner where
  region : Region
  outer : List Region
  previous : Option Char

namespace Scanner

def start : Scanner := ⟨.code 0, [], none⟩

def enter (scanner : Scanner) (region : Region) : Scanner :=
  { scanner with region, outer := scanner.region :: scanner.outer }

def leave (scanner : Scanner) : Scanner :=
  match scanner.outer with
  | [] => { scanner with region := .code 0 }
  | region :: outer => { scanner with region, outer }

def blockCommentLength : List Char → Nat
  | '*' :: '/' :: _ => 2
  | _ :: rest => blockCommentLength rest + 1
  | [] => 0

/-- A mark that opens a string or a template, or a brace. A brace that closes none of this region
closes a substitution. -/
def stepCodeMark (scanner : Scanner) (braces : Nat) (c : Char) : Scanner :=
  if c = '\'' ∨ c = '"' then scanner.enter (.quoted c)
  else if c = '\x60' then scanner.enter .template
  else if c = '{' then { scanner with region := .code (braces + 1) }
  else if c = '}' then
    if 0 < braces then { scanner with region := .code (braces - 1) }
    else if scanner.outer.isEmpty then scanner
    else scanner.leave
  else scanner

/-- The regions after `c`, and how many of the characters after it are passed with it. -/
def stepRegion (scanner : Scanner) (c : Char) (rest : List Char) : Scanner × Nat :=
  match scanner.region with
  | .code braces =>
    if c = '/' ∧ rest.head? = some '/' then
      (scanner, (rest.takeWhile (· != '\n')).length)
    else if c = '/' ∧ rest.head? = some '*' then (scanner, blockCommentLength rest)
    else (scanner.stepCodeMark braces c, 0)
  | .quoted mark =>
    if c = '\\' then (scanner, 1)
    else if c = mark then (scanner.leave, 0)
    else (scanner, 0)
  | .template =>
    if c = '\\' then (scanner, 1)
    else if c = '\x60' then (scanner.leave, 0)
    else if c = '$' ∧ rest.head? = some '{' then (scanner.enter (.code 0), 1)
    else (scanner, 0)

/-- Passes over one piece of text: what was passed, what is left, and the state after it. -/
def step (scanner : Scanner) (c : Char) (rest : List Char) :
    List Char × List Char × Scanner :=
  let (regions, more) := scanner.stepRegion c rest
  let passed := c :: rest.take more
  (passed, rest.drop more, { regions with previous := passed.getLast? })

def isIdentifierChar (c : Char) : Bool :=
  Text.isAlphanumeric c || c == '_' || c == '$'

/-- Whether a placeholder between the scanner and `after` is an identifier of its own. -/
def isApart (scanner : Scanner) (after : List Char) : Bool :=
  !(scanner.previous.any isIdentifierChar) && !(after.head?.any isIdentifierChar)

/-- What a placeholder called `name` becomes here, or `none` to pass over it as text. -/
def exposed? (scanner : Scanner) (name after : List Char) : Option (List Char) :=
  match scanner.region with
  | .code _ => if scanner.isApart after then some name else none
  | .quoted _ => none
  | .template => some ('$' :: '{' :: name ++ ['}'])

end Scanner

/-- The placeholder that is exposed at the start of `text`, what it becomes, and the rest. -/
def exposeAt? (stem : List Char) (count : Nat) (scanner : Scanner) (text : List Char) :
    Option (List Char × List Char × Scanner) := do
  let (id, after) ← take? stem count text
  let written ← scanner.exposed? (name stem id) after
  return (written, after, { scanner with previous := (name stem id).getLast? })

def exposeFrom (stem : List Char) (count : Nat) : Nat → Scanner → List Char → List Char
  | 0, _, _ => []
  | _ + 1, _, [] => []
  | fuel + 1, scanner, c :: rest =>
    let (written, after, scanner) :=
      (exposeAt? stem count scanner (c :: rest)).getD (scanner.step c rest)
    written ++ exposeFrom stem count fuel scanner after

/-- `output` with its placeholders in template literals made substitutions. In plain code they
are identifiers already, and in strings they stay until the code is read. -/
def expose (stem : List Char) (count : Nat) (output : List Char) : List Char :=
  exposeFrom stem count output.length .start output

end CssInline.Placeholder
