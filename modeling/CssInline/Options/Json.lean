import CssInline.Options
import CssInline.Options.Scalar

/-! Options from their JSON text. Reading stops at the first fault in the order of the text. -/

namespace CssInline.Options

/-- A value of the wrong type, as far as it was read. -/
inductive Found where
  | null
  | boolean (value : Bool)
  | number (value : JsonNumber)
  | text (value : String)
  | list
  | object

inductive Wanted where
  | list
  | text
  | boolean
  | options

inductive Setting where
  | extensions
  | tag
  | strict
deriving DecidableEq

inductive JsonError where
  | json (fault : JsonFault)
  | mismatch (found : Found) (wanted : Wanted)
  | duplicate (setting : Setting)

def Setting.key : Setting → String
  | .extensions => "extensions"
  | .tag => "namespace"
  | .strict => "throwOnError"

def Setting.ofKey? (key : String) : Option Setting :=
  [.extensions, .tag, .strict].find? fun setting => setting.key == key

def Wanted.describe : Wanted → String
  | .list => "a sequence"
  | .text => "a string"
  | .boolean => "a boolean"
  | .options => "struct PluginOptions"

def integerText (value : Int) : String :=
  (if value < 0 then "-" else "") ++ String.ofList (Text.decimal value.natAbs)

def Found.describe : Found → String
  | .null => "null"
  | .boolean value => "boolean `" ++ (if value then "true" else "false") ++ "`"
  | .number (.integer value) => "integer `" ++ integerText value ++ "`"
  | .number (.double value) => "floating point `" ++ String.ofList (Text.doubleText value) ++ "`"
  | .text value => "string " ++ quote value
  | .list => "sequence"
  | .object => "map"

def JsonError.describe? : JsonError → Option String
  | .json _ => none
  | .mismatch found wanted =>
    some ("invalid type: " ++ found.describe ++ ", expected " ++ wanted.describe)
  | .duplicate setting => some ("duplicate field `" ++ setting.key ++ "`")

abbrev Reader (α : Type) := List Char → Except JsonError (α × List Char)

def Reader.ofJson (reader : JsonReader α) : Reader α :=
  fun text => (reader text).mapError .json

/-- Reads far enough to say what stands where something else was wanted. A bracket is enough. -/
def mismatch (wanted : Wanted) (text : List Char) : Except JsonError (α × List Char) := do
  let found ←
    match text with
    | [] => throw (.json .truncated)
    | 'n' :: rest =>
      let _ ← Reader.ofJson (readWord ['u', 'l', 'l']) rest
      pure .null
    | 't' :: rest =>
      let _ ← Reader.ofJson (readWord ['r', 'u', 'e']) rest
      pure (.boolean true)
    | 'f' :: rest =>
      let _ ← Reader.ofJson (readWord ['a', 'l', 's', 'e']) rest
      pure (.boolean false)
    | '-' :: rest =>
      let (number, _) ← Reader.ofJson (readUnsigned false) rest
      pure (.number number)
    | '"' :: rest =>
      let (value, _) ← Reader.ofJson readString rest
      pure (.text value)
    | '[' :: _ => pure .list
    | '{' :: _ => pure .object
    | c :: _ =>
      if c.isDigit then
        let (number, _) ← Reader.ofJson (readUnsigned true) text
        pure (.number number)
      else throw (.json .malformed)
  throw (.mismatch found wanted)

def readText : Reader String := fun text =>
  match skipJsonBlanks text with
  | '"' :: rest => Reader.ofJson readString rest
  | rest => mismatch .text rest

def readBoolean : Reader Bool := fun text =>
  match skipJsonBlanks text with
  | 't' :: rest => do
    let (_, rest) ← Reader.ofJson (readWord ['r', 'u', 'e']) rest
    return (true, rest)
  | 'f' :: rest => do
    let (_, rest) ← Reader.ofJson (readWord ['a', 'l', 's', 'e']) rest
    return (false, rest)
  | rest => mismatch .boolean rest

/-- Whether another element of a list follows, and the text it starts at. The closing bracket
stays unread. -/
def nextElement (first : Bool) (text : List Char) :
    Except JsonError (Option (List Char) × List Char) :=
  match skipJsonBlanks text with
  | [] => .error (.json .truncated)
  | ']' :: rest => .ok (none, ']' :: rest)
  | c :: rest =>
    if first then .ok (some (c :: rest), [])
    else if c = ',' then
      match skipJsonBlanks rest with
      | [] => .error (.json .truncated)
      | ']' :: _ => .error (.json .malformed)
      | rest => .ok (some rest, [])
    else .error (.json .malformed)

def readTextsFrom : Nat → Bool → List String → Reader (List String)
  | 0, _, _, _ => .error (.json .malformed)
  | fuel + 1, first, done, text => do
    match ← nextElement first text with
    | (none, rest) => return (done.reverse, rest.drop 1)
    | (some element, _) =>
      let (value, rest) ← readText element
      readTextsFrom fuel false (value :: done) rest

def readTexts : Reader (List String) := fun text =>
  match skipJsonBlanks text with
  | '[' :: rest => readTextsFrom (text.length + 1) true [] rest
  | rest => mismatch .list rest

def readSetting (options : Options) (setting : Setting) : Reader Options := fun text =>
  match setting with
  | .extensions => do
    let (extensions, rest) ← readTexts text
    return ({ options with extensions }, rest)
  | .tag => do
    let (tag, rest) ← readText text
    return ({ options with tag }, rest)
  | .strict => do
    let (strict, rest) ← readBoolean text
    return ({ options with strict }, rest)

/-- Settings given by position. The tail may be missing. -/
def readPositional (options : Options) (first : Bool) : List Setting → Reader Options
  | [], text =>
    match skipJsonBlanks text with
    | ']' :: rest => .ok (options, rest)
    | [] => .error (.json .truncated)
    | _ => .error (.json .malformed)
  | setting :: settings, text => do
    match ← nextElement first text with
    | (none, rest) => return (options, rest.drop 1)
    | (some element, _) =>
      let (options, rest) ← readSetting options setting element
      readPositional options false settings rest

/-- Whether another key follows, and the text after its opening quote; for the closing brace the
text after it. -/
def nextKey (first : Bool) (text : List Char) : Except JsonError (Bool × List Char) :=
  match skipJsonBlanks text with
  | [] => .error (.json .truncated)
  | '}' :: rest => .ok (false, rest)
  | c :: rest =>
    if first then
      if c = '"' then .ok (true, rest) else .error (.json .malformed)
    else if c = ',' then
      match skipJsonBlanks rest with
      | [] => .error (.json .truncated)
      | '"' :: rest => .ok (true, rest)
      | _ => .error (.json .malformed)
    else .error (.json .malformed)

def readColon : Reader Unit := fun text =>
  match skipJsonBlanks text with
  | ':' :: rest => .ok ((), rest)
  | [] => .error (.json .truncated)
  | _ => .error (.json .malformed)

/-- Settings given by name. A repeated name is refused before its value is read, and an unknown
one is passed over. -/
def readNamed : Nat → Bool → List Setting → Options → Reader Options
  | 0, _, _, _, _ => .error (.json .malformed)
  | fuel + 1, first, seen, options, text => do
    match ← nextKey first text with
    | (false, rest) => return (options, rest)
    | (true, rest) =>
      let (key, rest) ← Reader.ofJson readString rest
      match Setting.ofKey? key with
      | none =>
        let (_, rest) ← readColon rest
        let (_, rest) ← Reader.ofJson skipValue rest
        readNamed fuel false seen options rest
      | some setting =>
        if seen.contains setting then throw (.duplicate setting)
        let (_, rest) ← readColon rest
        let (options, rest) ← readSetting options setting rest
        readNamed fuel false (setting :: seen) options rest

def readOptions : Reader Options := fun text =>
  match skipJsonBlanks text with
  | '[' :: rest => readPositional {} true [.extensions, .tag, .strict] rest
  | '{' :: rest => readNamed (text.length + 1) true [] {} rest
  | rest => mismatch .options rest

/-- An object or a list of settings, with defaults for those left out. -/
def ofJson (json : String) : Except JsonError Options := do
  let (options, rest) ← readOptions json.toList
  if (skipJsonBlanks rest).isEmpty then return options
  else throw (.json .malformed)

end CssInline.Options
