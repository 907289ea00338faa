import CssInline.Text.Bytes
import CssInline.Text.Hex
import CssInline.Text.Shortest

/-! Tokens of a JSON text. -/

namespace CssInline.Options

inductive JsonFault where
  | malformed
  /-- The text ended too soon. -/
  | truncated
deriving DecidableEq

abbrev JsonReader (α : Type) := List Char → Except JsonFault (α × List Char)

inductive JsonNumber where
  | integer (value : Int)
  | double (value : Float)

def isJsonBlank (c : Char) : Bool :=
  c == ' ' || c == '\n' || c == '\t' || c == '\r'

def skipJsonBlanks (text : List Char) : List Char :=
  text.dropWhile isJsonBlank

def readWord : List Char → JsonReader Unit
  | [], text => .ok ((), text)
  | _ :: _, [] => .error .truncated
  | letter :: word, c :: text => if c = letter then readWord word text else .error .malformed

/-! Strings -/

/-- Four hexadecimal digits. With fewer than four bytes left the text counts as cut off. -/
def readCodeUnit (text : List Char) : Except JsonFault (Nat × List Char) :=
  match text with
  | a :: b :: c :: d :: rest =>
    match Text.hexValue? a, Text.hexValue? b, Text.hexValue? c, Text.hexValue? d with
    | some a, some b, some c, some d => .ok (((a * 16 + b) * 16 + c) * 16 + d, rest)
    | _, _, _, _ => .error .malformed
  | _ =>
    if Text.byteLength text < 4 then .error .truncated else .error .malformed

def isHighSurrogate (unit : Nat) : Bool :=
  0xd800 ≤ unit && unit < 0xdc00

def isLowSurrogate (unit : Nat) : Bool :=
  0xdc00 ≤ unit && unit < 0xe000

/-- What follows the first unit of an escape: a high surrogate needs a low one after it. -/
def readEscapedUnits (text : List Char) : Except JsonFault (Char × List Char) := do
  let (first, rest) ← readCodeUnit text
  if isLowSurrogate first then throw .malformed
  if isHighSurrogate first then
    match rest with
    | [] => throw .truncated
    | '\\' :: [] => throw .truncated
    | '\\' :: 'u' :: rest =>
      let (second, rest) ← readCodeUnit rest
      if isLowSurrogate second then
        return (Char.ofNat (0x10000 + (first - 0xd800) * 0x400 + (second - 0xdc00)), rest)
      else throw .malformed
    | _ => throw .malformed
  return (Char.ofNat first, rest)

def simpleEscape? (c : Char) : Option Char :=
  match c with
  | '"' => some '"'
  | '\\' => some '\\'
  | '/' => some '/'
  | 'b' => some '\x08'
  | 'f' => some '\x0c'
  | 'n' => some '\n'
  | 'r' => some '\r'
  | 't' => some '\t'
  | _ => none

def readStringPart : JsonReader (Option Char)
  | [] => .error .truncated
  | '"' :: text => .ok (none, text)
  | '\\' :: [] => .error .truncated
  | '\\' :: 'u' :: text => do
    let (c, rest) ← readEscapedUnits text
    return (some c, rest)
  | '\\' :: c :: text =>
    match simpleEscape? c with
    | some c => .ok (some c, text)
    | none => .error .malformed
  | c :: text => if c.toNat < 0x20 then .error .malformed else .ok (some c, text)

def readStringParts : Nat → List Char → JsonReader (List Char)
  | 0, _, _ => .error .truncated
  | fuel + 1, done, text => do
    match ← readStringPart text with
    | (none, rest) => return (done.reverse, rest)
    | (some c, rest) => readStringParts fuel (c :: done) rest

def readString (text : List Char) : Except JsonFault (String × List Char) := do
  let (value, rest) ← readStringParts (text.length + 1) [] text
  return (String.ofList value, rest)

/-- Passes over the rest of a string. Escapes must be well formed, but need not pair up. -/
def skipStringParts : Nat → JsonReader Unit
  | 0, _ => .error .truncated
  | _ + 1, [] => .error .truncated
  | _ + 1, '"' :: text => .ok ((), text)
  | _ + 1, '\\' :: [] => .error .truncated
  | fuel + 1, '\\' :: 'u' :: text => do
    let (_, rest) ← readCodeUnit text
    skipStringParts fuel rest
  | fuel + 1, '\\' :: c :: text =>
    if (simpleEscape? c).isSome then skipStringParts fuel text else .error .malformed
  | fuel + 1, c :: text =>
    if c.toNat < 0x20 then .error .malformed else skipStringParts fuel text

def skipString (text : List Char) : Except JsonFault (Unit × List Char) :=
  skipStringParts (text.length + 1) text

/-! Numbers -/

def wordBound : Nat := Nat.pow 2 64

/-- The largest power of ten that a double is scaled by at once. -/
def scaleLimit : Nat := 308

/-- Scales down in steps until the exponent is in reach. -/
def scaleDown : Nat → Float → Nat → Float
  | 0, value, _ => value
  | fuel + 1, value, places =>
    if places ≤ scaleLimit then value / Float.ofScientific 1 false places
    else if value == 0 then value
    else scaleDown fuel (value / Float.ofScientific 1 false scaleLimit) (places - scaleLimit)

/-- `significand * 10 ^ exponent`, refused when it is too large. -/
def scaledDouble (positive : Bool) (significand : Nat) (exponent : Int) :
    Except JsonFault JsonNumber := do
  let value := Float.ofNat significand
  let size ←
    if 0 ≤ exponent then
      if exponent.toNat ≤ scaleLimit then
        let scaled := value * Float.ofScientific 1 false exponent.toNat
        if scaled.isInf then throw .malformed else pure scaled
      else if value == 0 then pure value
      else throw .malformed
    else pure (scaleDown 4 value (-exponent).toNat)
  return .double (if positive then size else -size)

/-- Takes digits while the significand stays below the word bound, counting them. -/
def takeDigits : Nat → Nat → List Char → Nat × Nat × List Char
  | significand, count, [] => (significand, count, [])
  | significand, count, c :: text =>
    if c.isDigit then
      let next := significand * 10 + (c.toNat - '0'.toNat)
      if next < wordBound then takeDigits next (count + 1) text
      else (significand, count, c :: text)
    else (significand, count, c :: text)

/-- The largest exponent read as a number; all beyond are the same. -/
def exponentBound : Nat := Nat.pow 2 31

def readExponent (positive : Bool) (significand : Nat) (start : Int) (text : List Char) :
    Except JsonFault (JsonNumber × List Char) := do
  let (up, text) :=
    match text with
    | '+' :: text => (true, text)
    | '-' :: text => (false, text)
    | text => (true, text)
  let digits := text.takeWhile Char.isDigit
  let rest := text.dropWhile Char.isDigit
  if digits.isEmpty then
    throw (if text.isEmpty then .truncated else .malformed)
  let size := Text.decimalValue digits
  if exponentBound ≤ size then
    if up && significand != 0 then throw .malformed
    return (.double (if positive then 0.0 else -0.0), rest)
  let number ← scaledDouble positive significand (if up then start + size else start - size)
  return (number, rest)

def readFraction (positive : Bool) (significand : Nat) (start : Int) (text : List Char) :
    Except JsonFault (JsonNumber × List Char) := do
  let (significand, count, afterDigits) := takeDigits significand 0 text
  let rest := afterDigits.dropWhile Char.isDigit
  if count = 0 && rest.length = afterDigits.length then
    throw (if afterDigits.isEmpty then .truncated else .malformed)
  match rest with
  | 'e' :: rest | 'E' :: rest => readExponent positive significand (start - count) rest
  | rest =>
    let number ← scaledDouble positive significand (start - count)
    return (number, rest)

/-- A whole number, as an integer where it fits a signed or an unsigned word of 64 bits. -/
def wholeNumber (positive : Bool) (significand : Nat) : JsonNumber :=
  if positive then .integer significand
  else if significand = 0 ∨ Nat.pow 2 63 < significand then .double (-(Float.ofNat significand))
  else .integer (-(significand : Int))

def readAfterWhole (positive : Bool) (significand : Nat) (dropped : Nat) (text : List Char) :
    Except JsonFault (JsonNumber × List Char) := do
  match text with
  | '.' :: rest => readFraction positive significand dropped rest
  | 'e' :: rest | 'E' :: rest => readExponent positive significand dropped rest
  | rest =>
    if dropped = 0 then return (wholeNumber positive significand, rest)
    else
      let number ← scaledDouble positive significand dropped
      return (number, rest)

/-- A number after its sign. -/
def readUnsigned (positive : Bool) (text : List Char) :
    Except JsonFault (JsonNumber × List Char) :=
  match text with
  | [] => .error .truncated
  | '0' :: rest =>
    if (rest.head?.map Char.isDigit).getD false then .error .malformed
    else readAfterWhole positive 0 0 rest
  | c :: rest =>
    if c.isDigit then
      let (significand, _, rest) := takeDigits (c.toNat - '0'.toNat) 1 rest
      let dropped := (rest.takeWhile Char.isDigit).length
      readAfterWhole positive significand dropped (rest.drop dropped)
    else .error .malformed

def skipExponent (text : List Char) : Except JsonFault (Unit × List Char) :=
  let text :=
    match text with
    | '+' :: text | '-' :: text => text
    | text => text
  if (text.takeWhile Char.isDigit).isEmpty then .error .malformed
  else .ok ((), text.dropWhile Char.isDigit)

def skipAfterWhole (text : List Char) : Except JsonFault (Unit × List Char) :=
  match text with
  | '.' :: text =>
    if (text.takeWhile Char.isDigit).isEmpty then .error .malformed
    else
      match text.dropWhile Char.isDigit with
      | 'e' :: rest | 'E' :: rest => skipExponent rest
      | rest => .ok ((), rest)
  | 'e' :: rest | 'E' :: rest => skipExponent rest
  | rest => .ok ((), rest)

/-- Passes over a number after its sign. A number that is cut off is malformed. -/
def skipUnsigned (text : List Char) : Except JsonFault (Unit × List Char) :=
  match text with
  | '0' :: rest =>
    if (rest.head?.map Char.isDigit).getD false then .error .malformed else skipAfterWhole rest
  | c :: _ =>
    if c.isDigit then skipAfterWhole (text.dropWhile Char.isDigit) else .error .malformed
  | [] => .error .malformed

/-! Whole values that nobody asked for -/

inductive Bracket where
  | list
  | object
deriving DecidableEq

/-- What may come next while a value is passed over. -/
inductive SkipState where
  | value
  /-- Just after an opening bracket. -/
  | opened
  /-- After a value, or a closing bracket. -/
  | after
  | key

def skipKey (text : List Char) : Except JsonFault (Unit × List Char) := do
  match skipJsonBlanks text with
  | '"' :: text =>
    let (_, rest) ← skipString text
    match skipJsonBlanks rest with
    | ':' :: rest => return ((), rest)
    | [] => throw .truncated
    | _ => throw .malformed
  | [] => throw .truncated
  | _ => throw .malformed

/-- Runs until the outermost value is complete, with the open brackets innermost first. -/
def skipValueFrom : Nat → SkipState → List Bracket → JsonReader Unit
  | 0, _, _, _ => .error .malformed
  | fuel + 1, .key, brackets, text => do
    let (_, rest) ← skipKey text
    skipValueFrom fuel .value brackets rest
  | fuel + 1, .value, brackets, text =>
    match skipJsonBlanks text with
    | [] => .error .truncated
    | 'n' :: rest => do
      let (_, rest) ← readWord ['u', 'l', 'l'] rest
      skipValueFrom fuel .after brackets rest
    | 't' :: rest => do
      let (_, rest) ← readWord ['r', 'u', 'e'] rest
      skipValueFrom fuel .after brackets rest
    | 'f' :: rest => do
      let (_, rest) ← readWord ['a', 'l', 's', 'e'] rest
      skipValueFrom fuel .after brackets rest
    | '-' :: rest => do
      let (_, rest) ← skipUnsigned rest
      skipValueFrom fuel .after brackets rest
    | '"' :: rest => do
      let (_, rest) ← skipString rest
      skipValueFrom fuel .after brackets rest
    | '[' :: rest => skipValueFrom fuel .opened (.list :: brackets) rest
    | '{' :: rest => skipValueFrom fuel .opened (.object :: brackets) rest
    | c :: rest =>
      if c.isDigit then do
        let (_, rest) ← skipUnsigned (c :: rest)
        skipValueFrom fuel .after brackets rest
      else .error .malformed
  | _ + 1, .after, [], text => .ok ((), text)
  | fuel + 1, state, bracket :: brackets, text =>
    match skipJsonBlanks text, bracket, state with
    | [], _, _ => .error .truncated
    | ']' :: rest, .list, _ => skipValueFrom fuel .after brackets rest
    | '}' :: rest, .object, _ => skipValueFrom fuel .after brackets rest
    | ',' :: rest, .list, .after => skipValueFrom fuel .value (bracket :: brackets) rest
    | ',' :: rest, .object, .after => skipValueFrom fuel .key (bracket :: brackets) rest
    | rest, .list, .opened => skipValueFrom fuel .value (bracket :: brackets) rest
    | rest, .object, .opened => skipValueFrom fuel .key (bracket :: brackets) rest
    | _, _, _ => .error .malformed
  | _ + 1, .opened, [], _ => .error .malformed

/-- Passes over one value of any depth. -/
def skipValue (text : List Char) : Except JsonFault (Unit × List Char) :=
  skipValueFrom (2 * text.length + 2) .value [] text

end CssInline.Options
