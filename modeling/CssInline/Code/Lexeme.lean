import CssInline.Code.Cursor
import CssInline.Text.Hex

/-! Words, numbers, strings, templates and regular expressions as they stand in code. -/

namespace CssInline.Code

/-! Escapes -/

/-- A character by its code; a code that is no character gives the replacement character. -/
def charOfCode (code : Nat) : Char :=
  if code.isValidChar then Char.ofNat code else '\ufffd'

/-- The code after `\u`: four digits, or any number of them in braces. -/
def unicodeCode? : List Char → Option (Nat × List Char)
  | '{' :: rest =>
    let digits := rest.takeWhile (· != '\x7d')
    match rest.drop digits.length with
    | '}' :: after =>
      if digits.isEmpty then none
      else
        match Text.hexNumber? digits with
        | some code => if code ≤ 0x10ffff then some (code, after) else none
        | none => none
    | _ => none
  | a :: b :: c :: d :: rest => (Text.hexNumber? [a, b, c, d]).map fun code => (code, rest)
  | _ => none

/-- The character after `\u`. Two halves of a pair make one. -/
def unicodeChar? (text : List Char) : Option (Char × List Char) := do
  let (first, rest) ← unicodeCode? text
  if 0xd800 ≤ first ∧ first < 0xdc00 then
    match rest with
    | '\\' :: 'u' :: more =>
      match unicodeCode? more with
      | some (second, after) =>
        if 0xdc00 ≤ second ∧ second < 0xe000 then
          return (charOfCode (0x10000 + (first - 0xd800) * 0x400 + (second - 0xdc00)), after)
      | none => pure ()
    | _ => pure ()
  return (charOfCode first, rest)

def isOctalDigit (c : Char) : Bool :=
  '0' ≤ c && c ≤ '7'

/-- The digits of an octal escape: up to three, and two when the first is above three. -/
def octalDigits (text : List Char) : List Char :=
  let digits := text.takeWhile isOctalDigit
  if digits.head?.any (· ≤ '3') then digits.take 3 else digits.take 2

def octalValue (digits : List Char) : Nat :=
  digits.foldl (fun value digit => value * 8 + (digit.toNat - '0'.toNat)) 0

/-- What an escape after its backslash stands for. Octal ones are allowed in some places only. -/
def escape? (octal : Bool) : List Char → Option (List Char × List Char)
  | '\r' :: '\n' :: rest => some ([], rest)
  | 'n' :: rest => some (['\n'], rest)
  | 't' :: rest => some (['\t'], rest)
  | 'b' :: rest => some (['\x08'], rest)
  | 'v' :: rest => some (['\x0b'], rest)
  | 'f' :: rest => some (['\x0c'], rest)
  | 'r' :: rest => some (['\r'], rest)
  | 'x' :: a :: b :: rest => (Text.hexNumber? [a, b]).map fun code => ([charOfCode code], rest)
  | 'x' :: _ => none
  | 'u' :: rest => (unicodeChar? rest).map fun (c, after) => ([c], after)
  | c :: rest =>
    if isLineBreak c then some ([], rest)
    else if c = '0' ∧ !rest.head?.any Char.isDigit then some (['\x00'], rest)
    else if isOctalDigit c then
      let digits := octalDigits (c :: rest)
      if octal then some ([charOfCode (octalValue digits)], (c :: rest).drop digits.length)
      else none
    else if c.isDigit ∧ !octal then none
    else some ([c], rest)
  | [] => none

/-! Strings -/

/-- The value of a string from inside its quotes on, and what follows the closing one. -/
def stringValueFrom (octal : Bool) (quote : Char) :
    Nat → List Char → List Char → Option (List Char × List Char)
  | 0, _, _ => none
  | _ + 1, _, [] => none
  | fuel + 1, done, '\\' :: rest =>
    match escape? octal rest with
    | some (value, after) => stringValueFrom octal quote fuel (value.reverse ++ done) after
    | none => none
  | fuel + 1, done, c :: rest =>
    if c = quote then some (done.reverse, rest)
    else if c = '\n' ∨ c = '\r' then none
    else stringValueFrom octal quote fuel (c :: done) rest

structure StringLexeme where
  value : String
  raw : String

def stringLexeme? (octal : Bool) : List Char → Option (StringLexeme × Nat)
  | [] => none
  | quote :: rest =>
    if quote = '\x27' ∨ quote = '"' then
      (stringValueFrom octal quote (rest.length + 1) [] rest).map fun (value, after) =>
        let size := rest.length + 1 - after.length
        (⟨String.ofList value, String.ofList ((quote :: rest).take size)⟩, size)
    else none

/-! Templates -/

/-- The value of a template text; none if an escape in it is faulty. All line ends are line
feeds. -/
def cookFrom : Nat → List Char → List Char → Option (List Char)
  | 0, _, _ => none
  | _ + 1, done, [] => some done.reverse
  | fuel + 1, done, '\\' :: rest =>
    match escape? false rest with
    | some (value, after) => cookFrom fuel (value.reverse ++ done) after
    | none => none
  | fuel + 1, done, '\r' :: '\n' :: rest => cookFrom fuel ('\n' :: done) rest
  | fuel + 1, done, '\r' :: rest => cookFrom fuel ('\n' :: done) rest
  | fuel + 1, done, c :: rest => cookFrom fuel (c :: done) rest

def cook? (raw : List Char) : Option (List Char) :=
  cookFrom (raw.length + 1) [] raw

def quasiOf (raw : List Char) : Quasi :=
  ⟨String.ofList raw, (cook? raw).map String.ofList⟩

/-- The text up to the next interpolation or the end of the template. -/
def quasiText? : List Char → Option (List Char)
  | '\x60' :: _ => some []
  | '$' :: '{' :: _ => some []
  | '\\' :: c :: rest => (quasiText? rest).map fun text => '\\' :: c :: text
  | '\\' :: [] => none
  | c :: rest => (quasiText? rest).map fun text => c :: text
  | [] => none

/-! Numbers -/

/-- The length of a run of digits, which may hold single underscores between them. -/
def digitsLength? (isDigit : Char → Bool) (text : List Char) : Option Nat :=
  let run := text.takeWhile fun c => isDigit c || c == '_'
  let pairs := run.zip (run.drop 1)
  if run.head? == some '_' || run.getLast? == some '_' || pairs.contains ('_', '_') then none
  else some run.length

/-- The length of an exponent; zero if there is none. -/
def exponentLength? (text : List Char) : Option Nat :=
  match text with
  | e :: rest =>
    if e = 'e' ∨ e = 'E' then
      let sign := if rest.head? == some '+' || rest.head? == some '-' then 1 else 0
      match digitsLength? Char.isDigit (rest.drop sign) with
      | some 0 => none
      | some size => some (1 + sign + size)
      | none => none
    else some 0
  | [] => some 0

/-- The length of what may follow the whole part of a number. -/
def fractionLength? (text : List Char) : Option Nat := do
  match text with
  | '.' :: rest =>
    let size ← digitsLength? Char.isDigit rest
    let exponent ← exponentLength? (rest.drop size)
    return 1 + size + exponent
  | rest => exponentLength? rest

def bigSuffix (text : List Char) : Nat :=
  if text.head? == some 'n' then 1 else 0

def radixLength? (isDigit : Char → Bool) (rest : List Char) : Option Nat := do
  let size ← digitsLength? isDigit rest
  if size = 0 then none else return 2 + size + bigSuffix (rest.drop size)

/-- The length of a number. Numbers with a leading zero are allowed in some places only. -/
def numberSize? (octal : Bool) (text : List Char) : Option Nat := do
  match text with
  | '0' :: 'x' :: rest | '0' :: 'X' :: rest =>
    radixLength? (fun c => (Text.hexValue? c).isSome) rest
  | '0' :: 'o' :: rest | '0' :: 'O' :: rest => radixLength? isOctalDigit rest
  | '0' :: 'b' :: rest | '0' :: 'B' :: rest => radixLength? (fun c => c == '0' || c == '1') rest
  | '.' :: _ => fractionLength? text
  | '0' :: rest =>
    let digits := rest.takeWhile Char.isDigit
    if digits.isEmpty then
      if rest.head? == some '_' then none
      else if bigSuffix rest = 1 then return 2
      else return 1 + (← fractionLength? rest)
    else if !octal then none
    else if digits.all isOctalDigit then return 1 + digits.length
    else return 1 + digits.length + (← fractionLength? (rest.drop digits.length))
  | text =>
    let size ← digitsLength? Char.isDigit text
    if size = 0 then none
    else if bigSuffix (text.drop size) = 1 then return size + 1
    else return size + (← fractionLength? (text.drop size))

/-- A number must not run into a word or another number. -/
def numberLength? (octal : Bool) (text : List Char) : Option Nat := do
  let size ← numberSize? octal text
  match (text.drop size).head? with
  | some c => if Reader.isWordStart c || c.isDigit || c == '\\' then none else return size
  | none => return size

/-! Regular expressions -/

/-- The length of the body after the opening slash, with the closing one. A slash in a class of
characters does not close it. -/
def regexBodyLength? : Bool → List Char → Option Nat
  | _, [] => none
  | inClass, '\\' :: c :: rest =>
    if isLineBreak c then none else (regexBodyLength? inClass rest).map (· + 2)
  | inClass, c :: rest =>
    if isLineBreak c then none
    else if c = '/' ∧ !inClass then some 1
    else if c = '[' then (regexBodyLength? true rest).map (· + 1)
    else if c = ']' then (regexBodyLength? false rest).map (· + 1)
    else (regexBodyLength? inClass rest).map (· + 1)

def areRegexFlags (flags : List Char) : Bool :=
  flags.all (fun flag => "dgimsuvy".toList.contains flag) &&
    flags.all (fun flag => flags.count flag == 1)

def regexLength? (text : List Char) : Option Nat := do
  match text with
  | '/' :: rest =>
    let size := 1 + (← regexBodyLength? false rest)
    let flags := (text.drop size).takeWhile Reader.isWordRest
    if areRegexFlags flags then return size + flags.length else none
  | _ => none

/-! Words -/

/-- A name or a keyword. With an escape in it, it is no keyword. -/
structure Word where
  text : String
  escaped : Bool
  /-- The number of characters it is written with. -/
  size : Nat

/-- The word so far, last character first, and whether it holds an escape. -/
def wordFrom : Nat → List Char → List Char → Bool → Option (List Char × List Char × Bool)
  | 0, _, _, _ => none
  | fuel + 1, done, '\\' :: 'u' :: rest, _ =>
    match unicodeCode? rest with
    | some (code, after) =>
      let c := charOfCode code
      if (if done.isEmpty then Reader.isWordStart c else Reader.isWordRest c) then
        wordFrom fuel (c :: done) after true
      else none
    | none => none
  | fuel + 1, done, c :: rest, escaped =>
    if (if done.isEmpty then Reader.isWordStart c else Reader.isWordRest c) then
      wordFrom fuel (c :: done) rest escaped
    else some (done.reverse, c :: rest, escaped)
  | _ + 1, done, [], escaped => some (done.reverse, [], escaped)

def wordOf? (text : List Char) : Option Word :=
  match wordFrom (text.length + 1) [] text false with
  | some (name, after, escaped) =>
    if name.isEmpty then none
    else some ⟨String.ofList name, escaped, text.length - after.length⟩
  | none => none

namespace Reader

def word? : Reader (Option Word) := do
  return wordOf? (← remaining)

def keyword? : Reader (Option String) := do
  match ← word? with
  | some word => return if word.escaped then none else some word.text
  | none => return none

def atWord (text : String) : Reader Bool := do
  return (← keyword?) == some text

def acceptWord (text : String) : Reader Bool := do
  if ← atWord text then
    pass text.length
    return true
  else return false

def expectWord (text : String) : Reader Unit := do
  require (← acceptWord text)

def anyWord : Reader Word := do
  let word ← ofOption (← word?)
  pass word.size
  return word

def quotedString (octal : Bool) : Reader StringLexeme := do
  let (lexeme, size) ← ofOption (stringLexeme? octal (← remaining))
  pass size
  return lexeme

def number (octal : Bool) : Reader String := do
  let text ← remaining
  let size ← ofOption (numberLength? octal text)
  pass size
  return String.ofList (text.take size)

def regex : Reader String := do
  let text ← remaining
  let size ← ofOption (regexLength? text)
  pass size
  return String.ofList (text.take size)

def quasi : Reader Quasi := do
  let raw ← ofOption (quasiText? (← remaining))
  advance raw.length
  return quasiOf raw

end Reader

end CssInline.Code
