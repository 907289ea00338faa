import CssInline.Text.JsonString

/-! String literals that are written from their values. -/

namespace CssInline.Code

/-- The double quote, unless the text holds more double quotes than single ones. -/
def quoteFor (text : List Char) : Char :=
  if text.count '\x27' < text.count '"' then '\x27' else '"'

/-- Characters with an escape of one letter. -/
def letterEscape? (c : Char) : Option Char :=
  match c with
  | '\\' => some '\\'
  | '\n' => some 'n'
  | '\r' => some 'r'
  | '\x08' => some 'b'
  | '\x0c' => some 'f'
  | '\x0b' => some 'v'
  | _ => none

/-- Separators and the byte order mark, written by their code. -/
def unicodeEscape? (c : Char) : Option (List Char) :=
  match c with
  | '\u2028' => some "\\u2028".toList
  | '\u2029' => some "\\u2029".toList
  | '\ufeff' => some "\\uFEFF".toList
  | _ => none

/-- One character of a literal before `rest`. The short escape for NUL would read a digit after
it. -/
def literalChar (quote c : Char) (rest : List Char) : List Char :=
  if c = quote then ['\\', c]
  else if c = '\x00' then
    if rest.head?.any Char.isDigit then "\\x00".toList else ['\\', '0']
  else
    match letterEscape? c, unicodeEscape? c with
    | some letter, _ => ['\\', letter]
    | none, some escape => escape
    | none, none =>
      if c.toNat < 0x20 ∧ c ≠ '\t' then
        ['\\', 'x', Text.hexDigit (c.toNat / 16), Text.hexDigit (c.toNat % 16)]
      else [c]

def literalBody (quote : Char) : List Char → List Char
  | [] => []
  | c :: rest => literalChar quote c rest ++ literalBody quote rest

def stringLiteral (text : List Char) : List Char :=
  let quote := quoteFor text
  quote :: literalBody quote text ++ [quote]

end CssInline.Code
