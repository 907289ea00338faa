import CssInline.Code.Literal
import CssInline.Code.Tree

/-! How trees are written out. -/

namespace CssInline.Code

open Layout

/-! Parts that decide how their neighbours are written -/

def Tree.isAbsent (tree : Tree) : Bool :=
  match tree.form with
  | .absent => true
  | _ => false

def Tree.isBlock (tree : Tree) : Bool :=
  match tree.form with
  | .block => true
  | _ => false

def Tree.isElision (tree : Tree) : Bool :=
  match tree.form with
  | .elision => true
  | _ => false

def Tree.isComputed (tree : Tree) : Bool :=
  match tree.form with
  | .computed => true
  | _ => false

/-- A list that ends in an elision needs a comma after it. -/
def endsInElision (parts : List Tree) : Bool :=
  parts.getLast?.any Tree.isElision

/-- Whether a dot right after the number would be read as part of it. -/
def needsSecondDot (raw : List Char) : Bool :=
  let digits := raw.filter (· != '_')
  raw.head?.any Char.isDigit && digits.all Char.isDigit &&
    !(2 ≤ digits.length && digits.head? == some '0')

/-- What stands between an object and a property that is accessed by it. -/
def memberMark (chain : Chain) (object property : Tree) : String :=
  match chain, property.isComputed, object.form with
  | .optional, _, _ => "?."
  | _, true, _ => ""
  | _, false, .literal raw => if needsSecondDot raw.toList then ".." else "."
  | _, false, _ => "."

/-- Whether the operator would run together with the one that opens its operand. -/
def clashes (operator : String) (operand : Tree) : Bool :=
  match operand.form with
  | .unary inner => inner == operator && (operator == "+" || operator == "-")
  | .update inner true => inner == operator ++ operator
  | _ => false

/-- Operators that are words stand apart from their operands. -/
def isWordOperator (operator : String) : Bool :=
  operator == "typeof" || operator == "void" || operator == "delete"

/-! Lists -/

def inBraces (layouts : List Layout) : Layout :=
  if layouts.isEmpty then text "\x7b\x7d"
  else text "\x7b " ++ commas layouts ++ text " \x7d"

def lines (layouts : List Layout) : Layout :=
  indented (join line layouts)

def blockLayout (layouts : List Layout) : Layout :=
  text "\x7b" ++ (if layouts.isEmpty then [] else lines layouts) ++ text "\x7d"

/-- One item a line, with commas between them and perhaps one more at the end. -/
def commaLines (layouts : List Layout) (extraComma : Bool) : Layout :=
  if layouts.isEmpty then []
  else indented (join (text "," ++ line) layouts ++ text (if extraComma then "," else ""))

/-! Templates -/

/-- All line ends as line feeds. -/
def unixLineEnds : List Char → List Char
  | '\r' :: '\n' :: rest => '\n' :: unixLineEnds rest
  | '\r' :: rest => '\n' :: unixLineEnds rest
  | c :: rest => c :: unixLineEnds rest
  | [] => []

def templateParts : List String → List Layout → Layout
  | [], _ => []
  | quasi :: quasis, hole :: holes =>
    text quasi ++ text "$\x7b" ++ hole ++ text "\x7d" ++ templateParts quasis holes
  | quasi :: quasis, [] => text quasi ++ templateParts quasis []

def templateLayout (quasis : List String) (holes : List Layout) : Layout :=
  text "`" ++ templateParts quasis holes ++ text "`"

/-! Pieces of declarations -/

def word (condition : Bool) (value : String) : Layout :=
  text (if condition then value else "")

/-- A layout with `before` in front of it, if there is one. -/
def after (before : String) (layout : Layout) : Layout :=
  if layout.isEmpty then [] else text before ++ layout

def commentLayout (comment : Comment) : Layout :=
  if comment.isLine then text ("//" ++ comment.text) ++ line
  else text ("/*" ++ comment.text ++ "*/ ")

def specifierLayout (specifier : Specifier) : Layout :=
  word specifier.typeOnly "type " ++ text specifier.name ++
    text (specifier.alias?.elim "" (" as " ++ ·))

/-- The default name, the namespace, and the names in braces, as far as there are any. -/
def importedNames (clause : ImportClause) : List Layout :=
  clause.default?.toList.map text ++
    clause.whole?.toList.map (fun space => text ("* as " ++ space)) ++
    if clause.names.isEmpty then [] else [inBraces (clause.names.map specifierLayout)]

def importLayout (clause : ImportClause) : Layout :=
  text "import " ++ word clause.typeOnly "type " ++ commas (importedNames clause) ++
    word (!(importedNames clause).isEmpty) " from " ++ text clause.rawSource ++ text ";" ++ line

def exportLayout (clause : ExportClause) : Layout :=
  text "export " ++ word clause.typeOnly "type " ++
    inBraces (clause.names.map specifierLayout) ++
    text (clause.rawSource?.elim "" (" from " ++ ·)) ++ text ";" ++ line

def labelLayout (keyword : String) (label : Option String) : Layout :=
  text keyword ++ text (label.elim "" (" " ++ ·)) ++ text ";" ++ line

def signature (types parameters result : Layout) : Layout :=
  types ++ text "(" ++ parameters ++ text ")" ++ after ": " result

/-- How a node is written, given its parts and how they are written. A node whose parts do not
fit its form is written as its parts one after the other. -/
def arrange (form : Form) (parts : List Tree) (printed : List Layout) : Layout :=
  match form, parts, printed with
  | .absent, _, _ => []
  | .type layout, _, _ => layout

  | .name id, _, _ => text id
  | .string value raw, _, _ =>
    text (raw.getD (String.ofList (stringLiteral value.toList)))
  | .literal raw, _, _ => text raw
  | .thisKeyword, _, _ => text "this"
  | .superKeyword, _, _ => text "super"
  | .importKeyword, _, _ => text "import"
  | .metaProperty value, _, _ => text value
  | .paren, _, printed => text "(" ++ printed.flatten ++ text ")"
  | .array, parts, printed =>
    text "[" ++ commaLines printed (endsInElision parts) ++ text "]"
  | .elision, _, _ => []
  | .spread, _, printed => text "..." ++ printed.flatten
  | .object, _, printed => text "\x7b" ++ commaLines printed false ++ text "\x7d"
  | .template quasis, _, printed =>
    templateLayout
      (quasis.map fun quasi => String.ofList (unixLineEnds quasi.raw.toList)) printed
  | .tagged _ quasis, _, tag :: types :: holes =>
    tag ++ types ++ templateLayout (quasis.map Quasi.raw) holes
  | .member chain, [object, property], [left, right] =>
    left ++ text (memberMark chain object property) ++ right
  | .superMember, [property], [right] =>
    text "super" ++ word (!property.isComputed) "." ++ right
  | .call chain, _, callee :: types :: arguments =>
    callee ++ word (chain == .optional) "?." ++ types ++ text "(" ++ commas arguments ++ text ")"
  | .new hasArguments, _, callee :: types :: arguments =>
    text "new " ++ callee ++ types ++
      if hasArguments then text "(" ++ commas arguments ++ text ")" else []
  | .unary operator, [operand], [layout] =>
    text operator ++ word (isWordOperator operator || clashes operator operand) " " ++ layout
  | .update operator before, _, printed =>
    word before operator ++ printed.flatten ++ word (!before) operator
  | .binary operator, _, [left, right] => left ++ text (" " ++ operator ++ " ") ++ right
  | .assign operator, _, [left, right] => left ++ text (" " ++ operator ++ " ") ++ right
  | .conditional, _, [test, consequent, alternative] =>
    test ++ text " ? " ++ consequent ++ text " : " ++ alternative
  | .sequence, _, printed => commas printed
  | .await, _, printed => text "await " ++ printed.flatten
  | .yield delegates, _, printed =>
    text "yield" ++ word delegates "*" ++ after " " printed.flatten
  | .function name isAsync isGenerator, _, printed =>
    word isAsync "async " ++ text "function" ++ word isGenerator "*" ++
      text (name.elim "" (" " ++ ·)) ++ printed.flatten
  | .arrow isAsync, [_, _, _, body], [types, parameters, result, layout] =>
    word isAsync "async " ++ signature types parameters result ++ word (!result.isEmpty) " " ++
      text "=>" ++ if body.isBlock then layout else .deeper :: layout ++ [.shallower]
  | .classLike name, _, [types, body, superclass, arguments, interfaces] =>
    text "class" ++ text (name.elim "" (" " ++ ·)) ++ types ++
      after " extends " (superclass ++ arguments) ++ after " implements " interfaces ++
      text " " ++ body
  | .cast operator, _, [operand, type] => operand ++ text (" " ++ operator ++ " ") ++ type
  | .assertion, _, [type, operand] => text "<" ++ type ++ text ">" ++ operand
  | .nonNull, _, printed => printed.flatten ++ text "!"

  | .shorthand id, _, _ => text id
  | .initialized id, _, printed => text (id ++ " = ") ++ printed.flatten
  | .pair, _, [key, value] => key ++ text ": " ++ value
  | .method isAsync isGenerator, _, [key, callable] =>
    word isAsync "async " ++ word isGenerator "*" ++ key ++ text " " ++ callable
  | .getter, _, [key, callable] => text "get " ++ key ++ text " " ++ callable
  | .setter, _, [key, callable] => text "set " ++ key ++ text " " ++ callable
  | .keyName id, _, _ => text id
  | .keyString value raw, _, _ =>
    text (raw.getD (String.ofList (stringLiteral value.toList)))
  | .keyNumber raw, _, _ => text raw
  | .computed, _, printed => text "[" ++ printed.flatten ++ text "]"
  | .memberName id, _, _ => text id
  | .fixedName id, _, _ => text id
  | .privateName id, _, _ => text ("#" ++ id)

  | .callable tight, [_, _, _, body], [types, parameters, result, layout] =>
    signature types parameters result ++
      if body.isAbsent then text ";" else word (!tight) " " ++ layout
  | .parameters, _, printed => commas printed
  | .binding id, _, _ => text id
  | .arrayPattern, parts, printed =>
    text "[" ++ commas printed ++ word (endsInElision parts) "," ++ text "]"
  | .objectPattern, _, printed => inBraces printed
  | .patternPair, _, [key, value] => key ++ text ": " ++ value
  | .patternShorthand id, _, printed => text id ++ after " = " printed.flatten
  | .rest, _, printed => text "..." ++ printed.flatten
  | .defaulted, _, [pattern, value] => pattern ++ text " = " ++ value
  | .annotated isOptional, _, [pattern, type] =>
    pattern ++ word isOptional "?" ++ after ": " type
  | .modified words, _, printed => text words ++ printed.flatten

  | .classBody, _, printed => text "\x7b" ++ lines printed ++ text "\x7d"
  | .classMethod words, _, printed => text words ++ printed.flatten
  | .constructor words, _, printed => text words ++ text "constructor" ++ printed.flatten
  | .classField words mark, _, [key, type, value] =>
    text words ++ key ++ text mark ++ after ": " type ++ after " = " value ++ text ";"
  | .staticBlock, _, printed => text "static" ++ blockLayout printed

  | .element name, [attributes, children], [opening, content] =>
    text ("<" ++ name) ++ word (!attributes.parts.isEmpty) " " ++ opening ++
      if children.isAbsent then text "/>" else text ">" ++ content ++ text ("</" ++ name ++ ">")
  | .attributes, _, printed => join (text " ") printed
  | .children, _, printed => printed.flatten
  | .attribute name, _, printed => text name ++ after "=" printed.flatten
  | .markupSpread, _, printed => text "\x7b..." ++ printed.flatten ++ text "\x7d"
  | .markupText raw, _, _ => text raw
  | .container, _, printed => text "\x7b" ++ printed.flatten ++ text "\x7d"

  | .expressionStatement, _, printed => printed.flatten ++ text ";" ++ line
  | .variableStatement, _, printed => printed.flatten ++ text ";" ++ line
  | .variables keyword, _, printed => text (keyword ++ " ") ++ commas printed
  | .declarator, _, [pattern, value] => pattern ++ after " = " value
  | .declaration, _, printed => printed.flatten ++ line
  | .block, _, printed => blockLayout printed
  | .emptyStatement, _, _ => text ";" ++ line
  | .debugger, _, _ => text "debugger;" ++ line
  | .returnStatement, _, printed => text "return" ++ after " " printed.flatten ++ text ";" ++ line
  | .throwStatement, _, printed => text "throw " ++ printed.flatten ++ text ";" ++ line
  | .breakStatement label, _, _ => labelLayout "break" label
  | .continueStatement label, _, _ => labelLayout "continue" label
  | .ifStatement, [_, consequent, _], [test, layout, alternative] =>
    text "if (" ++ test ++ text ") " ++ layout ++
      after (if consequent.isBlock then " else " else "else ") alternative ++ line
  | .forLoop, _, [init, test, update, body] =>
    text "for(" ++ init ++ text ";" ++ after " " test ++ text ";" ++ after " " update ++
      text ")" ++ body ++ line
  | .forIn, _, [left, right, body] =>
    text "for(" ++ left ++ text " in " ++ right ++ text ")" ++ body ++ line
  | .forOf isAwait, _, [left, right, body] =>
    text "for " ++ word isAwait "await " ++ text "(" ++ left ++ text " of " ++ right ++
      text ")" ++ body ++ line
  | .whileLoop, _, [test, body] => text "while(" ++ test ++ text ")" ++ body ++ line
  | .doWhile, _, [test, body] =>
    text "do " ++ body ++ text "while (" ++ test ++ text ")" ++ line
  | .labeled label, _, printed => text (label ++ ": ") ++ printed.flatten ++ line
  | .switchStatement, _, subject :: cases =>
    text "switch(" ++ subject ++ text ")\x7b" ++ lines cases ++ text "\x7d" ++ line
  | .caseClause, _, test :: statements =>
    (if test.isEmpty then text "default" else text "case " ++ test) ++ text ":" ++
      if statements.isEmpty then []
      else .deeper :: .line :: join line statements ++ [.shallower]
  | .tryStatement, _, [block, handler, finalizer] =>
    text "try " ++ block ++ after " " handler ++ after " finally" finalizer ++ line
  | .catchClause, _, [parameter, block] =>
    text "catch " ++ after "(" parameter ++ word (!parameter.isEmpty) ")" ++ text " " ++ block
  | .withStatement, _, [object, body] =>
    text "with (" ++ object ++ text ")" ++ body ++ line
  | .commented comments, _, printed => comments.flatMap commentLayout ++ printed.flatten

  | .importItem clause, _, _ => importLayout clause
  | .exportNames clause, _, _ => exportLayout clause
  | .exportAll name rawSource, _, _ =>
    text "export *" ++ text (name.elim "" (" as " ++ ·)) ++
      text (" from " ++ rawSource ++ ";") ++ line
  | .exportDeclaration, _, printed => text "export " ++ printed.flatten
  | .exportDefault, _, printed => text "export default " ++ printed.flatten ++ text ";" ++ line
  | .exportDefaultDeclaration, _, printed => text "export default " ++ printed.flatten ++ line

  | .plain layout, _, _ => layout ++ line
  | .enum words name, _, printed =>
    text (words ++ "enum " ++ name ++ " \x7b") ++ commaLines printed false ++ text "\x7d" ++ line
  | .enumMember name, _, printed => text name ++ after " = " printed.flatten
  | .namespaceBlock words, _, printed =>
    text (words ++ " \x7b") ++ lines printed ++ text "\x7d" ++ line
  | .declare, _, printed => text "declare " ++ printed.flatten

  | _, _, printed => printed.flatten

mutual

def Tree.layout : Tree → Layout
  | .node form parts => arrange form parts (layouts parts)

def layouts : List Tree → List Layout
  | [] => []
  | tree :: trees => tree.layout :: layouts trees

end

def Tree.print (tree : Tree) : String :=
  tree.layout.write

end CssInline.Code
