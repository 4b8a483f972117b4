import EndpointCatalog.Source.Pattern

namespace EndpointCatalog.Source.Grammar

open Source.Parser

structure Inside where
  nested : Nested
  depth : Nat
  block : Parser (List Stmt)

def importedName (path : Parser String) : Parser ImportedName := do
  let name ← path
  if ← takesWord "as" then return ⟨name, some (← Parser.name)⟩ else return ⟨name, none⟩

def importLevel : Parser Nat :=
  repeating (fun level => do
    if ← takesMark "." then return some (level + 1)
    else if ← takesMark "..." then return some (level + 3)
    else return none) 0

-- There are parentheses if a comma follows the last name.
def importFrom : Parser Stmt := do
  let level ← importLevel
  let path ← if ← seesWord "import" then pure none else some <$> dottedName
  if level = 0 && path.isNone then fail
  expectWord "import"
  let source : ImportSource := ⟨path, level⟩
  if ← takesMark "*" then return .importAll source
  else if ← takesMark "(" then
    let (names, _) ← commaList (importedName name)
    expectMark ")"
    return .importFrom source names
  else return .importFrom source (← commaSeparated (importedName name))

def assigned (nested : Nested) : Parser Expr := do
  if ← seesWord "yield" then return (← yieldExpression nested).expr
  else sub nested .expressionList

def augmentedMarks : List String :=
  ["+=", "-=", "*=", "@=", "/=", "%=", "&=", "|=", "^=", "<<=", ">>=", "**=", "//="]

def takesAugmented : Parser Bool := do
  match (← peek).kind with
  | .mark mark =>
    if augmentedMarks.contains mark then
      advance
      return true
    else return false
  | _ => return false

def expressionStatement (nested : Nested) : Parser Stmt := do
  let isYield ← seesWord "yield"
  let first ← assigned nested
  if ← seesMark "=" then
    let (targets, value) ← repeating (fun (targets, last) => do
      if ← takesMark "=" then
        if last.isTarget then return some (last :: targets, ← assigned nested) else fail
      else return none) ([], first)
    return .assign targets.reverse value
  else if ← seesMark ":" then
    if isYield || !first.isSingleTarget then fail
    else
      advance
      let _ ← nested .expression
      if ← takesMark "=" then return .annotated first (some (← assigned nested))
      else return .annotated first none
  else if ← takesAugmented then
    if first.isSingleTarget then return .augmented first (← assigned nested) else fail
  else return .expr first

def seesEnd : Parser Bool := do return (← seesMark ";") || (← sees .newline)

def simpleStatement (nested : Nested) : Parser Stmt := do
  match (← peek).kind with
  | .word "pass" | .word "break" | .word "continue" =>
    advance
    return .other
  | .word "return" =>
    advance
    if ← seesEnd then return .other
    else
      let _ ← nested .expressionList
      return .other
  | .word "raise" =>
    advance
    if ← seesEnd then return .other
    else
      let _ ← nested .expression
      if ← takesWord "from" then
        let _ ← nested .expression
      return .other
  | .word "global" | .word "nonlocal" =>
    advance
    let _ ← commaSeparated name
    return .other
  | .word "del" =>
    advance
    let (targets, _) ← commaList (do
      let target ← sub nested .primary
      if target.isDeletable then return target else fail)
    return .delete targets
  | .word "assert" =>
    advance
    let _ ← nested .expression
    if ← takesMark "," then
      let _ ← nested .expression
    return .other
  | .word "import" =>
    advance
    return .importModules (← commaSeparated (importedName dottedName))
  | .word "from" =>
    advance
    importFrom
  | _ => expressionStatement nested

def simpleStatements (nested : Nested) : Parser (List Stmt) := do
  let (statements, _) ← repeating (fun (statements, closed) => do
    if closed then return none
    else if ← takesMark ";" then
      if ← sees .newline then return some (statements, true)
      else return some ((← simpleStatement nested) :: statements, false)
    else return none) ([← simpleStatement nested], false)
  expect .newline
  return statements.reverse

def suite (inside : Inside) : Parser (List Stmt) := do
  expectMark ":"
  if ← takes .newline then
    expect .indent
    let statements ← inside.block
    expect .dedent
    return statements
  else simpleStatements inside.nested

def orElse (inside : Inside) : Parser (List Stmt) := do
  if ← takesWord "else" then suite inside else return []

-- Every further condition stands alone in the branch of the one before it.
def conditional (inside : Inside) : Parser Stmt := do
  expectWord "if"
  let test ← sub inside.nested .namedExpression
  let body ← suite inside
  let branches ← repeating (fun branches => do
    if ← takesWord "elif" then
      let test ← sub inside.nested .namedExpression
      return some ((test, ← suite inside) :: branches)
    else return none) []
  let last ← orElse inside
  let rest := branches.foldl (fun rest (test, body) => [Stmt.conditional test body rest]) last
  return .conditional test body rest

def whileLoop (inside : Inside) : Parser Stmt := do
  expectWord "while"
  let _ ← inside.nested .namedExpression
  let body ← suite inside
  return .loop none body (← orElse inside)

def forLoop (inside : Inside) : Parser Stmt := do
  expectWord "for"
  let target ← loopTarget inside.nested
  expectWord "in"
  let _ ← inside.nested .expressionList
  let body ← suite inside
  return .loop (some target) body (← orElse inside)

-- Either all handlers have a star or none has. A handler with a star names what it handles.
def handlers (inside : Inside) : Parser (Bool × List (Option String × List Stmt)) := do
  let group := (← peekAt 1).kind = .mark "*"
  let found ← repeating (fun found => do
    if ← takesWord "except" then
      if (← takesMark "*") ≠ group then fail
      if ← seesMark ":" then
        if group then fail else return some ((none, ← suite inside) :: found)
      else
        let _ ← inside.nested .expression
        let bound ← if ← takesWord "as" then some <$> name else pure none
        return some ((bound, ← suite inside) :: found)
    else return none) []
  return (group, found.reverse)

def attempt (inside : Inside) : Parser Stmt := do
  expectWord "try"
  let body ← suite inside
  if ← takesWord "finally" then return .attempt body [] [] (← suite inside)
  else
    let (group, found) ← handlers inside
    if found.isEmpty then fail
    let orelse ← orElse inside
    let final ← if ← takesWord "finally" then suite inside else pure []
    return if group then .attemptGroup body found orelse final else .attempt body found orelse final

def contextItem (nested : Nested) : Parser (Option Expr) := do
  let _ ← nested .expression
  if ← takesWord "as" then
    let starred ← takesMark "*"
    let target ← sub nested .primary
    if target.isTarget && ((← seesMark ",") || (← seesMark ")") || (← seesMark ":")) then
      return some (if starred then .starred target else target)
    else fail
  else return none

-- Parentheses around all contexts are tried first.
def context (inside : Inside) : Parser Stmt := do
  expectWord "with"
  let wrapped : Parser (List (Option Expr)) := do
    expectMark "("
    let (items, _) ← commaList (contextItem inside.nested)
    expectMark ")"
    if ← seesMark ":" then return items else fail
  let items ←
    match ← optional wrapped with
    | some items => pure items
    | none => commaSeparated (contextItem inside.nested)
  return .context (items.filterMap id) (← suite inside)

def functionDef (inside : Inside) (start : Nat) (isAsync : Bool) (decorators : List Decorator) :
    Parser Stmt := do
  expectWord "def"
  let name ← name
  expectMark "("
  let parameters ← parameters inside.nested true ")"
  expectMark ")"
  if ← takesMark "->" then
    let _ ← inside.nested .expression
  return .functionDef start isAsync name parameters decorators (← suite inside)

def classDef (inside : Inside) (start : Nat) (decorators : List Decorator) : Parser Stmt := do
  expectWord "class"
  let name ← name
  let passed ← if ← takesMark "(" then arguments inside.nested false else pure ⟨[], []⟩
  return .classDef start name passed.args decorators (← suite inside)

def decorators (nested : Nested) : Parser (List Decorator) := do
  let found ← repeating (fun found => do
    if ← takesMark "@" then
      let node ← nested .namedExpression
      expect .newline
      return some (⟨node.expr, node.line⟩ :: found)
    else return none) []
  return found.reverse

def decorated (inside : Inside) : Parser Stmt := do
  let decorators ← decorators inside.nested
  let start ← line
  if ← seesWord "class" then classDef inside start decorators
  else
    let isAsync ← takesWord "async"
    functionDef inside start isAsync decorators

def cases (inside : Inside) : Parser (List (List String × List Stmt)) := do
  let one : Parser (List String × List Stmt) := do
    expectWord "case"
    let bound ← casePattern inside.nested inside.depth
    if ← takesWord "if" then
      let _ ← inside.nested .namedExpression
    return (bound, ← suite inside)
  let found ← repeating (fun found => do
    if ← seesWord "case" then return some ((← one) :: found) else return none) [← one]
  return found.reverse

-- The keyword may also be a name, so that the whole header is tried before it counts.
def choice (inside : Inside) : Parser Stmt := do
  expectWord "match"
  let (items, several) ← commaList (displayItem inside.nested)
  match items, several with
  | [⟨.starred _, _⟩], false => fail
  | _, _ =>
    expectMark ":"
    expect .newline
    expect .indent
    let found ← cases inside
    expect .dedent
    return .choice found

def statement (inside : Inside) : Parser (List Stmt) := do
  match (← peek).kind with
  | .word "def" | .word "class" | .mark "@" => return [← decorated inside]
  | .word "if" => return [← conditional inside]
  | .word "for" => return [← forLoop inside]
  | .word "while" => return [← whileLoop inside]
  | .word "try" => return [← attempt inside]
  | .word "with" => return [← context inside]
  | .word "async" =>
    match (← peekAt 1).kind with
    | .word "for" =>
      advance
      return [← forLoop inside]
    | .word "with" =>
      advance
      return [← context inside]
    | _ => return [← decorated inside]
  | .word "match" =>
    match ← optional (choice inside) with
    | some found => return [found]
    | none => simpleStatements inside.nested
  | _ => simpleStatements inside.nested

def statements (inside : Inside) : Parser (List Stmt) := do
  let found ← repeating (fun found => do
    if (← sees .dedent) || (← sees .finish) then return none
    else return some ((← statement inside).reverse ++ found)) []
  return found.reverse

def blockTo (nested : Nested) (depth : Nat) : Nat → Parser (List Stmt)
  | 0 => fail
  | levels + 1 => statements ⟨nested, depth, blockTo nested depth levels⟩

def file (depth : Nat) : Parser (List Stmt) := do
  let found ← blockTo (nestedTo depth) depth (indentLimit + 1)
  expect .finish
  return found

end EndpointCatalog.Source.Grammar

namespace EndpointCatalog.Source

-- No construct nests deeper than the text is long.
def parse? (text : List Char) : Option (List Stmt) := do
  if text.contains (Char.ofNat 0) then none
  else
    let tokens ← tokens? text
    (Grammar.file (2 * text.length + 2)).run? tokens

end EndpointCatalog.Source
