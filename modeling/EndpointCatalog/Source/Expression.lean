import EndpointCatalog.Source.Parser
import EndpointCatalog.Source.FormatString

namespace EndpointCatalog.Source

structure Node where
  expr : Expr
  line : Nat
  deriving Inhabited

inductive Rule where
  | expression
  | namedExpression
  | expressionList
  | disjunction
  | inversion
  | operands
  | factor
  | primary
  deriving DecidableEq, Repr

abbrev Nested := Rule → Parser Node

namespace Expr

mutual

-- A star may stand in front of what is assigned.
def isTarget : Expr → Bool
  | .name _ | .attribute _ _ | .subscript _ _ => true
  | .starred value => isTarget value
  | .tuple items | .list items => areTargets items
  | _ => false

def areTargets : List Expr → Bool
  | [] => true
  | item :: items => item.isTarget && areTargets items

end

def isSingleTarget : Expr → Bool
  | .name _ | .attribute _ _ | .subscript _ _ => true
  | _ => false

mutual

def isDeletable : Expr → Bool
  | .name _ | .attribute _ _ | .subscript _ _ => true
  | .tuple items | .list items => areDeletable items
  | _ => false

def areDeletable : List Expr → Bool
  | [] => true
  | item :: items => item.isDeletable && areDeletable items

end

end Expr

namespace Grammar

open Source.Parser

def sub (nested : Nested) (rule : Rule) : Parser Expr := do return (← nested rule).expr

def yieldExpression (nested : Nested) : Parser Node := do
  let line ← line
  expectWord "yield"
  if ← takesWord "from" then
    let _ ← nested .expression
    return ⟨.computed, line⟩
  else
    let _ ← optional (nested .expressionList)
    return ⟨.computed, line⟩

def displayItem (nested : Nested) : Parser Node := do
  let line ← line
  if ← takesMark "*" then return ⟨.starred (← sub nested .operands), line⟩
  else nested .namedExpression

def loopTarget (nested : Nested) : Parser Expr := do
  let item : Parser Expr := do
    let starred ← takesMark "*"
    let target ← sub nested .primary
    if target.isTarget then return (if starred then .starred target else target) else fail
  let (items, several) ← commaList item
  match items, several with
  | [item], false => return item
  | _, _ => return .tuple items

def seesClause : Parser Bool := do
  if ← seesWord "for" then return true
  else return (← seesWord "async") && (← peekAt 1).kind = .word "for"

def clauses (nested : Nested) : Parser Unit := do
  let clause : Parser Unit := do
    let _ ← takesWord "async"
    expectWord "for"
    let _ ← loopTarget nested
    expectWord "in"
    let _ ← nested .disjunction
    repeating (fun _ => do
      if ← takesWord "if" then
        let _ ← nested .disjunction
        return some ()
      else return none) ()
  clause
  repeating (fun _ => do
    if ← seesClause then
      clause
      return some ()
    else return none) ()

-- One expression in parentheses keeps its own line.
def parenthesised (nested : Nested) : Parser Node := do
  let start ← line
  expectMark "("
  if ← takesMark ")" then return ⟨.tuple [], start⟩
  else if ← seesWord "yield" then
    let node ← yieldExpression nested
    expectMark ")"
    return node
  else
    let first ← displayItem nested
    if ← seesClause then
      match first.expr with
      | .starred _ => fail
      | _ =>
        clauses nested
        expectMark ")"
        return ⟨.computed, start⟩
    else if ← takesMark "," then
      let rest ← optional (commaList (displayItem nested))
      expectMark ")"
      return ⟨.tuple (first.expr :: (rest.getD ([], false)).1.map (·.expr)), start⟩
    else
      expectMark ")"
      match first.expr with
      | .starred _ => fail
      | _ => return first

def bracketed (nested : Nested) : Parser Node := do
  let start ← line
  expectMark "["
  if ← takesMark "]" then return ⟨.list [], start⟩
  else
    let first ← displayItem nested
    if ← seesClause then
      match first.expr with
      | .starred _ => fail
      | _ =>
        clauses nested
        expectMark "]"
        return ⟨.computed, start⟩
    else
      let rest ← if ← takesMark "," then optional (commaList (displayItem nested)) else pure none
      expectMark "]"
      return ⟨.list (first.expr :: (rest.getD ([], false)).1.map (·.expr)), start⟩

def entry (nested : Nested) : Parser (Option Expr × Expr) := do
  if ← takesMark "**" then return (none, ← sub nested .operands)
  else
    let key ← sub nested .expression
    expectMark ":"
    return (some key, ← sub nested .expression)

-- The first item decides between a dictionary and a set.
def braced (nested : Nested) : Parser Node := do
  let start ← line
  expectMark "\x7b"
  if ← takesMark "\x7d" then return ⟨.dict [], start⟩
  else if ← seesMark "**" then
    let (entries, _) ← commaList (entry nested)
    expectMark "\x7d"
    return ⟨.dict entries, start⟩
  else
    let first ← displayItem nested
    if ← takesMark ":" then
      match first.expr with
      | .starred _ | .named _ _ => fail
      | key =>
        let value ← sub nested .expression
        if ← seesClause then
          clauses nested
          expectMark "\x7d"
          return ⟨.computed, start⟩
        else
          let rest ← if ← takesMark "," then optional (commaList (entry nested)) else pure none
          expectMark "\x7d"
          return ⟨.dict ((some key, value) :: (rest.getD ([], false)).1), start⟩
    else if ← seesClause then
      match first.expr with
      | .starred _ => fail
      | _ =>
        clauses nested
        expectMark "\x7d"
        return ⟨.computed, start⟩
    else
      let rest ← if ← takesMark "," then optional (commaList (displayItem nested)) else pure none
      expectMark "\x7d"
      return ⟨.set (first.expr :: (rest.getD ([], false)).1.map (·.expr)), start⟩

-- Adjacent tokens are all bytes or all text; with a format string among them the value is only
-- known at run time.
def stringExpr? (nested : Nested) (parts : List StringToken) : Option Expr :=
  if parts.all (·.isBytes) then do
    let pieces ← parts.mapM fun part => decodeBytes? part.isRaw part.body
    return .constant (.bytes pieces.flatten)
  else if parts.any (·.isBytes) then none
  else do
    let pieces ← parts.mapM fun part =>
      if part.isFormat then do
        let expressions ← formatExpressions? part.isRaw part.body
        let _ ← expressions.mapM fun text => do
          let tokens ← tokens? ('(' :: text ++ [')'])
          (nested .expressionList).run? tokens
        return []
      else decodeText? part.isRaw part.body
    if parts.any (·.isFormat) then return .computed
    else return .constant (.str pieces.flatten)

def strings (nested : Nested) : Parser Expr := do
  let parts ← repeating (fun parts => do
    match (← peek).kind with
    | .string text =>
      advance
      return some (StringToken.ofText text :: parts)
    | _ => return none) []
  match stringExpr? nested parts.reverse with
  | some expr => return expr
  | none => fail

def atom (nested : Nested) : Parser Node := do
  let token ← peek
  match token.kind with
  | .word "True" =>
    advance
    return ⟨.constant (.bool true), token.line⟩
  | .word "False" =>
    advance
    return ⟨.constant (.bool false), token.line⟩
  | .word "None" =>
    advance
    return ⟨.constant .nothing, token.line⟩
  | .word _ => return ⟨.name (← name), token.line⟩
  | .number text =>
    advance
    match numberAtom? text with
    | some value => return ⟨.constant value, token.line⟩
    | none => fail
  | .string _ => return ⟨← strings nested, token.line⟩
  | .mark "..." =>
    advance
    return ⟨.constant .ellipsis, token.line⟩
  | .mark "(" => parenthesised nested
  | .mark "[" => bracketed nested
  | .mark "\x7b" => braced nested
  | _ => fail

structure Arguments where
  args : List Expr
  keywords : List (Option String × Expr)

inductive ArgumentPhase where
  | positional
  | keyword
  | unpacked
  deriving DecidableEq

-- A name in front of an equals sign is a keyword; only stars follow keywords.
def argument (nested : Nested) (phase : ArgumentPhase) (done : Arguments) :
    Parser (ArgumentPhase × Arguments) := do
  if ← takesMark "**" then
    let value ← sub nested .expression
    return (.unpacked, { done with keywords := (none, value) :: done.keywords })
  else if ← takesMark "*" then
    if phase = .unpacked then fail
    else return (phase, { done with args := .starred (← sub nested .expression) :: done.args })
  else if (← seesName) && (← peekAt 1).kind = .mark "=" then
    let key ← name
    expectMark "="
    let value ← sub nested .expression
    let next := if phase = .positional then .keyword else phase
    return (next, { done with keywords := (some key, value) :: done.keywords })
  else if phase = .positional then
    return (phase, { done with args := (← sub nested .namedExpression) :: done.args })
  else fail

def arguments (nested : Nested) (generator : Bool) : Parser Arguments := do
  if ← takesMark ")" then return ⟨[], []⟩
  else
    let first ← argument nested .positional ⟨[], []⟩
    if generator && (← seesClause) then
      match first.2.args with
      | [.starred _] => fail
      | [_] =>
        clauses nested
        expectMark ")"
        return ⟨[.computed], []⟩
      | _ => fail
    else
      let (_, done, _) ← repeating (fun (phase, done, closed) => do
        if closed then return none
        else if ← takesMark "," then
          if ← seesMark ")" then return some (phase, done, true)
          else
            let (phase, done) ← argument nested phase done
            return some (phase, done, false)
        else return none) (first.1, first.2, false)
      expectMark ")"
      return ⟨done.args.reverse, done.keywords.reverse⟩

def slice (nested : Nested) : Parser Expr := do
  let part : Parser Unit := do
    let _ ← optional (nested .expression)
  let tail : Parser Expr := do
    part
    if ← takesMark ":" then part
    return .computed
  if ← takesMark ":" then tail
  else
    let first ← sub nested .namedExpression
    if ← takesMark ":" then
      match first with
      | .named _ _ => fail
      | _ => tail
    else return first

def index (nested : Nested) : Parser Expr := do
  let item : Parser Expr := do
    if ← takesMark "*" then return .starred (← sub nested .expression) else slice nested
  let (items, several) ← commaList item
  match items, several with
  | [.starred value], false => return .tuple [.starred value]
  | [item], false => return item
  | _, _ => return .tuple items

def primary (nested : Nested) : Parser Node := do
  let start ← line
  let first ← atom nested
  let (expr, plain) ← repeating (fun (expr, _) => do
    if ← takesMark "." then return some (Expr.attribute expr (← name), false)
    else if ← takesMark "(" then
      let passed ← arguments nested true
      return some (.call expr passed.args passed.keywords, false)
    else if ← takesMark "[" then
      let index ← index nested
      expectMark "]"
      return some (.subscript expr index, false)
    else return none) (first.expr, true)
  return ⟨expr, if plain then first.line else start⟩

-- Powers are apart, with a strength of their own.
def operator? : TokenKind → Option (Nat × BinaryOp)
  | .mark "|" => some (1, .other)
  | .mark "^" => some (2, .other)
  | .mark "&" => some (3, .other)
  | .mark "<<" => some (4, .other)
  | .mark ">>" => some (4, .other)
  | .mark "+" => some (5, .add)
  | .mark "-" => some (5, .sub)
  | .mark "*" => some (6, .other)
  | .mark "/" => some (6, .other)
  | .mark "//" => some (6, .other)
  | .mark "%" => some (6, .other)
  | .mark "@" => some (6, .other)
  | _ => none

def sign? : TokenKind → Option UnaryOp
  | .mark "+" => some .plus
  | .mark "-" => some .minus
  | .mark "~" => some .invert
  | _ => none

def factor (nested : Nested) : Parser Node := do
  let token ← peek
  match sign? token.kind with
  | some op =>
    advance
    return ⟨.unary op (← sub nested .factor), token.line⟩
  | none =>
    let awaits ← takesWord "await"
    let base ← primary nested
    let base := if awaits then ⟨.computed, token.line⟩ else base
    if ← takesMark "**" then return ⟨.binary .other base.expr (← sub nested .factor), token.line⟩
    else return base

-- Operands are grouped to the left; `levels` counts the strengths above the given one.
def operandsFrom (nested : Nested) : Nat → Nat → Parser Node
  | 0, _ => factor nested
  | levels + 1, strength => do
    let start ← line
    let first ← operandsFrom nested levels (strength + 1)
    repeating (fun left => do
      match operator? (← peek).kind with
      | some (found, op) =>
        if found = strength then
          advance
          let right ← operandsFrom nested levels (strength + 1)
          return some ⟨.binary op left.expr right.expr, start⟩
        else return none
      | none => return none) first

def operands (nested : Nested) : Parser Node := operandsFrom nested 6 1

def comparison? : Parser Bool := do
  match (← peek).kind with
  | .mark "==" | .mark "!=" | .mark "<" | .mark "<=" | .mark ">" | .mark ">=" | .word "in" =>
    advance
    return true
  | .word "is" =>
    advance
    let _ ← takesWord "not"
    return true
  | .word "not" =>
    if (← peekAt 1).kind = .word "in" then
      advance
      advance
      return true
    else return false
  | _ => return false

def comparison (nested : Nested) : Parser Node := do
  let start ← line
  let first ← operands nested
  repeating (fun _ => do
    if ← comparison? then
      let _ ← operands nested
      return some ⟨.computed, start⟩
    else return none) first

def inversion (nested : Nested) : Parser Node := do
  let start ← line
  if ← takesWord "not" then return ⟨.unary .not (← sub nested .inversion), start⟩
  else comparison nested

def joinedBy (word : String) (operand : Parser Node) : Parser Node := do
  let start ← line
  let first ← operand
  repeating (fun _ => do
    if ← takesWord word then
      let _ ← operand
      return some ⟨.computed, start⟩
    else return none) first

def disjunction (nested : Nested) : Parser Node :=
  joinedBy "or" (joinedBy "and" (inversion nested))

structure ParameterPhase where
  names : Parameters
  defaulted : Bool
  slashed : Bool
  starred : Bool
  bareStar : Bool
  finished : Bool

def parameterName (nested : Nested) (annotations starAnnotation : Bool) : Parser String := do
  let name ← name
  if annotations then
    if ← takesMark ":" then
      if starAnnotation && (← takesMark "*") then
        let _ ← nested .operands
      else
        let _ ← nested .expression
  return name

def parameterDefault (nested : Nested) : Parser Bool := do
  if ← takesMark "=" then
    let _ ← nested .expression
    return true
  else return false

-- A slash stands behind parameters that have no name for callers, a star in front of those that
-- have nothing but a name.
def parameter (nested : Nested) (annotations : Bool) (p : ParameterPhase) :
    Parser ParameterPhase := do
  if p.finished then fail
  else if ← takesMark "/" then
    if p.slashed || p.starred || p.names.positional.isEmpty then fail
    else return { p with
      slashed := true
      names := { p.names with positionalOnly := p.names.positional, positional := [] } }
  else if ← takesMark "**" then
    if p.bareStar then fail
    else
      let name ← parameterName nested annotations false
      return { p with finished := true, names := { p.names with keywordRest := some name } }
  else if ← takesMark "*" then
    if p.starred then fail
    else if ← seesMark "," then return { p with starred := true, bareStar := true }
    else
      let name ← parameterName nested annotations true
      return { p with starred := true, names := { p.names with rest := some name } }
  else
    let name ← parameterName nested annotations false
    let defaulted ← parameterDefault nested
    if p.starred then
      let names := { p.names with keywordOnly := p.names.keywordOnly ++ [name] }
      return { p with bareStar := false, names := names }
    else if p.defaulted && !defaulted then fail
    else return { p with
      defaulted := defaulted, names := { p.names with positional := p.names.positional ++ [name] } }

def parameters (nested : Nested) (annotations : Bool) (closing : String) : Parser Parameters := do
  let start : ParameterPhase := ⟨⟨[], [], none, [], none⟩, false, false, false, false, false⟩
  if ← seesMark closing then return start.names
  else
    let (p, _) ← repeating (fun (p, closed) => do
      if closed then return none
      else if ← takesMark "," then
        if ← seesMark closing then return some (p, true)
        else return some (← parameter nested annotations p, false)
      else return none) (← parameter nested annotations start, false)
    if p.bareStar then fail else return p.names

def lambda (nested : Nested) : Parser Node := do
  let start ← line
  expectWord "lambda"
  let _ ← parameters nested false ":"
  expectMark ":"
  let _ ← nested .expression
  return ⟨.computed, start⟩

def expression (nested : Nested) : Parser Node := do
  let start ← line
  if ← seesWord "lambda" then lambda nested
  else
    let first ← disjunction nested
    if ← takesWord "if" then
      let _ ← nested .disjunction
      expectWord "else"
      let _ ← nested .expression
      return ⟨.computed, start⟩
    else return first

def namedExpression (nested : Nested) : Parser Node := do
  let start ← line
  if (← seesName) && (← peekAt 1).kind = .mark ":=" then
    let target ← name
    expectMark ":="
    return ⟨.named target (← sub nested .expression), start⟩
  else
    let node ← expression nested
    if ← seesMark ":=" then fail else return node

def expressionList (nested : Nested) : Parser Node := do
  let start ← line
  let item : Parser Node := do
    let start ← line
    if ← takesMark "*" then return ⟨.starred (← operands nested).expr, start⟩ else expression nested
  let (items, several) ← commaList item
  match items, several with
  | [item], false => return item
  | _, _ => return ⟨.tuple (items.map (·.expr)), start⟩

def rule (nested : Nested) : Rule → Parser Node
  | .expression => expression nested
  | .namedExpression => namedExpression nested
  | .expressionList => expressionList nested
  | .disjunction => disjunction nested
  | .inversion => inversion nested
  | .operands => operands nested
  | .factor => factor nested
  | .primary => primary nested

def nestedTo : Nat → Nested
  | 0, _ => fail
  | depth + 1, r => rule (nestedTo depth) r

end Grammar

end EndpointCatalog.Source
