import EndpointCatalog.Source.Tree

namespace EndpointCatalog.Source

open Decimal (Double)

inductive EvalError where
  | notLiteral
  | wholeTooLarge
  deriving DecidableEq, Repr

def Atom.isNumber : Atom → Bool
  | .int _ | .float _ | .complex _ _ => true
  | _ => false

def Expr.number? : Expr → Option Atom
  | .constant value => if value.isNumber then some value else none
  | _ => none

def Atom.negate : Atom → Atom
  | .int n => .int (-n)
  | .float x => .float x.neg
  | .complex re im => .complex re.neg im.neg
  | other => other

def Expr.signedNumber? : Expr → Option Atom
  | .unary .plus operand => operand.number?
  | .unary .minus operand => operand.number?.map Atom.negate
  | expr => expr.number?

def Atom.real? : Atom → Option (Except EvalError Double)
  | .int n =>
    let x := Double.ofInt n
    some (if x.isInfinite then .error .wholeTooLarge else .ok x)
  | .float x => some (.ok x)
  | _ => none

def complexSum (op : BinaryOp) (left right : Atom) : Except EvalError Atom :=
  match left.real?, right with
  | some real, .complex _ im => do
    let x ← real
    match op with
    | .add => return .complex x.addZero im.addZero
    | _ => return .complex x (if im.isZero then .zero else im.neg)
  | _, _ => throw .notLiteral

def Expr.isName (id : String) : Expr → Bool
  | .name other => other = id
  | _ => false

def expectKey (value : Value) : Except EvalError Value :=
  if value.isKey then .ok value else .error .notLiteral

mutual

def Expr.evaluate : Expr → Except EvalError Value
  | .constant value => .ok (.atom value)
  | .tuple items => do return .tuple (← evaluateAll items)
  | .list items => do return .list (← evaluateAll items)
  | .set items => do return .set (← evaluateSet [] items)
  | .dict entries => do return .dict (← evaluateEntries [] entries)
  | .call function args keywords =>
    if function.isName "set" && args.isEmpty && keywords.isEmpty then .ok (.set [])
    else .error .notLiteral
  | .unary op operand =>
    match Expr.signedNumber? (.unary op operand) with
    | some number => .ok (.atom number)
    | none => .error .notLiteral
  | .binary op left right =>
    if op = .other then .error .notLiteral
    else match left.signedNumber?, right.number? with
    | some x, some y => do return .atom (← complexSum op x y)
    | _, _ => .error .notLiteral
  | _ => .error .notLiteral

-- The first item that has no value decides.
def evaluateAll : List Expr → Except EvalError (List Value)
  | [] => .ok []
  | item :: rest => do
    let value ← item.evaluate
    return value :: (← evaluateAll rest)

def evaluateSet (done : List Value) : List Expr → Except EvalError (List Value)
  | [] => .ok done
  | item :: rest => do
    let value ← expectKey (← item.evaluate)
    evaluateSet (insertItem value done) rest

-- Each entry is bound as soon as it is known. Another dictionary among them has no literal value.
def evaluateEntries (done : List (Value × Value)) :
    List (Option Expr × Expr) → Except EvalError (List (Value × Value))
  | [] => .ok done
  | (none, _) :: _ => .error .notLiteral
  | (some key, value) :: rest => do
    let key ← key.evaluate
    let value ← value.evaluate
    let key ← expectKey key
    evaluateEntries (insertEntry key value done) rest

end

end EndpointCatalog.Source
