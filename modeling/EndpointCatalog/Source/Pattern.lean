import EndpointCatalog.Source.Expression

namespace EndpointCatalog.Source.Grammar

open Source.Parser

abbrev Bound := List String

-- The lone underscore is no name, and a name in front of a dot, a parenthesis or an equals sign is
-- something else.
def captured : Parser String := do
  let word ← peek
  if word.kind = .word "_" then fail
  else
    let name ← name
    if (← seesMark ".") || (← seesMark "(") || (← seesMark "=") then fail else return name

def capturedOrSkipped : Parser Bound := do
  if ← takesWord "_" then return [] else return [← captured]

def patternNumber : Parser Atom := do
  match (← peek).kind with
  | .number text =>
    advance
    match numberAtom? text with
    | some value => return value
    | none => fail
  | _ => fail

def isImaginary : Atom → Bool
  | .complex _ _ => true
  | _ => false

def numberPattern : Parser Unit := do
  let _ ← takesMark "-"
  let first ← patternNumber
  if (← seesMark "+") || (← seesMark "-") then
    advance
    let second ← patternNumber
    if !isImaginary first && isImaginary second then return () else fail

def constantPattern (nested : Nested) : Parser Unit := do
  match (← peek).kind with
  | .number _ | .mark "-" => numberPattern
  | .string _ =>
    let _ ← strings nested
    return ()
  | .word "None" | .word "True" | .word "False" => advance
  | _ => fail

def attributePath : Parser Bool := do
  let _ ← name
  repeating (fun _ => do
    if ← takesMark "." then
      let _ ← name
      return some true
    else return none) false

def patternKey (nested : Nested) : Parser Unit := do
  if ← seesName then
    if ← attributePath then return () else fail
  else constantPattern nested

abbrev Inner := Parser Bound

-- The flag says whether a star precedes the pattern.
def sequenceItem (inner : Inner) : Parser (Bound × Bool) := do
  if ← takesMark "*" then return (← capturedOrSkipped, true) else return (← inner, false)

def sequenceItems (inner : Inner) (closing : String) : Parser Bound := do
  if ← takesMark closing then return []
  else
    let (items, _) ← commaList (sequenceItem inner)
    expectMark closing
    return items.flatMap (·.1)

def parenthesisedPattern (inner : Inner) : Parser Bound := do
  expectMark "("
  if ← takesMark ")" then return []
  else
    let (items, several) ← commaList (sequenceItem inner)
    expectMark ")"
    match items, several with
    | [(_, true)], false => fail
    | _, _ => return items.flatMap (·.1)

def mappingPattern (nested : Nested) (inner : Inner) : Parser Bound := do
  expectMark "\x7b"
  let item : Parser (Bound × Bool) := do
    if ← takesMark "**" then return ([← captured], true)
    else
      patternKey nested
      expectMark ":"
      return (← inner, false)
  let (bound, _) ← repeating (fun (bound, closed) => do
    if closed || (← seesMark "\x7d") then return none
    else
      let (names, isRest) ← item
      let comma ← takesMark ","
      return some (bound ++ names, isRest || !comma)) ([], false)
  expectMark "\x7d"
  return bound

def classItems (inner : Inner) : Parser Bound := do
  let (bound, _) ← repeating (fun (bound, keyed, closed) => do
    if closed || (← seesMark ")") then return none
    else
      let isKey ← (do return (← seesName) && (← peekAt 1).kind = .mark "=")
      if isKey then
        advance
        advance
      else if keyed then fail
      let names ← inner
      let comma ← takesMark ","
      return some (bound ++ names, isKey, !comma)) ([], false, false)
  expectMark ")"
  return bound

def closedPattern (nested : Nested) (inner : Inner) : Parser Bound := do
  match (← peek).kind with
  | .mark "(" => parenthesisedPattern inner
  | .mark "[" =>
    advance
    sequenceItems inner "]"
  | .mark "\x7b" => mappingPattern nested inner
  | .word "None" | .word "True" | .word "False" | .number _ | .string _ | .mark "-" =>
    constantPattern nested
    return []
  | .word "_" =>
    if (← peekAt 1).kind = .mark "(" || (← peekAt 1).kind = .mark "." then fail
    else
      advance
      return []
  | .word _ =>
    match ← optional captured with
    | some name => return [name]
    | none =>
      let dotted ← attributePath
      if ← takesMark "(" then classItems inner
      else if dotted && !(← seesMark "=") then return []
      else fail
  | _ => fail

def alternatives (nested : Nested) (inner : Inner) : Parser Bound := do
  let first ← closedPattern nested inner
  let bound ← repeating (fun bound => do
    if ← takesMark "|" then return some (bound ++ (← closedPattern nested inner))
    else return none) first
  if ← takesWord "as" then return bound ++ [← captured] else return bound

def patternTo (nested : Nested) : Nat → Parser Bound
  | 0 => fail
  | depth + 1 => alternatives nested (patternTo nested depth)

-- A star needs a comma behind it.
def casePattern (nested : Nested) (depth : Nat) : Parser Bound := do
  let (items, several) ← commaList (sequenceItem (patternTo nested depth))
  match items, several with
  | [(_, true)], false => fail
  | _, _ => return items.flatMap (·.1)

end EndpointCatalog.Source.Grammar
