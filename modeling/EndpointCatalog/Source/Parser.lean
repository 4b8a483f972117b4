import EndpointCatalog.Source.Lexer
import EndpointCatalog.Source.Tree
import EndpointCatalog.Text.Compatibility

namespace EndpointCatalog.Source

abbrev Parser := ReaderT (Array Token) (StateT Nat Option)

namespace Parser

def run? {α : Type} (p : Parser α) (tokens : Array Token) : Option α := (p tokens 0).map (·.1)

def fail {α : Type} : Parser α := fun _ _ => none

-- Behind the last token there are only ends.
def peekAt (ahead : Nat) : Parser Token := fun tokens at_ =>
  some ((tokens[at_ + ahead]?).getD ⟨.finish, 0⟩, at_)

def peek : Parser Token := peekAt 0

def advance : Parser Unit := fun _ at_ => some ((), at_ + 1)

def left : Parser Nat := fun tokens at_ => some (tokens.size - at_, at_)

def takes (kind : TokenKind) : Parser Bool := do
  if (← peek).kind = kind then
    advance
    return true
  else return false

def expect (kind : TokenKind) : Parser Unit := do
  if ← takes kind then return () else fail

def sees (kind : TokenKind) : Parser Bool := do return (← peek).kind = kind

def takesMark (mark : String) : Parser Bool := takes (.mark mark)
def takesWord (word : String) : Parser Bool := takes (.word word)
def seesMark (mark : String) : Parser Bool := sees (.mark mark)
def seesWord (word : String) : Parser Bool := sees (.word word)
def expectMark (mark : String) : Parser Unit := expect (.mark mark)
def expectWord (word : String) : Parser Unit := expect (.word word)

def line : Parser Nat := do return (← peek).line

def iterate {α : Type} (step : α → Parser (Option α)) : Nat → α → Parser α
  | 0, a => pure a
  | n + 1, a => do
    match ← step a with
    | none => pure a
    | some b => iterate step n b

def repeating {α : Type} (step : α → Parser (Option α)) (a : α) : Parser α := do
  iterate step ((← left) + 1) a

def commaSeparated {α : Type} (item : Parser α) : Parser (List α) := do
  let items ← repeating (fun items => do
    if ← takesMark "," then return some ((← item) :: items) else return none) [← item]
  return items.reverse

-- The flag says whether a comma followed the last item or there are several.
def commaList {α : Type} (item : Parser α) : Parser (List α × Bool) := do
  let (items, several, _) ← repeating (fun (items, _, closed) => do
    if closed then return none
    else if ← takesMark "," then
      match ← optional item with
      | some a => return some (a :: items, true, false)
      | none => return some (items, true, true)
    else return none) ([← item], false, false)
  return (items.reverse, several)

end Parser

def keywords : List String :=
  ["False", "None", "True", "and", "as", "assert", "async", "await", "break", "class", "continue",
    "def", "del", "elif", "else", "except", "finally", "for", "from", "global", "if", "import",
    "in", "is", "lambda", "nonlocal", "not", "or", "pass", "raise", "return", "try", "while",
    "with", "yield"]

-- Spellings with one compatibility form are one name.
def nameOf? (word : String) : Option String :=
  if keywords.contains word then none
  else
    let name := Text.compatibilityForm word
    if Text.isIdentifier name.toList then some name else none

namespace Parser

def name? : Parser (Option String) := do
  match (← peek).kind with
  | .word word =>
    match nameOf? word with
    | some name =>
      advance
      return some name
    | none => return none
  | _ => return none

def name : Parser String := do
  match ← name? with
  | some name => return name
  | none => fail

def seesName : Parser Bool := do
  match (← peek).kind with
  | .word word => return (nameOf? word).isSome
  | _ => return false

def dottedName : Parser String := do
  repeating (fun path => do
    if ← takesMark "." then return some (path ++ "." ++ (← name)) else return none) (← name)

end Parser

end EndpointCatalog.Source
