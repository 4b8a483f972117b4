import EndpointCatalog.Source.Lexer
import EndpointCatalog.Source.Literal

namespace EndpointCatalog.Source

structure LiteralPiece where
  text : List Char
  doubled : Bool
  rest : List Char

def LiteralPiece.push (text : List Char) (piece : LiteralPiece) : LiteralPiece :=
  { piece with text := text ++ piece.text }

-- Outside a format specification a doubled brace is literal and a single closing one is an error.
def bracePiece (top : Bool) (brace : Char) (rest : List Char) : Option LiteralPiece :=
  if top && rest.head? = some brace then some ⟨[brace], true, rest.drop 1⟩
  else if top && brace = '\x7d' then none
  else some ⟨[], false, brace :: rest⟩

def isBrace (c : Char) : Bool := c = '\x7b' || c = '\x7d'

-- A named character keeps the braces around its name.
def literalPiece (isRaw top : Bool) (text : List Char) : Option LiteralPiece :=
  match text with
  | [] => some ⟨[], false, []⟩
  | c :: rest =>
    if !isRaw && c = '\\' then
      match rest with
      | [] => some ⟨[c], false, []⟩
      | e :: tail =>
        if e = 'N' then
          let count :=
            match tail with
            | '\x7b' :: name => (name.takeWhile (· ≠ '\x7d')).length + 2
            | _ => 1
          (literalPiece isRaw top (tail.drop count)).map (·.push (c :: e :: tail.take count))
        else if isBrace e then (bracePiece top e tail).map (·.push [c])
        else (literalPiece isRaw top tail).map (·.push [c, e])
    else if isBrace c then bracePiece top c rest
    else (literalPiece isRaw top rest).map (·.push [c])
termination_by text.length
decreasing_by
  all_goals simp_all only [List.length_cons, List.length_drop]
  all_goals omega

structure Quotation where
  mark : Char
  tripled : Bool

def closes (opening closing : Char) : Bool :=
  (opening = '(' && closing = ')') || (opening = '[' && closing = ']') ||
    (opening = '\x7b' && closing = '\x7d')

-- `skip` characters are taken unseen, and `brackets` are those that are open.
def cutExpression (skip : Nat) (quotation : Option Quotation) (brackets : List Char) :
    List Char → Option (List Char × List Char)
  | [] => none
  | c :: rest =>
    let take := fun skip quotation brackets =>
      (cutExpression skip quotation brackets rest).map fun (text, rest) => (c :: text, rest)
    if skip > 0 then take (skip - 1) quotation brackets
    else if c = '\\' then none
    else match quotation with
    | some q =>
      if c ≠ q.mark then take 0 quotation brackets
      else if q.tripled then
        if rest.take 2 = [c, c] then take 2 none brackets else take 0 quotation brackets
      else take 0 none brackets
    | none =>
      if c = '"' || c = '\x27' then
        if rest.take 2 = [c, c] then take 2 (some ⟨c, true⟩) brackets
        else take 0 (some ⟨c, false⟩) brackets
      else if c = '(' || c = '[' || c = '\x7b' then
        if brackets.length ≥ bracketLimit then none else take 0 none (c :: brackets)
      else if c = '#' then none
      else if brackets.isEmpty && (c = '!' || c = '=' || c = '<' || c = '>') &&
          rest.head? = some '=' then
        take 1 none brackets
      else if brackets.isEmpty && (c = '!' || c = ':' || c = '\x7d' || c = '=') then
        some ([], c :: rest)
      else if c = ')' || c = ']' || c = '\x7d' then
        match brackets with
        | [] => none
        | opening :: outer => if closes opening c then take 0 none outer else none
      else take 0 none brackets

def isFormatBlank (c : Char) : Bool := c = ' ' || c = '\t' || c = '\n' || c = '\x0c'

def skipSelfText : List Char → List Char
  | '=' :: rest => rest.dropWhile fun c => isFormatBlank c || c = '\r' || c = '\x0b'
  | text => text

def skipConversion? : List Char → Option (List Char)
  | '!' :: letter :: rest =>
    if letter = 's' || letter = 'r' || letter = 'a' then some rest else none
  | '!' :: [] => none
  | text => some text

def formatDepth : Nat := 2

-- Every call takes a character, so that the length of the text is fuel enough.
def expressionsFrom (isRaw : Bool) : Nat → Nat → List Char → Option (List (List Char) × List Char)
  | 0, _, _ => none
  | fuel + 1, depth, text => do
    let piece ← literalPiece isRaw (depth = 0) text
    let _ ← decodeText? isRaw piece.text
    if piece.doubled then expressionsFrom isRaw fuel depth piece.rest
    else match piece.rest with
    | '\x7b' :: rest =>
      if depth ≥ formatDepth then none
      else
        let (expression, rest) ← cutExpression 0 none [] rest
        if expression.all isFormatBlank then none
        else
          let rest ← skipConversion? (skipSelfText rest)
          let (inner, rest) ←
            match rest with
            | ':' :: rest => expressionsFrom isRaw fuel (depth + 1) rest
            | _ => some ([], rest)
          match rest with
          | '\x7d' :: rest =>
            let (others, rest) ← expressionsFrom isRaw fuel depth rest
            return (expression :: inner ++ others, rest)
          | _ => none
    | rest => return ([], rest)

def formatExpressions? (isRaw : Bool) (body : List Char) : Option (List (List Char)) := do
  let (expressions, rest) ← expressionsFrom isRaw (body.length + 1) 0 body
  if rest.isEmpty then some expressions else none

end EndpointCatalog.Source
