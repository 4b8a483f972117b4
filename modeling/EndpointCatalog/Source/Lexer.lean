import EndpointCatalog.Text.Names

namespace EndpointCatalog.Source

inductive TokenKind where
  | word (text : String)
  | number (text : List Char)
  | string (text : List Char)
  | mark (text : String)
  | newline
  | indent
  | dedent
  | finish
  deriving DecidableEq, Repr, Inhabited

structure Token where
  kind : TokenKind
  line : Nat
  deriving Repr, Inhabited

-- Whether a word with characters beyond ASCII is an identifier is decided at its end.
def isWordStart (c : Char) : Bool := c.isAlpha || c = '_' || c.toNat ≥ 128
def isWordPart (c : Char) : Bool := c.isAlphanum || c = '_' || c.toNat ≥ 128

-- Raw marks combine with those of bytes and of format strings only.
def openingLength? : List Char → Option Nat
  | q :: rest =>
    let isQuote (c : Char) := c = '"' || c = '\x27'
    if isQuote q then some 0
    else match rest with
    | r :: rest =>
      let a := q.toLower
      if isQuote r then (if a = 'r' || a = 'u' || a = 'b' || a = 'f' then some 1 else none)
      else match rest with
      | s :: _ =>
        let b := r.toLower
        if isQuote s &&
            ((a = 'r' && (b = 'b' || b = 'f')) || (b = 'r' && (a = 'b' || a = 'f'))) then some 2
        else none
      | [] => none
    | [] => none
  | [] => none

def shortStringLength? (mark : Char) : List Char → Option Nat
  | [] => none
  | c :: rest =>
    if c = mark then some 1
    else if c = '\n' then none
    else if c = '\\' then
      match rest with
      | [] => none
      | _ :: rest => (shortStringLength? mark rest).map (· + 2)
    else (shortStringLength? mark rest).map (· + 1)

-- `run` counts the marks just passed.
def longStringLength? (mark : Char) (run : Nat) : List Char → Option Nat
  | [] => none
  | c :: rest =>
    if c = mark then
      if run = 2 then some 1 else (longStringLength? mark (run + 1) rest).map (· + 1)
    else if c = '\\' then
      match rest with
      | [] => none
      | _ :: rest => (longStringLength? mark 0 rest).map (· + 2)
    else (longStringLength? mark 0 rest).map (· + 1)

def stringLength? : List Char → Option Nat
  | mark :: rest =>
    match rest with
    | a :: b :: body =>
      if a = mark && b = mark then (longStringLength? mark 0 body).map (· + 3)
      else (shortStringLength? mark rest).map (· + 1)
    | _ => (shortStringLength? mark rest).map (· + 1)
  | [] => none

def isDecimalDigit (c : Char) : Bool := c.isDigit
def isOctalDigit (c : Char) : Bool := decide ('0' ≤ c ∧ c ≤ '7')
def isBinaryDigit (c : Char) : Bool := c = '0' || c = '1'
def isHexadecimalDigit (c : Char) : Bool :=
  c.isDigit || decide ('a' ≤ c ∧ c ≤ 'f') || decide ('A' ≤ c ∧ c ≤ 'F')

def digitsLength? (isDigit : Char → Bool) : List Char → Option Nat
  | [] => some 0
  | c :: rest =>
    if isDigit c then (digitsLength? isDigit rest).map (· + 1)
    else if c = '_' then
      match rest with
      | [] => none
      | d :: rest => if isDigit d then (digitsLength? isDigit rest).map (· + 2) else none
    else some 0

def wordsAfterNumber : List (List Char) :=
  ["and", "else", "for", "if", "in", "is", "or", "not"].map String.toList

def endsNumber (text : List Char) : Bool :=
  wordsAfterNumber.any (·.isPrefixOf text) ||
    match text with
    | c :: _ => !isWordPart c
    | [] => true

def endingAt (text : List Char) (count : Nat) : Option Nat :=
  if endsNumber (text.drop count) then some count else none

def basedLength? (isDigit : Char → Bool) (text : List Char) : Option Nat := do
  let count ← digitsLength? isDigit (text.drop 2)
  if count = 0 then none
  else if ((text.drop (count + 2)).head?.map isDecimalDigit).getD false then none
  else endingAt text (count + 2)

-- A sign without a digit is an error.
def exponentLength? : List Char → Option Nat
  | e :: rest =>
    if e = 'e' || e = 'E' then
      match rest with
      | s :: tail =>
        if s = '+' || s = '-' then
          match tail with
          | d :: _ =>
            if isDecimalDigit d then (digitsLength? isDecimalDigit tail).map (· + 2) else none
          | [] => none
        else if isDecimalDigit s then (digitsLength? isDecimalDigit rest).map (· + 1)
        else some 0
      | [] => some 0
    else some 0
  | [] => some 0

-- A number that begins with zero and has another digit must not be whole.
def decimalLength? (text : List Char) : Option Nat := do
  let whole ← digitsLength? isDecimalDigit text
  let fraction ←
    match text.drop whole with
    | '.' :: rest =>
      match rest with
      | d :: _ =>
        if isDecimalDigit d then (digitsLength? isDecimalDigit rest).map (· + 1) else some 1
      | [] => some 1
    | _ => some 0
  let exponent ← exponentLength? (text.drop (whole + fraction))
  let count := whole + fraction + exponent
  match text.drop count with
  | 'j' :: _ | 'J' :: _ => endingAt text (count + 1)
  | _ =>
    if fraction + exponent = 0 && text.head? = some '0' &&
        (text.take whole).any (fun c => c ≠ '0' && c ≠ '_')
    then none
    else endingAt text count

def numberLength? (text : List Char) : Option Nat :=
  match text with
  | '0' :: c :: _ =>
    let base := c.toLower
    if base = 'x' then basedLength? isHexadecimalDigit text
    else if base = 'o' then basedLength? isOctalDigit text
    else if base = 'b' then basedLength? isBinaryDigit text
    else decimalLength? text
  | _ => decimalLength? text

def marks : List String :=
  ["**=", "//=", ">>=", "<<=", "...", "!=", "%=", "&=", "**", "*=", "+=", "-=", "->", "//", "/=",
    ":=", "<<", "<=", "<>", "==", ">=", ">>", "@=", "^=", "|=", "%", "&", "(", ")", "*", "+", ",",
    "-", ".", "/", ":", ";", "<", "=", ">", "@", "[", "]", "^", "\x7b", "|", "\x7d", "~"]

def mark? (text : List Char) : Option String := marks.find? (·.toList.isPrefixOf text)

def token? (text : List Char) : Option (TokenKind × Nat) :=
  match text with
  | [] => none
  | c :: rest =>
    match openingLength? text with
    | some opening => do
      let count ← stringLength? (text.drop opening)
      return (.string (text.take (opening + count)), opening + count)
    | none =>
      if isWordStart c then
        let word := text.takeWhile isWordPart
        if word.all (·.toNat < 128) || Text.isIdentifier word then
          some (.word (String.ofList word), word.length)
        else none
      else if c.isDigit || (c = '.' && (rest.head?.map Char.isDigit).getD false) then do
        let count ← numberLength? text
        return (.number (text.take count), count)
      else do
        let mark ← mark? text
        return (.mark mark, mark.length)

-- Columns count a tabulator up to the next multiple of eight, strict columns count it as one; a
-- line may be indented only if both agree. `anchor` is the column of the first line that was
-- continued.
structure Margin where
  used : Nat
  lines : Nat
  column : Nat
  strictColumn : Nat
  anchor : Nat
  deriving Repr

def Margin.measure (m : Margin) : List Char → Option Margin
  | [] => some m
  | c :: rest =>
    if c = ' ' then
      Margin.measure { m with
        used := m.used + 1, column := m.column + 1, strictColumn := m.strictColumn + 1 } rest
    else if c = '\t' then
      let column := (m.column / 8 + 1) * 8
      Margin.measure { m with
        used := m.used + 1, column := column, strictColumn := m.strictColumn + 1 } rest
    else if c = '\x0c' then
      Margin.measure { m with used := m.used + 1, column := 0, strictColumn := 0 } rest
    else if c = '\\' then
      match rest with
      | '\n' :: next :: tail =>
        Margin.measure { m with
          used := m.used + 2, lines := m.lines + 1
          anchor := if m.anchor = 0 then m.column else m.anchor } (next :: tail)
      | _ => none
    else some m

def Margin.columns (m : Margin) : Nat × Nat :=
  if m.anchor = 0 then (m.column, m.strictColumn) else (m.anchor, m.anchor)

def indentLimit : Nat := 100

def bracketLimit : Nat := 200

def outdent (column : Nat) (levels : List (Nat × Nat)) : List (Nat × Nat) :=
  levels.dropWhile (fun level => column < level.1)

def indentation (columns : Nat × Nat) (levels : List (Nat × Nat)) :
    Option (List (Nat × Nat) × List TokenKind) :=
  match levels with
  | [] => none
  | top :: _ =>
    if columns.1 = top.1 then
      if columns.2 = top.2 then some (levels, []) else none
    else if top.1 < columns.1 then
      if levels.length ≥ indentLimit || columns.2 ≤ top.2 then none
      else some (columns :: levels, [.indent])
    else
      let kept := outdent columns.1 levels
      if kept.head? = some columns then
        some (kept, List.replicate (levels.length - kept.length) .dedent)
      else none

def opening? : String → Option String
  | ")" => some "("
  | "]" => some "["
  | "\x7d" => some "\x7b"
  | _ => none

def bracketsAfter (brackets : List String) (mark : String) : Option (List String) :=
  if mark = "(" || mark = "[" || mark = "\x7b" then
    if brackets.length ≥ bracketLimit then none else some (mark :: brackets)
  else match opening? mark with
    | none => some brackets
    | some opening =>
      match brackets with
      | top :: rest => if top = opening then some rest else none
      | [] => none

structure Position where
  line : Nat
  brackets : List String
  levels : List (Nat × Nat)
  fresh : Bool
  blank : Bool

def tokensFrom (text : List Char) (p : Position) (done : List Token) : Option (List Token) :=
  match text with
  | [] =>
    if p.brackets.isEmpty then
      some (⟨.finish, p.line⟩ :: List.replicate (p.levels.length - 1) ⟨.dedent, p.line⟩ ++ done)
    else none
  | c :: rest =>
    if fresh : p.fresh then
      match Margin.measure ⟨0, 0, 0, 0, 0⟩ (c :: rest) with
      | none => none
      | some margin =>
        let left := (c :: rest).drop margin.used
        let line := p.line + margin.lines
        if left.head? = some '\n' || left.head? = some '#' || left.isEmpty then
          tokensFrom left ⟨line, p.brackets, p.levels, false, true⟩ done
        else
          match indentation margin.columns p.levels with
          | none => none
          | some (levels, kinds) =>
            tokensFrom left ⟨line, p.brackets, levels, false, false⟩
              (kinds.map (⟨·, line⟩) ++ done)
    else if c = ' ' || c = '\t' || c = '\x0c' then tokensFrom rest p done
    else if c = '#' then tokensFrom (rest.drop (rest.takeWhile (· ≠ '\n')).length) p done
    else if c = '\n' then
      if p.brackets.isEmpty then
        tokensFrom rest ⟨p.line + 1, p.brackets, p.levels, true, false⟩
          (if p.blank then done else ⟨.newline, p.line⟩ :: done)
      else tokensFrom rest { p with line := p.line + 1 } done
    else if c = '\\' then
      match rest with
      | '\n' :: next :: tail => tokensFrom (next :: tail) { p with line := p.line + 1 } done
      | _ => none
    else
      match token? (c :: rest) with
      | none => none
      | some (kind, count) =>
        let brackets :=
          match kind with
          | .mark mark => bracketsAfter p.brackets mark
          | _ => some p.brackets
        match brackets with
        | none => none
        | some brackets =>
          let lines := match kind with
            | .string text => text.count '\n'
            | _ => 0
          tokensFrom (rest.drop (count - 1)) { p with line := p.line + lines, brackets := brackets }
            (⟨kind, p.line⟩ :: done)
termination_by 2 * text.length + p.fresh.toNat
decreasing_by
  all_goals
    simp_all only [List.length_cons, List.length_drop, Bool.toNat_true, Bool.toNat_false]
  all_goals omega

-- A missing last line end is added.
def tokens? (text : List Char) : Option (Array Token) :=
  let text := if text.getLast? = some '\n' then text else text ++ ['\n']
  (tokensFrom text ⟨1, [], [(0, 0)], true, false⟩ []).map fun done => done.reverse.toArray

end EndpointCatalog.Source
