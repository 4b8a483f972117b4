import EndpointCatalog.Source.Value
import EndpointCatalog.Text.CharacterName

namespace EndpointCatalog.Source

open Decimal (Double)
open Text (Code Codes hexDigit? readBase)

-- A number that is all zeros may have more digits.
def wholeDigitLimit : Nat := 4300

def decimalAtom? (text : List Char) : Option Atom :=
  if text.all Char.isDigit then
    if text.length > wholeDigitLimit && text.any (· ≠ '0') then none
    else some (.int (Nat.ofDigitChars 10 text 0))
  else some (.float (floating text))
where
  floating (text : List Char) : Double :=
    let mantissa := text.takeWhile (fun c => c ≠ 'e' && c ≠ 'E')
    let whole := mantissa.takeWhile Char.isDigit
    let fraction := (mantissa.drop whole.length).drop 1
    let exponent : Int :=
      match text.drop mantissa.length with
      | _ :: '-' :: digits => -(Nat.ofDigitChars 10 digits 0 : Int)
      | _ :: '+' :: digits => Nat.ofDigitChars 10 digits 0
      | _ :: digits => Nat.ofDigitChars 10 digits 0
      | [] => 0
    Double.ofScientific false (Nat.ofDigitChars 10 (whole ++ fraction) 0)
      (exponent - fraction.length)

def numberAtom? (token : List Char) : Option Atom :=
  let text := token.filter (· ≠ '_')
  match text with
  | '0' :: base :: digits =>
    if base = 'x' || base = 'X' then some (.int (readBase 16 digits))
    else if base = 'o' || base = 'O' then some (.int (readBase 8 digits))
    else if base = 'b' || base = 'B' then some (.int (readBase 2 digits))
    else decimal text
  | _ => decimal text
where
  decimal (text : List Char) : Option Atom :=
    if text.getLast? = some 'j' || text.getLast? = some 'J' then
      some (.complex .zero (decimalAtom?.floating text.dropLast))
    else decimalAtom? text

structure StringToken where
  isBytes : Bool
  isRaw : Bool
  isFormat : Bool
  body : List Char

def StringToken.ofText (token : List Char) : StringToken :=
  let letters := token.takeWhile (fun c => c ≠ '"' && c ≠ '\x27')
  let quoted := token.drop letters.length
  let width := match quoted with
    | a :: b :: c :: _ => if a = b && b = c && quoted.length ≥ 6 then 3 else 1
    | _ => 1
  let holds (c : Char) := letters.any (·.toLower = c)
  ⟨holds 'b', holds 'r', holds 'f', (quoted.drop width).take (quoted.length - 2 * width)⟩

def hexadecimal? (count : Nat) (text : List Char) : Option Nat :=
  let digits := text.take count
  if digits.length = count && digits.all (fun c => (hexDigit? c).isSome) then
    some (readBase 16 digits)
  else none

def octalDigits (text : List Char) : List Char :=
  (text.take 3).takeWhile (fun c => decide ('0' ≤ c ∧ c ≤ '7'))

def sharedEscape? : Char → Option (List Nat)
  | '\n' => some []
  | '\\' => some [0x5c]
  | '\x27' => some [0x27]
  | '"' => some [0x22]
  | 'a' => some [7]
  | 'b' => some [8]
  | 'f' => some [12]
  | 'n' => some [10]
  | 'r' => some [13]
  | 't' => some [9]
  | 'v' => some [11]
  | _ => none

-- A backslash in front of any other character stands for itself.
def stringEscape? (text : List Char) : Option (List Nat × Nat) :=
  match text with
  | [] => some ([0x5c], 0)
  | c :: rest =>
    match sharedEscape? c with
    | some codes => some (codes, 1)
    | none =>
      if c = 'x' then (hexadecimal? 2 rest).map fun code => ([code], 3)
      else if c = 'u' then (hexadecimal? 4 rest).map fun code => ([code], 5)
      else if c = 'U' then
        match hexadecimal? 8 rest with
        | some code => if code ≤ 0x10ffff then some ([code], 9) else none
        | none => none
      else if c = 'N' then
        match rest with
        | '\x7b' :: rest =>
          let name := rest.takeWhile (· ≠ '\x7d')
          if name.length < rest.length then
            (Text.characterNamed? name).map fun named => ([named.toNat], name.length + 3)
          else none
        | _ => none
      else
        match octalDigits text with
        | [] => some ([0x5c, c.toNat], 1)
        | digits => some ([readBase 8 digits], digits.length)

def bytesEscape? (text : List Char) : Option (List Nat × Nat) :=
  match text with
  | [] => some ([0x5c], 0)
  | c :: rest =>
    match sharedEscape? c with
    | some codes => some (codes, 1)
    | none =>
      if c = 'x' then (hexadecimal? 2 rest).map fun code => ([code], 3)
      else
        match octalDigits text with
        | [] => some ([0x5c, c.toNat], 1)
        | digits => some ([readBase 8 digits % 256], digits.length)

def decodeWith (escape? : List Char → Option (List Nat × Nat)) (text : List Char) :
    Option (List Nat) :=
  match text with
  | [] => some []
  | c :: rest =>
    if c = '\\' then
      match escape? rest with
      | none => none
      | some (codes, count) => (decodeWith escape? (rest.drop count)).map (codes ++ ·)
    else (decodeWith escape? rest).map (c.toNat :: ·)
termination_by text.length
decreasing_by
  all_goals simp_all only [List.length_cons, List.length_drop]
  all_goals omega

-- Two halves of a pair that stand side by side are not one character.
def decodeText? (isRaw : Bool) (body : List Char) : Option Codes :=
  if isRaw then some (body.map .char)
  else (decodeWith stringEscape? body).map (·.map Code.ofNat)

def decodeBytes? (isRaw : Bool) (body : List Char) : Option (List UInt8) :=
  if body.any (·.toNat ≥ 128) then none
  else if isRaw then some (body.map fun c => c.toNat.toUInt8)
  else (decodeWith bytesEscape? body).map fun codes => codes.map Nat.toUInt8

end EndpointCatalog.Source
