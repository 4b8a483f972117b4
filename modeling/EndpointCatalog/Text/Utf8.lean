namespace EndpointCatalog.Text

inductive Utf8Cause where
  | startByte
  | continuationByte
  | endOfData
  deriving DecidableEq, Repr

structure Utf8Error where
  cause : Utf8Cause
  byte : UInt8
  start : Nat
  stop : Nat
  deriving DecidableEq, Repr

def Utf8Cause.text : Utf8Cause → String
  | .startByte => "invalid start byte"
  | .continuationByte => "invalid continuation byte"
  | .endOfData => "unexpected end of data"

def undecodableText (codec : String) (byte : UInt8) (start stop : Nat) (cause : String) : String :=
  if stop = start + 1 then
    let digits := Nat.toDigits 16 byte.toNat
    let shown := String.ofList (if digits.length < 2 then '0' :: digits else digits)
    s!"'{codec}' codec can't decode byte 0x{shown} in position {start}: {cause}"
  else s!"'{codec}' codec can't decode bytes in position {start}-{stop - 1}: {cause}"

def Utf8Error.message (e : Utf8Error) : String :=
  undecodableText "utf-8" e.byte e.start e.stop e.cause.text

-- The halves of surrogate pairs belong to the range only when they are to pass.
def following? (passes : Bool) (first : UInt8) : Option (Nat × UInt8 × UInt8) :=
  if first < 0x80 then some (0, 0, 0)
  else if first < 0xc2 then none
  else if first < 0xe0 then some (1, 0x80, 0xbf)
  else if first = 0xe0 then some (2, 0xa0, 0xbf)
  else if first = 0xed then some (2, 0x80, if passes then 0xbf else 0x9f)
  else if first < 0xf0 then some (2, 0x80, 0xbf)
  else if first = 0xf0 then some (3, 0x90, 0xbf)
  else if first < 0xf4 then some (3, 0x80, 0xbf)
  else if first = 0xf4 then some (3, 0x80, 0x8f)
  else none

-- The code so far, how many bytes are owed and the range of the next one.
structure Utf8State where
  first : UInt8
  start : Nat
  code : Nat
  owed : Nat
  low : UInt8
  high : UInt8

def leadingBits (first : UInt8) (owed : Nat) : Nat :=
  first.toNat % (if owed = 0 then 128 else Nat.pow 2 (6 - owed))

-- A half of a pair is refused at its first byte, whatever lacks behind it.
def Utf8State.fault (cause : Utf8Cause) (at_ : Nat) (s : Utf8State) : Utf8Error :=
  if s.first = 0xed ∧ s.owed = 1 ∧ 0x360 ≤ s.code then
    ⟨.continuationByte, s.first, s.start, s.start + 1⟩
  else ⟨cause, s.first, s.start, at_⟩

-- The bytes begin in the middle of a character when `state` says so.
def decodeFrom {α : Type} (passes : Bool) (make : Nat → α) (at_ : Nat) (state : Option Utf8State) :
    List UInt8 → Except Utf8Error (List α)
  | [] =>
    match state with
    | none => .ok []
    | some s => .error (s.fault .endOfData at_)
  | b :: rest =>
    match state with
    | none =>
      match following? passes b with
      | none => .error ⟨.startByte, b, at_, at_ + 1⟩
      | some (0, _, _) => (decodeFrom passes make (at_ + 1) none rest).map (make b.toNat :: ·)
      | some (owed, low, high) =>
        decodeFrom passes make (at_ + 1) (some ⟨b, at_, leadingBits b owed, owed, low, high⟩) rest
    | some s =>
      if s.low ≤ b ∧ b ≤ s.high then
        let code := s.code * 64 + b.toNat % 64
        if s.owed = 1 then (decodeFrom passes make (at_ + 1) none rest).map (make code :: ·)
        else
          decodeFrom passes make (at_ + 1)
            (some ⟨s.first, s.start, code, s.owed - 1, 0x80, 0xbf⟩) rest
      else .error (s.fault .continuationByte at_)

def decodeUtf8 (bytes : List UInt8) : Except Utf8Error (List Char) :=
  decodeFrom false Char.ofNat 0 none bytes

def unifyLineEnds : List Char → List Char
  | [] => []
  | '\r' :: rest =>
    match rest with
    | '\n' :: tail => '\n' :: unifyLineEnds tail
    | tail => '\n' :: unifyLineEnds tail
  | c :: rest => c :: unifyLineEnds rest

end EndpointCatalog.Text
