import EndpointCatalog.Text.CodeRanges
import EndpointCatalog.Text.CompatibilityTable
import Std.Data.HashMap

namespace EndpointCatalog.Text

def decompositionMap : CodeMap := .ofText CompatibilityTable.decompositions

def combiningRuns : Array ((Nat × Nat) × Nat) :=
  ((entriesOf CompatibilityTable.classes).map fun entry =>
    match cutAt '=' entry with
    | [run, value] => (readRun run, readBase 10 value)
    | _ => (readRun entry, 0)).toArray

def combiningBounds : Array (Nat × Nat) := combiningRuns.map (·.1)

-- It is zero for everything that is not a mark.
def combiningClass (c : Char) : Nat :=
  match runOf? combiningBounds c.toNat with
  | some k => (combiningRuns.getD k ((0, 0), 0)).2
  | none => 0

def compositionMap : Std.HashMap (Nat × Nat) Nat :=
  Std.HashMap.ofList <| (entriesOf CompatibilityTable.compositions).filterMap fun entry =>
    match cutAt '=' entry with
    | [pair, whole] => match cutAt '+' pair with
      | [first, second] => some ((readBase 16 first, readBase 16 second), readBase 16 whole)
      | _ => none
    | _ => none

def decomposeSyllable? (c : Char) : Option (List Char) :=
  if 0xac00 ≤ c.toNat ∧ c.toNat ≤ 0xd7a3 then
    let index := c.toNat - 0xac00
    let start := [Char.ofNat (0x1100 + index / 588), Char.ofNat (0x1161 + index % 588 / 28)]
    some (if index % 28 = 0 then start else start ++ [Char.ofNat (0x11a7 + index % 28)])
  else none

def decomposeChar (c : Char) : List Char :=
  if c.toNat < 128 then [c]
  else match decomposeSyllable? c with
    | some parts => parts
    | none => (decompositionMap.find? c).getD [c]

def insertMark (mark : Char) (level : Nat) : List Char → List Char
  | [] => [mark]
  | c :: rest =>
    if combiningClass c > level then c :: insertMark mark level rest else mark :: c :: rest

-- Marks of one class keep their order.
def orderMarks (text : List Char) : List Char :=
  (text.foldl (fun done c =>
    if combiningClass c = 0 then c :: done else insertMark c (combiningClass c) done) []).reverse

def composePair? (a b : Char) : Option Char :=
  let first := a.toNat
  let second := b.toNat
  if 0x1100 ≤ first ∧ first ≤ 0x1112 ∧ 0x1161 ≤ second ∧ second ≤ 0x1175 then
    some (Char.ofNat (0xac00 + ((first - 0x1100) * 21 + (second - 0x1161)) * 28))
  else if 0xac00 ≤ first ∧ first ≤ 0xd7a3 ∧ (first - 0xac00) % 28 = 0
      ∧ 0x11a8 ≤ second ∧ second ≤ 0x11c2 then
    some (Char.ofNat (first + (second - 0x11a7)))
  else (compositionMap[(first, second)]?).map Char.ofNat

-- `starter` is the last character that is not a mark, `marks` what follows it, reversed, and
-- `level` the highest class in between.
def composeAfter (starter : Char) (marks : List Char) (level : Nat) : List Char → List Char
  | [] => starter :: marks.reverse
  | c :: rest =>
    let own := combiningClass c
    let blocked := if marks.isEmpty then false else own ≤ level
    match if blocked then none else composePair? starter c with
    | some whole => composeAfter whole marks level rest
    | none =>
      if own = 0 then starter :: marks.reverse ++ composeAfter c [] 0 rest
      else composeAfter starter (c :: marks) own rest

-- Marks before the first other character stay as they are.
def compose (text : List Char) : List Char :=
  match text.span (fun c => combiningClass c != 0) with
  | (marks, []) => marks
  | (marks, c :: rest) => marks ++ composeAfter c [] 0 rest

-- A text of ASCII characters is its own form.
def compatibilityForm (s : String) : String :=
  if s.toList.all (·.toNat < 128) then s
  else String.ofList (compose (orderMarks (s.toList.flatMap decomposeChar)))

end EndpointCatalog.Text
