namespace EndpointCatalog.Command

structure Spelling (ω : Type) where
  option : ω
  long : String
  short : Option Char
  takesValue : Bool

-- The value of an option that takes none is empty.
structure Arguments (ω : Type) where
  options : List (ω × String)
  operands : List String

namespace Arguments

def withOptions {ω : Type} (more : List (ω × String)) (arguments : Arguments ω) : Arguments ω :=
  { arguments with options := more ++ arguments.options }

def withOperand {ω : Type} (operand : String) (arguments : Arguments ω) : Arguments ω :=
  { arguments with operands := operand :: arguments.operands }

-- Of several values the last one counts.
def value? {ω : Type} [DecidableEq ω] (arguments : Arguments ω) (option : ω) : Option String :=
  (arguments.options.reverse.find? (·.1 = option)).map (·.2)

def given {ω : Type} [DecidableEq ω] (arguments : Arguments ω) (option : ω) : Bool :=
  (arguments.value? option).isSome

end Arguments

structure Reading (ω : Type) where
  complete : List (ω × String)
  waiting : Option ω

-- An option without values must not have an equals sign behind it.
def readLong? {ω : Type} (spellings : List (Spelling ω)) (name : List Char)
    (value : Option (List Char)) : Option (Reading ω) := do
  let spelling ← spellings.find? fun spelling => spelling.long.toList = name
  match value, spelling.takesValue with
  | some value, true => return ⟨[(spelling.option, String.ofList value)], none⟩
  | none, true => return ⟨[], some spelling.option⟩
  | none, false => return ⟨[(spelling.option, "")], none⟩
  | some _, false => none

-- The first option that takes a value takes the characters behind it, or the next argument when
-- there are none.
def readShort? {ω : Type} (spellings : List (Spelling ω)) : List Char → Option (Reading ω)
  | [] => some ⟨[], none⟩
  | c :: rest => do
    let spelling ← spellings.find? fun spelling => spelling.short = some c
    if spelling.takesValue then
      if rest.isEmpty then return ⟨[], some spelling.option⟩
      else return ⟨[(spelling.option, String.ofList rest)], none⟩
    else
      let reading ← readShort? spellings rest
      return { reading with complete := (spelling.option, "") :: reading.complete }

def readOption? {ω : Type} (spellings : List (Spelling ω)) (argument : List Char) :
    Option (Reading ω) :=
  match argument with
  | '-' :: '-' :: _ =>
    let name := argument.takeWhile (· ≠ '=')
    let value :=
      if name.length < argument.length then some (argument.drop (name.length + 1)) else none
    readLong? spellings name value
  | _ => readShort? spellings (argument.drop 1)

def isOption : List Char → Bool
  | '-' :: _ :: _ => true
  | _ => false

inductive Placement where
  | anywhere
  | inFront
  deriving DecidableEq, Repr

def readArguments? {ω : Type} (spellings : List (Spelling ω)) (placement : Placement) :
    List String → Option (Arguments ω)
  | [] => some ⟨[], []⟩
  | argument :: rest =>
    if argument = "--" then some ⟨[], rest⟩
    else if isOption argument.toList then
      match readOption? spellings argument.toList with
      | none => none
      | some ⟨complete, none⟩ =>
        (readArguments? spellings placement rest).map (·.withOptions complete)
      | some ⟨complete, some option⟩ =>
        match rest with
        | [] => none
        | value :: rest =>
          (readArguments? spellings placement rest).map
            (·.withOptions (complete ++ [(option, value)]))
    else
      match placement with
      | .inFront => some ⟨[], argument :: rest⟩
      | .anywhere => (readArguments? spellings placement rest).map (·.withOperand argument)

end EndpointCatalog.Command
