import EndpointCatalog.Schema.Violation

namespace EndpointCatalog.Schema

open Text (Codes codes)

abbrev Follow := Codes → Json → List Violation

def faultIfNot (condition : Bool) (fault : Fault) : List Violation :=
  if condition then [] else [fault.here]

mutual

def violations (follow : Follow) : Schema → Json → List Violation
  | .always, _ => []
  | .never, value => [(Fault.forbidden value).here]
  | .all demands, value => allViolations follow demands value
  | .ofKind kinds, value => faultIfNot (kinds.any (·.has value)) (.wrongKind value kinds)
  | .among values, value => faultIfNot (values.any (·.same value)) (.notAmong value values)
  | .equal expected, value => faultIfNot (expected.same value) (.unequal expected)
  | .required names, .obj fields =>
    (names.filter fun name => !fields.any (·.1 = name)).map fun name => (Fault.absent name).here
  | .members schemas, .obj fields => memberViolations follow schemas fields
  | .closed known, .obj fields =>
    let extra := (fields.map (·.1)).filter (!known.contains ·)
    faultIfNot extra.isEmpty (.unexpected (extra.mergeSort))
  | .others known schema, .obj fields =>
    (fields.filter fun (name, _) => !known.contains name).flatMap fun (name, value) =>
      (violations follow schema value).map (·.below name)
  | .items schema, .arr entries =>
    entries.zipIdx.flatMap fun (item, i) =>
      (violations follow schema item).map (·.below (codes (toString i)))
  | .itemsInTurn schemas, .arr entries => turnViolations follow schemas entries 0
  | .noItems, .arr entries => faultIfNot entries.isEmpty (.surplus entries)
  | .anyOf alternatives, value =>
    faultIfNot (anyAccepts follow alternatives value) (.noAlternative value)
  | .minLength length, .str s => faultIfNot (length ≤ s.length) (.short (.str s) length)
  | .minItems count, .arr entries =>
    faultIfNot (count ≤ entries.length) (.short (.arr entries) count)
  | .maxItems count, .arr entries =>
    faultIfNot (entries.length ≤ count) (.long (.arr entries) count)
  | .minimum bound, value => faultIfNot (value.compareNumbers bound ≠ some .lt) (.below value bound)
  | .maximum bound, value => faultIfNot (value.compareNumbers bound ≠ some .gt) (.above value bound)
  | .reference name, value => follow name value
  | _, _ => []

def allViolations (follow : Follow) : List Schema → Json → List Violation
  | [], _ => []
  | schema :: rest, value => violations follow schema value ++ allViolations follow rest value

def memberViolations (follow : Follow) :
    List (Codes × Schema) → List (Codes × Json) → List Violation
  | [], _ => []
  | (name, schema) :: rest, fields =>
    (match fields.find? (·.1 = name) with
      | some (_, value) => (violations follow schema value).map (·.below name)
      | none => []) ++ memberViolations follow rest fields

def turnViolations (follow : Follow) : List Schema → List Json → Nat → List Violation
  | schema :: schemas, item :: rest, i =>
    (violations follow schema item).map (·.below (codes (toString i))) ++
      turnViolations follow schemas rest (i + 1)
  | _, _, _ => []

def anyAccepts (follow : Follow) : List Schema → Json → Bool
  | [], _ => false
  | schema :: rest, value =>
    (violations follow schema value).isEmpty || anyAccepts follow rest value

end

end EndpointCatalog.Schema

namespace EndpointCatalog

open Text (Codes)

mutual

def Json.depth : Json → Nat
  | .arr items => itemsDepth items + 1
  | .obj members => membersDepth members + 1
  | _ => 1

def itemsDepth : List Json → Nat
  | [] => 0
  | item :: items => max item.depth (itemsDepth items)

def membersDepth : List (Codes × Json) → Nat
  | [] => 0
  | (_, value) :: members => max value.depth (membersDepth members)

end

namespace SchemaDocument

open Schema (Violation Follow inPathOrder)

def follow (document : SchemaDocument) : Nat → Follow
  | 0, _, _ => []
  | steps + 1, name, value =>
    match document.targets.find? (·.1 = name) with
    | some (_, schema) => schema.violations (document.follow steps) value
    | none => []

-- References that are followed one behind the other on one value name different schemas, unless
-- they go round in a circle and find nothing.
def stepBound (document : SchemaDocument) (value : Json) : Nat :=
  (value.depth + 1) * (document.targets.length + 1)

def errors (document : SchemaDocument) (value : Json) : List Violation :=
  document.root.violations (document.follow (document.stepBound value)) value

def violations (document : SchemaDocument) (value : Json) : List Violation :=
  inPathOrder (document.errors value)

def messages (document : SchemaDocument) (value : Json) : List Codes :=
  (document.violations value).map Violation.message

end SchemaDocument

end EndpointCatalog
