import WasmCoverage.Payload.Reading

/-!
# Records built from untyped fields

The records of a run can also be built from values of any kind, given by name.  A record has its
fields in a fixed order, some of them with defaults.  Building it refuses a field that is not
known and the lack of one that has no default; then the checks of the fields run in order, and
the first that fails is told.  Nothing is coerced.

Main statement: `names_of_build`, a record that is built has exactly its fields, in order.
-/

namespace WasmCoverage.Payload

/-- What a field demands of its value. -/
inductive Check where
  /-- A text. -/
  | text
  /-- A text or nothing. -/
  | text?
  /-- A truth value. -/
  | flag
  /-- A whole number, as which a truth value counts too. -/
  | whole
  /-- A number that is not negative. -/
  | natural
  /-- An absolute path or nothing. -/
  | path?
  deriving DecidableEq, Repr

/-- The whole number that a value counts as. -/
def wholeOf? : Json → Option Int
  | .integer n => some n
  | .bool b => some (if b then 1 else 0)
  | _ => none

/-- What is wrong with the value of a field. -/
def Check.flaw? (check : Check) (name : String) (value : Json) : Option Flaw :=
  match check, value with
  | .text, .text _ => none
  | .text?, .text _ | .text?, .null => none
  | .flag, .bool _ => none
  | .whole, value => if (wholeOf? value).isSome then none else some .wrongType
  | .natural, value =>
    match wholeOf? value with
    | some n => if n < 0 then some (.rule (negative name value.shown)) else none
    | none => some .wrongType
  | .path?, .null => none
  | .path?, .text s => absolute name s
  | _, _ => some .wrongType

/-- A field of a record. -/
structure FieldRule where
  name : String
  default? : Option Json := none
  checks : List Check := []

/-- The keys of the fields of a record. -/
def keysOf (rules : List FieldRule) : List Key :=
  rules.map fun rule => (rule.name : Key)

/-- The value that is given for a field, or its default. -/
def FieldRule.value? (rule : FieldRule) (given : List (Key × Json)) : Option Json :=
  match Json.Entries.get? rule.name given with
  | some value => some value
  | none => rule.default?

/-- The first check of a field that fails. -/
def FieldRule.flaw? (rule : FieldRule) (value : Json) : Option Flaw :=
  rule.checks.findSome? fun check => check.flaw? rule.name value

/-- The fields of a record with their values; nothing if one without a default is not given. -/
def valuesOf? (given : List (Key × Json)) : List FieldRule → Option (List (Key × Json))
  | [] => some []
  | rule :: rest => do
    let value ← rule.value? given
    let others ← valuesOf? given rest
    return (rule.name, value) :: others

/-- The first check that fails. -/
def firstFlaw? (rules : List FieldRule) (values : List (Key × Json)) : Option Flaw :=
  (rules.zip values).findSome? fun pair => pair.1.flaw? pair.2.2

/-- A record built from fields that are given by name. -/
def build (rules : List FieldRule) (given : List (Key × Json)) :
    Except Flaw (List (Key × Json)) :=
  if given.all fun entry => rules.any fun rule => (rule.name : Key) = entry.1 then
    match valuesOf? given rules with
    | none => .error .wrongType
    | some values =>
      match firstFlaw? rules values with
      | some flaw => .error flaw
      | none => .ok values
  else .error .wrongType

theorem names_of_valuesOf? {given : List (Key × Json)} {rules : List FieldRule}
    {values : List (Key × Json)} (h : valuesOf? given rules = some values) :
    values.map (·.1) = keysOf rules := by
  induction rules generalizing values with
  | nil => simp only [valuesOf?, Option.some.injEq] at h; simp [← h, keysOf]
  | cons rule rest ih =>
    simp only [valuesOf?, Option.bind_eq_bind, Option.bind_eq_some_iff, Option.pure_def,
      Option.some.injEq] at h
    obtain ⟨value, _, others, hrest, rfl⟩ := h
    simpa [keysOf] using ih hrest

/-- **A record that is built has exactly its fields, in order.** -/
theorem names_of_build {rules : List FieldRule} {given values : List (Key × Json)}
    (h : build rules given = .ok values) :
    values.map (·.1) = keysOf rules := by
  simp only [build] at h
  split at h
  · split at h
    · simp at h
    · next found =>
      split at h
      · simp at h
      · simp only [Except.ok.injEq] at h
        exact h ▸ names_of_valuesOf? found
  · simp at h

end WasmCoverage.Payload
