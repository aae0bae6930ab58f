import WasmCoverage.Settings.Shape

/-!
# Trees of settings

Settings are composed in a tree of records, lists and leaves.  A record or a list that is set to
nothing, or is still to be given, stays one: it is hollow.

A value takes the place of another: a record is merged into a record, a list replaces a list, and
everything else replaces what was there; a record and a list do not mix.  A setting that there is
not must be added by force.  The shapes of settings are kept.

Main statement: `toJson_ofJson`, a tree made of a value stands for it.
-/

namespace WasmCoverage.Composition

open Template

/-- A tree of settings. -/
inductive Tree where
  | leaf (value : Json)
  | list (items : List Tree)
  | record (entries : List (Key × Tree))
  /-- A record or a list without content: nothing, or still to be given. -/
  | hollow (isRecord : Bool) (value : Json)
  deriving Repr

namespace Tree

mutual

/-- A value as a tree. -/
def ofJson : Json → Tree
  | .list items => list (ofItems items)
  | .record entries => record (ofEntries entries)
  | value => leaf value

/-- Values as trees. -/
def ofItems : List Json → List Tree
  | [] => []
  | item :: rest => ofJson item :: ofItems rest

/-- The values of entries as trees. -/
def ofEntries : List (Key × Json) → List (Key × Tree)
  | [] => []
  | (key, value) :: rest => (key, ofJson value) :: ofEntries rest

end

mutual

/-- The value that a tree stands for. -/
def toJson : Tree → Json
  | leaf value => value
  | list items => .list (toItems items)
  | record entries => .record (toEntries entries)
  | hollow _ value => value

/-- The values that trees stand for. -/
def toItems : List Tree → List Json
  | [] => []
  | item :: rest => toJson item :: toItems rest

/-- Entries with the values that trees stand for. -/
def toEntries : List (Key × Tree) → List (Key × Json)
  | [] => []
  | (key, tree) :: rest => (key, toJson tree) :: toEntries rest

end

mutual

/-- **A tree made of a value stands for it.** -/
theorem toJson_ofJson : ∀ value : Json, (ofJson value).toJson = value
  | .list items => by simp [ofJson, toJson, toItems_ofItems items]
  | .record entries => by simp [ofJson, toJson, toEntries_ofEntries entries]
  | .null | .bool _ | .integer _ | .real _ | .text _ => rfl

theorem toItems_ofItems : ∀ items : List Json, toItems (ofItems items) = items
  | [] => rfl
  | item :: rest => by simp [ofItems, toItems, toJson_ofJson item, toItems_ofItems rest]

theorem toEntries_ofEntries :
    ∀ entries : List (Key × Json), toEntries (ofEntries entries) = entries
  | [] => rfl
  | (key, value) :: rest => by
    simp [ofEntries, toEntries, toJson_ofJson value, toEntries_ofEntries rest]

end

end Tree

/-! ## Changes -/

/-- Why a tree cannot be changed. -/
inductive Stop where
  /-- The value does not go with the setting. -/
  | unmergeable
  /-- There is no such setting. -/
  | unknown
  /-- The last step into a list is no number. -/
  | badIndex (fault : NumeralFault)
  /-- An item of a list cannot be removed by itself. -/
  | itemOfList
  /-- The way leads through a record or a list that is nothing. -/
  | throughNothing
  /-- The number is infinite where a whole number is expected. -/
  | infinite
  deriving DecidableEq, Repr

/-- The value, if it has the shape. -/
def checked (shape : Shape) (value : Json) : Except Stop Tree :=
  match fits shape value with
  | .fits => .ok (.ofJson value)
  | .misfits => .error .unmergeable
  | .infinite => .error .infinite

/-- Does the value leave a record or a list without content? -/
def isEmptied (value : Json) : Bool :=
  value matches .null || isMissing value

/-- The entries of a record into which another is merged, if it is one. -/
def entriesOf? : Tree → Option (List (Key × Tree))
  | .record entries => some entries
  | .hollow true _ => some []
  | _ => none

mutual

/-- A record merged into the entries of another.  Entries that are not there are added by force
only. -/
def merge (forced : Bool) (shape : Shape) (old : List (Key × Tree)) :
    List (Key × Json) → Except Stop (List (Key × Tree))
  | [] => .ok old
  | (key, value) :: rest => do
    let merged ← match shape.entry? key, Table.get? key old with
      | none, _ => throw .unknown
      | some inner, none =>
        if forced then do
          let tree ← add inner value
          pure (Table.insert key tree old)
        else throw .unknown
      | some inner, some before =>
        if isMissing value then pure old
        else do
          let tree ← place forced inner before value
          pure (Table.insert key tree old)
    merge forced shape merged rest

/-- The tree of a value that is added where nothing was. -/
def add (shape : Shape) : Json → Except Stop Tree
  | .record new =>
    match shape with
    | .any => .ok (.ofJson (.record new))
    | shape => do
      let merged ← merge true shape [] new
      return .record merged
  | value => do
    let tree ← checked shape value
    return if shape matches .record _ _ _ && isEmptied value then .hollow true value else tree

/-- The tree of a value that takes the place of another. -/
def place (forced : Bool) (shape : Shape) (old : Tree) : Json → Except Stop Tree
  | .record new =>
    match entriesOf? old, old with
    | some entries, _ => do
      let merged ← merge forced shape entries new
      return .record merged
    | none, .leaf _ => add shape (.record new)
    | none, _ => .error .unmergeable
  | .list new =>
    match entriesOf? old with
    | some _ => .error .unmergeable
    | none => checked shape (.list new)
  | value => do
    let tree ← checked shape value
    match old with
    | .record _ | .hollow true _ =>
      return if isEmptied value then .hollow true value else tree
    | .list _ | .hollow false _ =>
      return if isEmptied value then .hollow false value else tree
    | .leaf _ => return tree

end

/-- The item of a list at an index, if it is in range. -/
def itemAt? (items : List Tree) (index : Int) : Option Tree :=
  if index < 0 then none else items[index.toNat]?

/-- The tree that a way goes on in; where there is none, or a leaf, an empty record. -/
def onward (tree : Tree) : Except Stop Tree :=
  match tree with
  | .hollow _ value => .error (if isMissing value then .unmergeable else .throughNothing)
  | .leaf value => if isMissing value then .error .unmergeable else .ok (.record [])
  | tree => .ok tree

/-- The tree with a value put at the end of a way. -/
def update (forced : Bool) (value : Json) : Shape → List String → Tree → Except Stop Tree
  | _, [], tree => .ok tree
  | shape, [last], .record entries =>
    match Table.get? (last : Key) entries with
    | some old => do
      let new ← place forced ((shape.entry? last).getD .any) old value
      return .record (Table.insert (last : Key) new entries)
    | none =>
      if forced then do
        let new ← add ((shape.entry? last).getD .any) value
        return .record (Table.insert (last : Key) new entries)
      else throw .unknown
  | shape, [last], .list items =>
    match Numeral.read last with
    | .error fault => throw (.badIndex fault)
    | .ok index =>
      match itemAt? items index with
      | some old => do
        let new ← place forced shape.item old value
        return .list (items.set index.toNat new)
      | none => throw .unmergeable
  | shape, step :: steps, .record entries => do
    let inner := (shape.entry? step).getD .any
    let below ← match Table.get? (step : Key) entries with
      | some tree => onward tree
      | none =>
        if !forced then throw .unknown
        else pure (.record [])
    if (Table.get? (step : Key) entries).any (· matches .leaf _) && inner matches .text _ then
      throw .unmergeable
    let new ← update forced value inner steps below
    return .record (Table.insert (step : Key) new entries)
  | shape, step :: steps, .list items =>
    match Numeral.read step with
    | .error _ => throw .unmergeable
    | .ok index =>
      match itemAt? items index with
      | none => throw .unmergeable
      | some old => do
        let below ← onward old
        let new ← update forced value shape.item steps below
        return .list (items.set index.toNat new)
  | _, _, _ => throw .unmergeable

/-- The tree without what is at the end of a way. -/
def remove : Shape → List String → Tree → Except Stop Tree
  | shape, [last], .record entries =>
    if shape.isFixed then .error .unmergeable
    else .ok (.record (Table.erase (last : Key) entries))
  | _, [_], .list _ => .error .itemOfList
  | shape, step :: steps, .record entries =>
    match Table.get? (step : Key) entries with
    | some below => do
      let new ← remove ((shape.entry? step).getD .any) steps below
      return .record (Table.insert (step : Key) new entries)
    | none => .error .unknown
  | shape, step :: steps, .list items =>
    match Numeral.read step with
    | .error _ => .error .unknown
    | .ok index =>
      match itemAt? items index with
      | some below => do
        let new ← remove shape.item steps below
        return .list (items.set index.toNat new)
      | none => .error .unknown
  | _, _, _ => .error .unknown

end WasmCoverage.Composition
