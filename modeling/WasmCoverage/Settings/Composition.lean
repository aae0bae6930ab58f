import WasmCoverage.Settings.Choice

/-!
# Settings composed from overrides

The settings of a run start from the defaults.  Choices of groups are merged into them, and
overrides of single settings are applied one after the other, as changes of a tree whose leaves
are values.  Then the section about the composition must hold what the composition needs; it is
dropped, the references in the rest are resolved, and the tree is read like any payload.

All overrides are read before anything else happens; then the places where settings are looked
for must be known; then no override may stand for several values.

Main statements: `readAll_eq_ok_iff`, overrides are read exactly if every line is one, and
`exists_read_of_compose`, composed settings are settings that are read from a tree.
-/

namespace WasmCoverage

namespace Composition

open WasmCoverage.Text WasmCoverage.Template

/-! ## Reading overrides -/

/-- The overrides that lines spell. -/
def readAll : List String → Except CompositionFault (List Override)
  | [] => .ok []
  | line :: rest =>
    match Override.read line with
    | .error .malformed => .error (.malformed line)
    | .error (.numeral fault) => .error (.numeral fault)
    | .ok override => do
      let more ← readAll rest
      return override :: more

/-- **Overrides are read exactly if every line is one.** -/
theorem readAll_eq_ok_iff {lines : List String} {overrides : List Override} :
    readAll lines = .ok overrides ↔ lines.map Override.read = overrides.map .ok := by
  induction lines generalizing overrides with
  | nil => cases overrides <;> simp [readAll]
  | cons line rest ih =>
    simp only [readAll, List.map_cons]
    cases h : Override.read line with
    | error fault => cases fault <;> cases overrides <;> simp
    | ok override =>
      cases hr : readAll rest with
      | error fault =>
        simp only [bind, Except.bind, reduceCtorEq, false_iff]
        intro e
        cases overrides with
        | nil => simp at e
        | cons first more =>
          have := ih.2 (List.cons.inj e).2
          simp [hr] at this
      | ok more =>
        have := ih.1 hr
        simp only [bind, Except.bind, pure, Except.pure, Except.ok.injEq, this]
        cases overrides with
        | nil => simp
        | cons first others =>
          simp only [List.cons.injEq, List.map_cons, Except.ok.injEq]
          refine and_congr_right fun _ => ?_
          exact ⟨fun e => e ▸ rfl, fun e => (List.map_inj_right (fun _ _ => Except.ok.inj)).1 e⟩

/-- Does an override stand for several values? -/
def isSeveral (override : Override) : Bool :=
  match override.operand with
  | some operand => operand.isSeveral
  | none => false

/-! ## What references can refer to -/

/-- What is known about the world outside: the variables of the environment and the clock, and how
much it may take to store a value. -/
structure Surroundings where
  vars : List (String × String)
  clock : Moment
  room : Nat

/-- What references in a value can refer to. -/
def Surroundings.scope (around : Surroundings) (root : Json) : Scope :=
  ⟨root, around.vars, around.clock⟩

/-- The setting at the end of a way, unless it is nothing or still has to be given. -/
def lookup (scope : Scope) (way : List String) : Except Template.Fault (Option Template.Node) := do
  let found ← walk scope (fuelIn scope.root) [] false ⟨[], scope.root⟩ way
  return found.filter fun node => !isEmptied node.value

/-- What is at a node, with all references in it resolved. -/
def wholeContent (scope : Scope) (node : Template.Node) : Except Template.Fault Json :=
  content scope (fuelIn scope.root) [] node

/-! ## Where settings are looked for -/

/-- The setting that says where settings are looked for. -/
def searchKey : String := ownName ++ ".searchpath"

/-- The kinds of places where settings can be. -/
def schemes : List String := ["file", "pkg", "structured"]

/-- The kind of a place, if it is said. -/
def scheme? (place : String) : Option String :=
  match place.splitOn "://" with
  | scheme :: _ :: _ => some scheme
  | _ => none

/-- The texts that values are, if all of them are texts that are given. -/
def givenTexts? (values : List Json) : Option (List String) :=
  values.mapM fun value =>
    match value with
    | .text s => if isMissing value then none else some s.lossy
    | _ => none

/-- The places where an override says that settings are looked for. -/
def searched (around : Surroundings) (override : Override) :
    Except CompositionFault (List String) :=
  let bad : Except CompositionFault (List String) := .error (.refused override .badSearch)
  match override.written with
  | .null => .ok []
  | .list items =>
    match (Override.Operand.list items).value? with
    | none => bad
    | some value =>
      match resolveAll (around.scope value) with
      | .ok (.list values) =>
        match givenTexts? values with
        | some places => .ok places
        | none => bad
      | _ => bad
  | _ => bad

/-- Must settings be looked for in places of a known kind?  The first override of them counts. -/
def checkSearch (around : Surroundings) (overrides : List Override) :
    Except CompositionFault Unit := do
  let isSearch (override : Override) : Bool :=
    override.action = .set && override.key = searchKey && override.target.isNone
  if let some override := overrides.find? isSearch then
    let places ← searched around override
    for place in places do
      if let some scheme := scheme? place then
        if !schemes.contains scheme then throw (.noSource scheme)

/-! ## Applying overrides -/

/-- The fault that stops an override. -/
def Stop.fault (override : Override) : Stop → CompositionFault
  | unmergeable => .refused override .unmergeable
  | unknown => .refused override .unknown
  | badIndex fault => .numeral fault
  | itemOfList => .badItem
  | throughNothing => .throughNothing
  | infinite => .infinite

mutual

/-- Does a record in the value have nothing at all as a key? -/
def hasNullKey : Json → Bool
  | .list items => anyNullKey items
  | .record entries => anyEntryNullKey entries
  | _ => false

/-- Does a record in one of the values have nothing at all as a key? -/
def anyNullKey : List Json → Bool
  | [] => false
  | item :: rest => hasNullKey item || anyNullKey rest

/-- Is one of the keys nothing at all, or one in the values under them? -/
def anyEntryNullKey : List (Key × Json) → Bool
  | [] => false
  | (key, value) :: rest => key = .null || hasNullKey value || anyEntryNullKey rest

end

mutual

/-- What it takes to store a value: the deeper a list or a record goes, the more. -/
def effort : Json → Nat
  | .list items => 7 + effortOfItems items
  | .record entries => 10 + effortOfEntries entries
  | _ => 0

/-- What it takes to store the deepest of the values. -/
def effortOfItems : List Json → Nat
  | [] => 0
  | item :: rest => max (effort item) (effortOfItems rest)

/-- What it takes to store the deepest of the values under the keys. -/
def effortOfEntries : List (Key × Json) → Nat
  | [] => 0
  | (_, value) :: rest => max (effort value) (effortOfEntries rest)

end

/-- Every item of a list takes less than the list. -/
theorem effort_lt_list {item : Json} {items : List Json} (h : item ∈ items) :
    effort item < effort (.list items) := by
  suffices effort item ≤ effortOfItems items by simp only [effort]; omega
  induction items with
  | nil => cases h
  | cons first rest ih =>
    rcases List.mem_cons.1 h with rfl | h
    · exact Nat.le_max_left _ _
    · exact Nat.le_trans (ih h) (Nat.le_max_right _ _)

/-- Can the value stand among settings? -/
def isSetting (value : Json) : Bool :=
  !hasNullKey value && isAccepted value

/-- The value of an override among settings, if it has one. -/
def valueOf? (override : Override) : Option Json :=
  override.written.value?.filter isSetting

/-- The tree with the value of an override put in its place. -/
def put (room : Nat) (forced : Bool) (steps : List String) (tree : Tree) (override : Override) :
    Except CompositionFault Tree := do
  let value := valueOf? override
  let updated ← (update forced (value.getD .null) rootShape steps tree).mapError
    (Stop.fault override)
  match value with
  | none => throw (.refused override .unmergeable)
  | some value =>
    if effort value > room then throw .tooDeep
    return updated

/-- The value of a setting that there is, as an override finds it. -/
def found? (scope : Scope) (steps : List String) (override : Override) :
    Except CompositionFault (Option Template.Node) :=
  (lookup scope steps).mapError fun _ => .refused override .unmergeable

/-- The tree without a setting. -/
def removeFrom (scope : Scope) (steps : List String) (tree : Tree) (override : Override) :
    Except CompositionFault Tree := do
  match ← found? scope steps override with
  | none => throw (.refused override .absent)
  | some node =>
    if !(override.written matches .null) then
      match wholeContent scope node, valueOf? override with
      | .ok found, some value =>
        if !(Override.Operand.ofValue value).same (.ofValue found) then
          throw (.refused override (.different found))
      | _, _ => throw (.refused override .unmergeable)
    (remove rootShape steps tree).mapError (Stop.fault override)

/-- The tree after an override of a single setting. -/
def apply (around : Surroundings) (tree : Tree) (override : Override) :
    Except CompositionFault Tree := do
  if override.target.isSome then throw (.refused override .notGroup)
  let steps := splitText '.' override.key
  let scope := around.scope tree.toJson
  match override.action with
  | .remove => removeFrom scope steps tree override
  | .set => put around.room false steps tree override
  | .force => put around.room true steps tree override
  | .add =>
    let before ← found? scope steps override
    let isContainer := override.written matches .record _ | .list _
    if before.isSome && !isContainer then throw (.refused override .present)
    put around.room true steps tree override

/-! ## What the composition needs -/

/-- The setting at the end of a way that the composition needs. -/
def needed (scope : Scope) (way : String) : Except CompositionFault Template.Node :=
  match lookup scope (splitText '.' (ownName ++ "." ++ way)) with
  | .ok (some node) => .ok node
  | _ => .error .unprepared

/-- The list at the end of a way that the composition needs. -/
def neededList (scope : Scope) (way : String) : Except CompositionFault Template.Node := do
  let node ← needed scope way
  match node.value with
  | .list _ => return node
  | _ => throw .unprepared

/-- The texts in a list that the composition needs. -/
def neededTexts (scope : Scope) (way : String) : Except CompositionFault (List String) := do
  match wholeContent scope (← neededList scope way) with
  | .ok (.list items) =>
    if items.any isMissing then throw .unprepared
    return items.map Json.string
  | _ => throw .unprepared

/-- Does an override concern the composition? -/
def isOwn (override : Override) : Bool :=
  [ownName ++ ".", ownName ++ "/"].any fun start =>
    start.toList.isPrefixOf override.key.toList

/-- The composition keeps a list of the overrides, and one of the choices; it hands on variables
of the environment, and it makes a name out of the overrides. -/
def prepare (scope : Scope) (overrides : List Override) : Except CompositionFault Unit := do
  for override in overrides do
    if !isAcceptedText override.line then throw .unprepared
    let _ ← neededList scope (if isOwn override then "overrides.hydra" else "overrides.task")
  let choices ← needed scope "runtime.choices"
  if !(choices.value matches .record _) then throw .unprepared
  for name in ← neededTexts scope "job.env_copy" do
    if (Table.get? name scope.vars).isNone then throw (.noVariable name)
    let _ ← needed scope "job.env_set"
  let naming (part : String) : String := "job.config.override_dirname." ++ part
  let _ ← needed scope (naming "kv_sep")
  let _ ← needed scope (naming "item_sep")
  if overrides.all isOwn then
    let _ ← needed scope (naming "exclude_keys")
  else
    let _ ← neededTexts scope (naming "exclude_keys")

/-! ## Composing -/

/-- The tree that overrides lead to, without the section about the composition. -/
def composeTree (around : Surroundings) (name : String) (overrides : List Override) :
    Except CompositionFault Json := do
  checkSearch around overrides
  if let some override := overrides.find? isSeveral then throw (.refused override .several)
  let sorted ← sort overrides
  let some defaults := Defaults.named? name | throw (.unavailable name)
  let chosen ← chosenTree defaults sorted
  let tree ← sorted.single.foldlM (apply around) chosen
  let value := tree.toJson
  prepare (around.scope value) overrides
  match value with
  | .record entries => return .record (Json.Entries.erase ownName entries)
  | value => return value

end Composition

namespace Settings

open WasmCoverage.Composition

/-- The settings that overrides lead to. -/
def compose (around : Surroundings) (name : String) (lines : List String) :
    Except CompositionFault Settings := do
  let overrides ← readAll lines
  let tree ← composeTree around name overrides
  match Template.resolveAll (around.scope tree) with
  | .error fault => throw (.reference fault)
  | .ok tree => (Settings.ofMapping tree).mapError .mapping

/-- **What is composed is read like any payload**, so that it is what settings that are read are. -/
theorem exists_read_of_compose {around : Surroundings} {name : String} {lines : List String}
    {settings : Settings} (h : compose around name lines = .ok settings) :
    ∃ payload, Settings.read payload = .ok settings := by
  simp only [compose, bind, Except.bind] at h
  split at h
  · cases h
  · split at h
    · cases h
    · split at h
      · cases h
      · next tree _ =>
        cases hmapping : Settings.ofMapping tree with
        | error fault =>
          rw [hmapping] at h
          cases h
        | ok found =>
          rw [hmapping] at h
          exact Except.ok.inj h ▸ exists_read_of_ofMapping hmapping

end Settings

end WasmCoverage
