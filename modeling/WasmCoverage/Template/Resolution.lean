import WasmCoverage.Json.Display
import WasmCoverage.Moment
import WasmCoverage.Template.Outline
import WasmCoverage.Text.Split

/-!
# Resolving references

`resolveAll` replaces every reference in a tree of settings.  A text that is one reference has the
value that it refers to, of whatever type, with the references in it resolved where that value
stands; inside a longer text the value is displayed as it is written.

A way leads from the root, or from the section of the text if it begins with a dot, and every
further dot goes one section up.  It may lead through references, but neither to a section that
the text is part of, nor back to a text that is being resolved.

Sources know the variables of the environment, the settings themselves, the clock, and values
written in the notation of arguments.

Main statement: `content_scalar`, a value that holds no others is its own content.
-/

namespace WasmCoverage.Template

open WasmCoverage.Text

/-- Why a reference has no value. -/
inductive Fault where
  /-- The reference is not well formed. -/
  | malformed
  /-- There is no such setting. -/
  | unknownKey
  /-- The setting must be given but is not. -/
  | missing
  /-- There is no such source. -/
  | unknownSource
  /-- The reference leads through a value without parts, to a section around it or back to
  itself, or the source has no answer. -/
  | unresolvable
  deriving DecidableEq, Repr

/-- What references can refer to: the settings, the variables of the environment, the clock. -/
structure Scope where
  root : Json
  vars : List (String × String)
  clock : Moment

/-- The keys on the way from the root to a value; items of lists are numbered. -/
abbrev Site := List Key

/-- A value and where it stands. -/
structure Node where
  site : Site
  value : Json
  deriving Repr

/-! ## Ways -/

/-- The keys in a text, each behind a dot or in brackets. -/
def laterKeys : Nat → List Char → List String
  | 0, _ => []
  | _ + 1, [] => []
  | fuel + 1, '[' :: rest =>
    let key := rest.takeWhile (· ≠ ']')
    String.ofList key :: laterKeys fuel (rest.drop (key.length + 1))
  | fuel + 1, _ :: rest =>
    let key := rest.takeWhile fun c => c ≠ '.' && c ≠ '['
    String.ofList key :: laterKeys fuel (rest.drop key.length)

/-- The keys of a way that does not begin with a dot. -/
def keysOf (way : List Char) : List String :=
  match way with
  | '[' :: _ => laterKeys way.length way
  | way => laterKeys (way.length + 1) ('.' :: way)

/-- The part of a value under a key, if there is one.  Only records and lists have parts, and
those of lists are numbered. -/
def part (node : Node) (key : String) : Except Fault (Option Node) :=
  match node.value with
  | .record entries =>
    .ok ((Json.Entries.get? key entries).map fun value => ⟨node.site ++ [.text key], value⟩)
  | .list items =>
    match Numeral.read key with
    | .ok index =>
      if index < 0 then .ok none
      else .ok (items[index.toNat]?.map fun value => ⟨node.site ++ [.integer index], value⟩)
    | .error _ => .error .unresolvable
  | _ => .error .unresolvable

/-- The value at a site. -/
def Scope.at? (scope : Scope) (site : Site) : Option Json :=
  site.foldlM (fun value key =>
    match value, key with
    | .record entries, key => Table.get? key entries
    | .list items, .integer index => items[index.toNat]?
    | _, _ => none) scope.root

/-- Where a way begins that is followed in a section, and its keys. -/
def Scope.start? (scope : Scope) (section_ : Site) (way : String) :
    Option (Node × List String) :=
  let dots := way.toList.takeWhile (· = '.')
  let rest := way.toList.drop dots.length
  match dots.length with
  | 0 => some (⟨[], scope.root⟩, keysOf rest)
  | up + 1 =>
    if section_.length < up then none
    else
      let site := section_.take (section_.length - up)
      (scope.at? site).map fun value =>
        (⟨site, value⟩, if rest.isEmpty then [] else keysOf rest)

/-! ## Sources -/

/-- The words of the version of the interpreter, by the names of their levels. -/
def versions : List (String × String) :=
  [("major", "3"), ("minor", "3.11")]

/-- What a source that does not look at the settings answers; nothing if there is no such source. -/
def answer? (scope : Scope) (source : String) (arguments : List Json) :
    Option (Except Fault Json) :=
  match source, arguments with
  | "oc.env", .text name :: rest =>
    match rest, Table.get? name.lossy scope.vars with
    | [], some value | [_], some value => some (.ok (.text value))
    | [], none => some (.error .unresolvable)
    | [.null], none => some (.ok .null)
    | [default], none => some (.ok (.text default.string))
    | _, _ => some (.error .unresolvable)
  | "oc.create", [.text s] => some (.ok (.record (if s.isEmpty then [] else [(.text s, .null)])))
  | "oc.create", [.list items] => some (.ok (.list items))
  | "oc.create", [.record entries] => some (.ok (.record entries))
  | "oc.create", [.null] => some (.ok .null)
  | "oc.create", [] => some (.ok (.record []))
  | "now", [.text pattern] =>
    some (.ok (.text (String.ofList (scope.clock.format pattern.chars))))
  | "python_version", [] => some (.ok (.text ((Table.get? "minor" versions).getD "")))
  | "python_version", [.text level] =>
    match Table.get? level.lossy versions with
    | some version => some (.ok (.text version))
    | none => some (.error .unresolvable)
  | source, _ =>
    if ["oc.env", "oc.create", "now", "python_version", "hydra"].contains source
    then some (.error .unresolvable) else none

/-- The sources that look at the settings. -/
def inwardSources : List String :=
  ["oc.select", "oc.deprecated", "oc.dict.keys", "oc.dict.values", "oc.decode"]

/-- A text that refers to the entry under a key of the record at the end of a way. -/
def entryReference (way : String) (key : Key) : Json :=
  let way := if way.toList.head? = some '.' then "." ++ way else way
  .text ("$\x7b" ++ way ++ "." ++ Json.keyText key ++ "\x7d")

/-! ## Resolving -/

/-- A value that nothing stands for but itself, unless it is a text that is not accepted. -/
def settled (site : Site) (value : Json) : Except Fault Node :=
  match value with
  | .text s => if isAcceptedText s.lossy then .ok ⟨site, value⟩ else .error .malformed
  | value => .ok ⟨site, value⟩

/-- The value of what a piece refers to. -/
def foundValue : Node ⊕ Json → Json
  | .inl node => node.value
  | .inr value => value

mutual

/-- The value of a text at a site, and where it stands; `busy` are the sites of the texts that are
being resolved. -/
def resolveText (scope : Scope) : Nat → List Site → Site → String → Except Fault Node
  | 0, _, _, _ => .error .unresolvable
  | fuel + 1, busy, site, s =>
    if !mentions s.toList then .ok ⟨site, .text s⟩
    else if busy.contains site then .error .unresolvable
    else
      let busy := site :: busy
      match read? s with
      | none => .error .malformed
      | some [.text s] => settled site (.text s)
      | some [piece] => do
        match ← follow scope fuel busy site piece with
        | .inl node => return node
        | .inr value => settled site value
      | some pieces => do
        let text ← concatenate scope fuel busy site pieces
        settled site (.text text)

/-- The value of a node: a text with references is resolved, and everything else is as it is. -/
def resolve (scope : Scope) : Nat → List Site → Node → Except Fault Node
  | 0, _, _ => .error .unresolvable
  | fuel + 1, busy, node =>
    match node.value with
    | .text s =>
      if mentions s.chars then resolveText scope fuel busy node.site s.lossy else .ok node
    | _ => .ok node

/-- The texts of pieces one after the other. -/
def concatenate (scope : Scope) : Nat → List Site → Site → List Piece → Except Fault String
  | 0, _, _, _ => .error .unresolvable
  | _ + 1, _, _, [] => .ok ""
  | fuel + 1, busy, site, .text s :: rest => do
    let more ← concatenate scope fuel busy site rest
    return s ++ more
  | fuel + 1, busy, site, piece :: rest => do
    let first ← follow scope fuel busy site piece
    let more ← concatenate scope fuel busy site rest
    return (foundValue first).string ++ more

/-- The text of a way or a name; every reference in it must have a text as its value. -/
def spell (scope : Scope) : Nat → List Site → Site → List Piece → Except Fault String
  | 0, _, _, _ => .error .unresolvable
  | _ + 1, _, _, [] => .ok ""
  | fuel + 1, busy, site, .text s :: rest => do
    let more ← spell scope fuel busy site rest
    return s ++ more
  | fuel + 1, busy, site, piece :: rest => do
    let first ← follow scope fuel busy site piece
    match foundValue first with
    | .text s =>
      let more ← spell scope fuel busy site rest
      return s.lossy ++ more
    | _ => throw .unresolvable

/-- What a piece refers to: a setting, or the answer of a source. -/
def follow (scope : Scope) : Nat → List Site → Site → Piece → Except Fault (Node ⊕ Json)
  | 0, _, _, _ => .error .unresolvable
  | _ + 1, _, _, .text s => .ok (.inr (.text s))
  | fuel + 1, busy, site, .setting way => do
    let way ← spell scope fuel busy site way
    match scope.start? site.dropLast way with
    | none => throw .unknownKey
    | some (start, keys) =>
      match ← walk scope fuel busy true start keys with
      | none => throw .unknownKey
      | some node =>
        if node.site.isPrefixOf site.dropLast then throw .unresolvable
        return .inl node
  | fuel + 1, busy, site, .question source arguments => do
    let source ← spell scope fuel busy site source
    let values ← evaluateAll scope fuel busy site arguments
    match answer? scope source values with
    | some (.ok value) => return .inr value
    | some (.error fault) => throw fault
    | none => lookInside scope fuel busy site source values

/-- What a source that looks at the settings answers. -/
def lookInside (scope : Scope) : Nat → List Site → Site → String → List Json →
    Except Fault (Node ⊕ Json)
  | 0, _, _, _, _ => .error .unresolvable
  | fuel + 1, busy, site, source, arguments =>
    match source, arguments with
    | "oc.select", .text way :: rest =>
      if rest.length > 1 then .error .unresolvable
      else do
        match scope.start? site.dropLast way.lossy with
        | none => throw .unresolvable
        | some (start, keys) =>
          match ← walk scope fuel busy false start keys with
          | some node => return if isMissing node.value then .inr (rest.headD .null) else .inl node
          | none => return .inr (rest.headD .null)
    | "oc.deprecated", .text way :: rest => do
      if rest.any fun message => !(message matches .text _) then throw .unresolvable
      let node ← target scope fuel busy site way.lossy
      return .inl node
    | "oc.dict.keys", [.text way] => do
      let node ← target scope fuel busy site way.lossy
      match node.value with
      | .record entries => return .inr (.list (entries.map fun entry => .ofKey entry.1))
      | _ => throw .unresolvable
    | "oc.dict.values", [.text way] => do
      let node ← target scope fuel busy site way.lossy
      match node.value with
      | .record entries =>
        return .inr (.list (entries.map fun entry => entryReference way.lossy entry.1))
      | _ => throw .unresolvable
    | "oc.decode", [.null] => .ok (.inr .null)
    | "oc.decode", [.text s] =>
      match readArgument? s.lossy with
      | none => .error .unresolvable
      | some argument => do
        let value ← evaluate scope fuel busy site argument
        return .inr value
    | source, _ => .error (if inwardSources.contains source then .unresolvable else .unknownSource)

/-- The setting at the end of a way that must be there. -/
def target (scope : Scope) : Nat → List Site → Site → String → Except Fault Node
  | 0, _, _, _ => .error .unresolvable
  | fuel + 1, busy, site, way =>
    match scope.start? site.dropLast way with
    | none => .error .unresolvable
    | some (start, keys) => do
      match ← walk scope fuel busy true start keys with
      | some node => return node
      | none => throw .unresolvable

/-- The value of an argument. -/
def evaluate (scope : Scope) : Nat → List Site → Site → Argument → Except Fault Json
  | 0, _, _, _ => .error .unresolvable
  | fuel + 1, busy, site, argument =>
    match argument with
    | .plain value => .ok value
    | .unreadable => .error .unresolvable
    | .pieces [piece] => do
      let found ← follow scope fuel busy site piece
      return foundValue found
    | .pieces content | .quoted content => do
      let text ← concatenate scope fuel busy site content
      return .text text
    | .list items => do
      let values ← evaluateAll scope fuel busy site items
      return .list values
    | .record entries => do
      let values ← evaluateAll scope fuel busy site (entries.map (·.2))
      return .record ((entries.map (·.1)).zip values)

/-- The values of arguments. -/
def evaluateAll (scope : Scope) : Nat → List Site → Site → List Argument → Except Fault (List Json)
  | 0, _, _, _ => .error .unresolvable
  | _ + 1, _, _, [] => .ok []
  | fuel + 1, busy, site, argument :: rest => do
    let value ← evaluate scope fuel busy site argument
    let values ← evaluateAll scope fuel busy site rest
    return value :: values

/-- What some keys lead to from a node.  References on the way and at its end are resolved.  A
setting that still has to be given, and a way through a value without parts, are faults if
`strict`, and else lead to nothing. -/
def walk (scope : Scope) : Nat → List Site → Bool → Node → List String →
    Except Fault (Option Node)
  | 0, _, _, _, _ => .error .unresolvable
  | _ + 1, _, _, node, [] => .ok (some node)
  | fuel + 1, busy, strict, node, key :: keys => do
    match part node key with
    | .error fault => if strict then throw fault else return none
    | .ok none => return none
    | .ok (some found) =>
      if isMissing found.value then
        if strict then throw .missing else return if keys.isEmpty then some found else none
      else
        let found ← resolve scope fuel busy found
        if keys.isEmpty then return some found else walk scope fuel busy strict found keys

end

/-! ## Whole trees -/

mutual

/-- What a node holds with every reference in it resolved; `around` are the sites of the sections
that it is being resolved for. -/
def content (scope : Scope) : Nat → List Site → Node → Except Fault Json
  | 0, _, _ => .error .unresolvable
  | fuel + 1, around, node =>
    match node.value with
    | .list items =>
      if around.contains node.site then .error .unresolvable
      else do
        let items ← contents scope fuel (node.site :: around) (items.zipIdx.map fun (item, index) =>
          ⟨node.site ++ [.integer index], item⟩)
        return .list items
    | .record entries =>
      if around.contains node.site then .error .unresolvable
      else do
        let values ← contents scope fuel (node.site :: around) (entries.map fun (key, value) =>
          ⟨node.site ++ [key], value⟩)
        return .record ((entries.map (·.1)).zip values)
    | value => .ok value

/-- What some nodes hold, each after the references in it are resolved. -/
def contents (scope : Scope) : Nat → List Site → List Node → Except Fault (List Json)
  | 0, _, _ => .error .unresolvable
  | _ + 1, _, [] => .ok []
  | fuel + 1, around, node :: rest => do
    let found ← resolve scope fuel [] node
    let first ← content scope fuel around found
    let others ← contents scope fuel around rest
    return first :: others

end

/-- **A value that is neither a list nor a record is its own content.** -/
theorem content_scalar (scope : Scope) (fuel : Nat) (around : List Site) (site : Site)
    (value : Json) (hl : ∀ items, value ≠ .list items) (hr : ∀ entries, value ≠ .record entries) :
    content scope (fuel + 1) around ⟨site, value⟩ = .ok value := by
  cases value with
  | list items => exact absurd rfl (hl items)
  | record entries => exact absurd rfl (hr entries)
  | _ => simp [content]

/-- Fuel that suffices to resolve the references in a tree. -/
def fuelIn (root : Json) : Nat :=
  10 * root.shown.length + 1000

/-- A tree of settings with all references replaced. -/
def resolveAll (scope : Scope) : Except Fault Json :=
  content scope (fuelIn scope.root) [] ⟨[], scope.root⟩

end WasmCoverage.Template
