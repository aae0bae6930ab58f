import WasmCoverage.Disk.Error
import WasmCoverage.Table
import WasmCoverage.Text.Utf8

/-!
# The disk

A disk is a table of nodes by location.  A location is the list of names that lead to it, the
innermost first, so that the directory of `name :: dir` is `dir` and everything below `dir` has
`dir` as a suffix; the root directory `[]` is always there.  A directory lists its entries in the
order of the table.  Other file systems may be mounted on some directories, and the system does not
let go of these.

Finding a path means walking: each name is looked up in a directory, `..` goes out again, and a
symbolic link is replaced by its target.  `walk` follows at most `linkLimit` links.

Main statements: `node?_put_self` and `node?_put_of_ne` (one location is written), and
`node?_drop_of_suffix` and `node?_drop_of_not_suffix` (one subtree is removed).
-/

namespace WasmCoverage

open WasmCoverage.Text

/-- The names that lead to a place on the disk, the innermost first. -/
abbrev Location := List String

/-- What is at a place on the disk. -/
inductive Node where
  | directory
  | file (data : Octets) (executable : Bool)
  | link (target : Path)
  deriving DecidableEq, Repr

/-- A disk, the current directory, and the directories with a file system mounted on them. -/
structure Disk where
  entries : List (Location × Node)
  here : Location
  mounts : List Location := []
  deriving Repr

namespace Disk

/-! ## Nodes -/

/-- What is at a location. -/
def node? (disk : Disk) (location : Location) : Option Node :=
  if location = [] then some .directory else Table.get? location disk.entries

/-- The disk with a node put at a location. -/
def put (disk : Disk) (location : Location) (node : Node) : Disk :=
  { disk with entries := Table.insert location node disk.entries }

/-- The disk without a location and everything below it. -/
def drop (disk : Disk) (location : Location) : Disk :=
  { disk with entries := disk.entries.filter fun entry => !location.isSuffixOf entry.1 }

/-- The entries of a directory. -/
def children (disk : Disk) (directory : Location) : List (String × Node) :=
  disk.entries.filterMap fun
    | (name :: parent, node) => if parent = directory then some (name, node) else none
    | ([], _) => none

/-- **What is put at a location is found there.** -/
theorem node?_put_self (disk : Disk) {location : Location} (node : Node) (h : location ≠ []) :
    (disk.put location node).node? location = some node := by
  simp [node?, put, h, Table.get?_insert_self]

/-- **Every other location is as before.** -/
theorem node?_put_of_ne (disk : Disk) {location other : Location} (node : Node)
    (h : other ≠ location) : (disk.put location node).node? other = disk.node? other := by
  simp [node?, put, Table.get?_insert_of_ne node disk.entries h]

theorem get?_filter_of_pos {entries : List (Location × Node)} {location : Location}
    (keep : Location → Bool) (h : keep location = true) :
    Table.get? location (entries.filter fun entry => keep entry.1) =
      Table.get? location entries := by
  induction entries with
  | nil => rfl
  | cons entry rest ih =>
    obtain ⟨l, n⟩ := entry
    by_cases hl : l = location
    · subst hl
      simp [h, Table.get?]
    · by_cases hk : keep l = true <;> simp [hk, Table.get?, hl, ih]

theorem get?_filter_of_neg {entries : List (Location × Node)} {location : Location}
    (keep : Location → Bool) (h : keep location = false) :
    Table.get? location (entries.filter fun entry => keep entry.1) = none := by
  induction entries with
  | nil => rfl
  | cons entry rest ih =>
    obtain ⟨l, n⟩ := entry
    by_cases hl : l = location
    · subst hl
      simp [h, ih]
    · by_cases hk : keep l = true <;> simp [hk, Table.get?, hl, ih]

/-- **A removed subtree is gone.** -/
theorem node?_drop_of_suffix (disk : Disk) {location below : Location} (hne : location ≠ [])
    (h : location <:+ below) : (disk.drop location).node? below = none := by
  have : below ≠ [] := by
    rintro rfl
    exact hne (List.suffix_nil.1 h)
  simp only [node?, drop, this, if_false]
  exact get?_filter_of_neg (fun l => !location.isSuffixOf l) (by simpa using h)

/-- **Nothing else goes with it.** -/
theorem node?_drop_of_not_suffix (disk : Disk) {location other : Location}
    (h : ¬ location <:+ other) : (disk.drop location).node? other = disk.node? other := by
  simp only [node?, drop]
  have keep : (!location.isSuffixOf other) = true := by
    rw [Bool.not_eq_true', ← Bool.not_eq_true, List.isSuffixOf_iff_suffix]
    exact h
  rw [get?_filter_of_pos (fun l => !location.isSuffixOf l) keep]

/-! ## Limits -/

/-- The largest number of octets in a name. -/
def nameLimit : Nat := 255

/-- The largest number of octets in the text of a path. -/
def pathLimit : Nat := 4095

/-- The largest number of links that a walk follows. -/
def linkLimit : Nat := 40

/-! ## Walking -/

/-- How a walk through names without following links ends. -/
inductive Walk where
  /-- At a location.  Its directory is there; it need not be itself. -/
  | arrived (location : Location)
  /-- At a link in a directory, with names left. -/
  | linked (directory : Location) (target : Path) (rest : List String)

/-- A walk from a location through names, up to the first link; a link that is the last name is
an arrival unless it is to be followed. -/
def step (disk : Disk) (follow : Bool) (location : Location) : List String → Except Cause Walk
  | [] => .ok (.arrived location)
  | name :: rest =>
    match disk.node? location with
    | none => .error .missing
    | some .directory =>
      if name.utf8ByteSize > nameLimit then .error .nameTooLong
      else if name = ".." then step disk follow location.tail rest
      else
        match disk.node? (name :: location) with
        | some (.link target) =>
          if rest.isEmpty && !follow then .ok (.arrived (name :: location))
          else .ok (.linked location target rest)
        | _ => step disk follow (name :: location) rest
    | some _ => .error .notDirectory

/-- Where an anchored walk begins. -/
def start (disk : Disk) : Anchor → Location
  | .relative => disk.here
  | _ => []

/-- A walk from a location through names, following links as long as there are some to spare. -/
def walk (disk : Disk) (follow : Bool) : Nat → Location → List String → Except Cause Location
  | 0, _, _ => .error .tooManyLinks
  | spare + 1, location, names => do
    match ← disk.step follow location names with
    | .arrived location => return location
    | .linked directory target rest =>
      let first := if target.isAbsolute then [] else directory
      walk disk follow spare first (target.names ++ rest)

/-- The location that a path leads to, or why it cannot be reached. -/
def find (disk : Disk) (path : Path) (follow : Bool) : Except Cause Location :=
  if path.text.utf8ByteSize > pathLimit then .error .nameTooLong
  else disk.walk follow (linkLimit + 1) (disk.start path.anchor) path.names

/-- The node that a path leads to, if any. -/
def look (disk : Disk) (path : Path) (follow : Bool) : Except Cause Node := do
  match disk.node? (← disk.find path follow) with
  | some node => return node
  | none => throw .missing

end Disk

end WasmCoverage
