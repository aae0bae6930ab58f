import WasmCoverage.Disk.Operations

/-!
# Listing directories

A directory lists its entries in no particular order, so every listing is sorted before it is
used.  What is asked about the entries before that is asked in the order of the listing.
-/

namespace WasmCoverage.Disk

/-- The paths of the entries of a directory, as it lists them. -/
def listing (path : Path) : Action (List Path) := do
  let location ← locate path true
  let disk ← get
  match disk.node? location with
  | some .directory => return (disk.children location).map fun entry => path.child entry.1
  | some _ => refuse .notDirectory path
  | none => refuse .missing path

/-- The paths of the entries of a directory, in order. -/
def entriesOf (path : Path) : Action (List Path) := do
  return Path.sort (← listing path)

/-- Those of the paths that lead to files. -/
def filesAmong : List Path → Action (List Path)
  | [] => return []
  | path :: rest => do
    let file ← isFile path
    let others ← filesAmong rest
    return if file then path :: others else others

/-- The first of the paths that leads to a file and is accepted; no path behind it is looked at. -/
def firstFile (accepted : Path → Bool) : List Path → Action (Option Path)
  | [] => return none
  | path :: rest => do
    if ← isFile path then
      if accepted path then return some path else firstFile accepted rest
    else firstFile accepted rest

/-- Does a name end in a suffix? -/
def hasSuffix (suffix name : String) : Bool :=
  suffix.toList.isSuffixOf name.toList

/-- The files of a directory whose names end in a suffix, in order. -/
def filesWithSuffix (directory : Path) (suffix : String) : Action (List Path) := do
  let paths ← listing directory
  return Path.sort (← filesAmong (paths.filter fun path => hasSuffix suffix path.name))

end WasmCoverage.Disk
