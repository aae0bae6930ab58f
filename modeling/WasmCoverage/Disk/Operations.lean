import WasmCoverage.Disk.Basic

/-!
# Operations on the disk

What a program can do to the disk: ask for the kind of a path, make directories, read, write and
copy files, remove files and trees, and find the real path behind links.  An operation either
answers or fails with an error, and what it had done until then stays done.

Asking for the kind of a path is forgiving: a path that leads nowhere is of no kind.  Only a name
beyond the limits is an error even then.
-/

namespace WasmCoverage.Disk

open WasmCoverage.Text

/-- Something done to the disk. -/
abbrev Action := ExceptT Error (StateM Disk)

/-- The refusal for a cause, about a path. -/
def refuse {α : Type} (cause : Cause) (path : Path) : Action α :=
  throw (.system (cause.about path))

/-- Is there a NUL in the path? -/
def hasNul (path : Path) : Bool :=
  path.names.any fun name => name.toList.contains '\x00'

/-- The location a path leads to. -/
def locate (path : Path) (follow : Bool) : Action Location := do
  if hasNul path then throw .nullByte
  match (← get).find path follow with
  | .ok location => return location
  | .error cause => refuse cause path

/-! ## Kinds -/

/-- Does the path lead to a node of a kind? -/
def leadsTo (kind : Node → Bool) (path : Path) : Action Bool := do
  if hasNul path then return false
  match (← get).look path true with
  | .ok node => return kind node
  | .error .nameTooLong => refuse .nameTooLong path
  | .error _ => return false

/-- Does the path lead to anything? -/
def pathExists (path : Path) : Action Bool :=
  leadsTo (fun _ => true) path

/-- Does the path lead to a file? -/
def isFile (path : Path) : Action Bool :=
  leadsTo (fun node => match node with | .file _ _ => true | _ => false) path

/-- Does the path lead to a directory? -/
def isDirectory (path : Path) : Action Bool :=
  leadsTo (fun node => node = .directory) path

/-! ## Directories -/

/-- Make a directory where nothing is. -/
def makeDirectory (path : Path) : Action Unit := do
  let location ← locate path false
  match (← get).node? location with
  | some _ => refuse .present path
  | none => modify (·.put location .directory)

/-- Make a directory with all directories it lies in, given the names from the innermost one
outwards; those that are there already stay. -/
def makeDirectoriesFrom (anchor : Anchor) : List String → Action Unit
  | [] => pure ()
  | name :: outer => do
    let path : Path := ⟨anchor, (name :: outer).reverse⟩
    let standing (error : Error) : Action Unit := do
      unless ← isDirectory path do throw error
    try makeDirectory path
    catch error =>
      match error with
      | .system refusal =>
        if refusal.code = Cause.missing.code then
          makeDirectoriesFrom anchor outer
          try makeDirectory path
          catch again =>
            match again with
            | .system refusal =>
              if refusal.code = Cause.missing.code then throw again else standing again
            | _ => throw again
        else standing error
      | _ => throw error

/-- Make a directory with all directories it lies in. -/
def makeDirectories (path : Path) : Action Unit :=
  makeDirectoriesFrom path.anchor path.names.reverse

/-! ## Files -/

/-- The octets of a file. -/
def read (path : Path) : Action Octets := do
  match (← get).node? (← locate path true) with
  | some (.file data _) => return data
  | some _ => refuse .isDirectory path
  | none => refuse .missing path

/-- Write a file, in place of one that is there. -/
def write (path : Path) (data : Octets) : Action Unit := do
  let location ← locate path true
  match (← get).node? location with
  | some (.file _ executable) => modify (·.put location (.file data executable))
  | some _ => refuse .isDirectory path
  | none => modify (·.put location (.file data false))

/-- Write a file where nothing is. -/
def create (path : Path) (data : Octets) : Action Unit := do
  let location ← locate path false
  match (← get).node? location with
  | some _ => refuse .present path
  | none => modify (·.put location (.file data false))

/-- Copy the octets of a file to another. -/
def copyFile (source target : Path) : Action Unit := do
  let disk ← get
  if hasNul source || hasNul target then throw .nullByte
  if let (.ok a, .ok b) := (disk.find source true, disk.find target true) then
    if a = b && (disk.node? a).isSome then
      throw (.sameFile (quote source.text) (pathValue target))
  write target (← read source)

/-! ## Removing -/

/-- Remove a file or a link. -/
def remove (path : Path) : Action Unit := do
  let location ← locate path false
  match (← get).node? location with
  | some .directory => refuse .isDirectory path
  | some _ => modify (·.drop location)
  | none => refuse .missing path

/-- Remove a file or a link, if it is there. -/
def removeIfThere (path : Path) : Action Unit := do
  try remove path
  catch error =>
    match error with
    | .system refusal => if refusal.code = Cause.missing.code then pure () else throw error
    | _ => throw error

/-- The length of the longest location on a disk. -/
def depth (disk : Disk) : Nat :=
  disk.entries.foldr (fun entry most => max entry.1.length most) 0

theorem length_le_depth {disk : Disk} {entry : Location × Node} (h : entry ∈ disk.entries) :
    entry.1.length ≤ disk.depth := by
  obtain ⟨entries, here, mounts⟩ := disk
  dsimp only [depth] at h ⊢
  induction entries with
  | nil => cases h
  | cons first rest ih =>
    rw [List.foldr_cons]
    rcases List.mem_cons.1 h with rfl | hrest
    · exact Nat.le_max_left _ _
    · exact Nat.le_trans (ih hrest) (Nat.le_max_right _ _)

theorem length_lt_depth {disk : Disk} {directory : Location} {child : String × Node}
    (h : child ∈ disk.children directory) : directory.length < disk.depth := by
  obtain ⟨⟨location, node⟩, hentry, hchild⟩ := List.mem_filterMap.1 h
  cases location with
  | nil => cases hchild
  | cons name parent =>
    obtain ⟨rfl, -⟩ := Option.ite_none_right_eq_some.1 hchild
    exact length_le_depth hentry

/-- A directory and what is below it in the order in which it is removed: the entries as they are
listed, in place of one that is a directory what is removed with it, and the directory last. -/
def sweep (disk : Disk) (directory : Location) : List Location :=
  ((disk.children directory).attach.flatMap fun ⟨(name, node), _⟩ =>
    if node = .directory then sweep disk (name :: directory) else [name :: directory]) ++
      [directory]
  termination_by disk.depth - directory.length
  decreasing_by
    have := length_lt_depth ‹_›
    simp only [List.length_cons]
    omega

/-- Remove what is at a location, which messages show as a path.  The system does not let go of a
directory with a file system mounted on it. -/
def release (shown : Path) (location : Location) : Action Unit := do
  if location ∈ (← get).mounts then refuse .busy shown else modify (·.drop location)

/-- What messages show for a location while a directory is removed: its name, but the path as it was
given for the directory. -/
def shownIn (path : Path) (directory location : Location) : Path :=
  if location = directory then path else ⟨.relative, location.take 1⟩

/-- Remove a directory with everything below it, one entry after the other, up to the first that the
system does not let go of. -/
def removeTree (path : Path) : Action Unit := do
  let directory ← locate path false
  let disk ← get
  match disk.node? directory with
  | some .directory =>
    (disk.sweep directory).forM fun location => release (shownIn path directory location) location
  | some (.file _ _) =>
    throw (.system ⟨Cause.notDirectory.code, Cause.notDirectory.text, some (pathValue path)⟩)
  | some (.link _) => throw .linkedTree
  | none => refuse .missing path

/-! ## Real paths -/

/-- The number of links on a disk. -/
def linkCount (disk : Disk) : Nat :=
  disk.entries.countP fun entry => entry.2 matches .link _

/-- The location that names lead to from a location, behind all links.  Names that lead nowhere are
taken as they are.  There is none if more links than `spare` are inside one another, which shows
that they lead in a circle if the disk has no more. -/
def behindLinks (disk : Disk) (spare : Nat) (location : Location) :
    List String → Option Location
  | [] => some location
  | name :: rest =>
    if name = ".." then behindLinks disk spare location.tail rest
    else
      match disk.node? (name :: location), spare with
      | some (.link _), 0 => none
      | some (.link target), spare + 1 => do
        let first := if target.isAbsolute then [] else location
        let inner ← behindLinks disk spare first target.names
        behindLinks disk (spare + 1) inner rest
      | _, spare => behindLinks disk spare (name :: location) rest
  termination_by names => (spare, names.length)

/-- The path of a location. -/
def pathOf (location : Location) : Path :=
  ⟨.root, location.reverse⟩

/-- The real path behind a path: absolute, and free of links and `..`. -/
def resolve (path : Path) : Action Path := do
  if hasNul path then throw .nullByte
  let disk ← get
  match disk.behindLinks disk.linkCount (disk.start path.anchor) path.names with
  | some location => return pathOf location
  | none => throw .linkLoop

end WasmCoverage.Disk
