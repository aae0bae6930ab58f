import WasmCoverage.Text.Split

/-!
# Paths

A path is an anchor and a list of names.  Reading a path drops empty names and `.`, so
`a//b/./c/` is `a/b/c`; `..` stays, since what it means depends on symbolic links.  A text that
begins with exactly two slashes keeps both; three or more count as one.

The last name carries a stem and a suffix: the suffix begins at the last dot, if that dot is
neither the first nor the last character of the name.  So `.wasm` has no suffix and `a.tar.gz`
has the stem `a.tar`.

Main statements: a path that is read has no empty name and no `.` (`wellFormed_ofText`), and a
name is its stem followed by its suffix (`stem_append_suffix`).
-/

namespace WasmCoverage

open WasmCoverage.Text

/-- Where a path begins. -/
inductive Anchor where
  /-- At the current directory. -/
  | relative
  /-- At the root directory. -/
  | root
  /-- At the root directory, written with two slashes. -/
  | doubleRoot
  deriving DecidableEq, Repr

/-- The text of an anchor. -/
def Anchor.text : Anchor → String
  | relative => ""
  | root => "/"
  | doubleRoot => "//"

/-- A path: an anchor and names. -/
structure Path where
  anchor : Anchor
  names : List String
  deriving DecidableEq, Repr

namespace Path

/-! ## Reading and writing -/

/-- The anchor that a text begins with. -/
def anchorOf : List Char → Anchor
  | '/' :: '/' :: '/' :: _ => .root
  | '/' :: '/' :: _ => .doubleRoot
  | '/' :: _ => .root
  | _ => .relative

/-- The names that a text spells, without the empty ones and the `.`s. -/
def namesOf (text : List Char) : List String :=
  ((splitOn '/' text).filter fun name => name ≠ [] ∧ name ≠ ['.']).map String.ofList

/-- The path that a text spells. -/
def ofText (text : String) : Path :=
  ⟨anchorOf text.toList, namesOf text.toList⟩

/-- The text of a path; the path without names at the current directory is `.`. -/
def text (path : Path) : String :=
  match path.anchor, path.names with
  | .relative, [] => "."
  | anchor, names => anchor.text ++ joinText "/" names

instance : ToString Path := ⟨text⟩

/-- No name is empty or `.`. -/
def WellFormed (path : Path) : Prop :=
  ∀ name ∈ path.names, name ≠ "" ∧ name ≠ "."

/-- **A path that is read has no empty name and no `.`.** -/
theorem wellFormed_ofText (text : String) : (ofText text).WellFormed := by
  intro name h
  simp only [ofText, namesOf, List.mem_map, List.mem_filter] at h
  obtain ⟨chars, ⟨_, hne⟩, rfl⟩ := h
  simp only [ne_eq, Bool.decide_and, decide_not, Bool.and_eq_true, Bool.not_eq_true',
    decide_eq_false_iff_not] at hne
  refine ⟨fun h => hne.1 ?_, fun h => hne.2 ?_⟩
  · simpa using congrArg String.toList h
  · simpa using congrArg String.toList h

/-! ## Building -/

/-- The path of `child` seen from `path`; a child with an anchor of its own replaces it. -/
def append (path child : Path) : Path :=
  match child.anchor with
  | .relative => ⟨path.anchor, path.names ++ child.names⟩
  | _ => child

instance : Append Path := ⟨append⟩

/-- The path of the named entry of a directory. -/
def child (path : Path) (name : String) : Path :=
  path ++ ofText name

/-- The directory that holds the path's last name; a path without names is its own. -/
def parent (path : Path) : Path :=
  ⟨path.anchor, path.names.dropLast⟩

/-- The last name, or nothing. -/
def name (path : Path) : String :=
  path.names.getLast?.getD ""

/-- Does the path begin at the root? -/
def isAbsolute (path : Path) : Bool :=
  path.anchor ≠ .relative

/-! ## Stem and suffix -/

/-- A name cut at its last dot, unless that is its first or last character: the stem, and the
suffix with its dot. -/
def cutSuffix (name : List Char) : List Char × List Char :=
  let tail := name.reverse.takeWhile (· ≠ '.')
  let stem := (name.reverse.drop (tail.length + 1)).reverse
  if tail = [] ∨ stem = [] then (name, []) else (stem, '.' :: tail.reverse)

/-- The stem of a name. -/
def stemOf (name : String) : String :=
  String.ofList (cutSuffix name.toList).1

/-- The suffix of a name, with its dot. -/
def suffixOf (name : String) : String :=
  String.ofList (cutSuffix name.toList).2

/-- The stem of the last name. -/
def stem (path : Path) : String :=
  stemOf path.name

/-- The path with the suffix of its last name replaced; nothing for a path without names. -/
def withSuffix? (path : Path) (suffix : String) : Option Path :=
  if path.names.isEmpty then none
  else some ⟨path.anchor, path.names.dropLast ++ [path.stem ++ suffix]⟩

theorem takeWhile_ne_append_drop {name : List Char} {c : Char}
    (h : name.drop ((name.takeWhile (· ≠ c)).length + 1) ≠ []) :
    name.takeWhile (· ≠ c) ++ c :: name.drop ((name.takeWhile (· ≠ c)).length + 1) = name := by
  induction name with
  | nil => simp at h
  | cons x rest ih =>
    by_cases hx : x = c
    · subst hx
      simp
    · simp only [List.takeWhile_cons, ne_eq, hx, not_false_eq_true, decide_true, if_true,
        List.length_cons, List.drop_succ_cons, List.cons_append, List.cons.injEq, true_and] at h ⊢
      exact ih h

/-- **A name is its stem followed by its suffix.** -/
theorem cutSuffix_append (name : List Char) : (cutSuffix name).1 ++ (cutSuffix name).2 = name := by
  simp only [cutSuffix]
  split
  · simp
  · next h =>
    simp only [not_or, ne_eq, List.reverse_eq_nil_iff] at h
    have := takeWhile_ne_append_drop h.2
    have := congrArg List.reverse this
    simpa using this

/-- **A name is its stem followed by its suffix.** -/
theorem stem_append_suffix (name : String) : stemOf name ++ suffixOf name = name := by
  rw [stemOf, suffixOf, ← String.ofList_append, cutSuffix_append, String.ofList_toList]

/-! ## Order -/

/-- The names with the anchor before them: paths are compared name by name. -/
def sortKey (path : Path) : List String :=
  if path.anchor = .relative then path.names else path.anchor.text :: path.names

/-- Is the first path not after the second, name by name and in the order of code points? -/
def before (a b : Path) : Bool :=
  !decide (b.sortKey < a.sortKey)

/-- The paths in order. -/
def sort (paths : List Path) : List Path :=
  paths.mergeSort before

end Path

end WasmCoverage
