import WasmCoverage.Path.Basic

/-!
# One path seen from another

The way from a directory to a path, as a link in a document needs it: up by `..` to the part that
both share, and down again.  Both paths are first made absolute and freed of `..`, by the text
alone: symbolic links are not looked at.

Main statements: `collapse` leaves no `..` in an absolute path (`not_mem_collapse`), and a path
seen from itself is `.` (`relativeTo_self`).
-/

namespace WasmCoverage.Path

open WasmCoverage.Text

/-- The names of an absolute path without `..`: each one takes away the name before it. -/
def collapseFrom (done : List String) : List String → List String
  | [] => done.reverse
  | name :: rest =>
    if name = ".." then collapseFrom done.tail rest else collapseFrom (name :: done) rest

/-- The names of an absolute path without `..`. -/
def collapse (names : List String) : List String :=
  collapseFrom [] names

theorem not_mem_collapseFrom {done names : List String} (h : ".." ∉ done) :
    ".." ∉ collapseFrom done names := by
  induction names generalizing done with
  | nil => simpa [collapseFrom] using h
  | cons name rest ih =>
    simp only [collapseFrom]
    split
    · exact ih fun hm => h (List.mem_of_mem_tail hm)
    · next hne => exact ih (by simp [h, Ne.symm hne])

/-- **No `..` is left.** -/
theorem not_mem_collapse (names : List String) : ".." ∉ collapse names :=
  not_mem_collapseFrom (by simp)

/-- The path made absolute from the directory `here`, without `..`. -/
def absolute (here : Path) (path : Path) : Path :=
  let whole := here ++ path
  ⟨whole.anchor, collapse whole.names⟩

/-- The names from the second list to the first: up to the part they share, and down again. -/
def namesBetween : List String → List String → List String
  | a :: target, b :: start =>
    if a = b then namesBetween target start else (b :: start).map (fun _ => "..") ++ a :: target
  | target, start => start.map (fun _ => "..") ++ target

/-- The way from `start` to `target`, both taken from the directory `here`. -/
def relativeTo (here start target : Path) : Path :=
  ⟨.relative, namesBetween (absolute here target).names (absolute here start).names⟩

theorem namesBetween_self (names : List String) : namesBetween names names = [] := by
  induction names with
  | nil => rfl
  | cons name rest ih => simp [namesBetween, ih]

/-- **A path seen from itself is `.`.** -/
theorem relativeTo_self (here path : Path) : (relativeTo here path path).text = "." := by
  simp [relativeTo, namesBetween_self, text]

end WasmCoverage.Path
