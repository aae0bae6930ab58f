import WasmCoverage.Path.Basic
import WasmCoverage.Text.Split

/-!
# Command lines and environment of the build tool

Arguments are passed to `cargo` untouched; those after the first `--` belong to the binaries that
are run afterwards.  An instrumented build is told its flags, its target directory and the
workspace by environment variables.
-/

namespace WasmCoverage.Cargo

open WasmCoverage.Text

/-- Environment variables, in the order in which they are set. -/
abbrev Environment := List (String × String)

/-- The word that ends the build tool's own arguments. -/
def separator : String := "--"

/-- What stands before the first separator, and what stands after it. -/
def splitAtFirst {α : Type} (isSeparator : α → Bool) (items : List α) : List α × List α :=
  (items.takeWhile (!isSeparator ·), (items.dropWhile (!isSeparator ·)).drop 1)

/-- The arguments before the first separator, and those after it. -/
def splitArguments (arguments : List String) : List String × List String :=
  splitAtFirst (· = separator) arguments

/-- **Without a separator all arguments are the build tool's own.** -/
theorem splitArguments_of_not_mem {arguments : List String} (h : separator ∉ arguments) :
    splitArguments arguments = (arguments, []) := by
  have hne : ∀ a ∈ arguments, a ≠ separator := fun a ha e => h (e ▸ ha)
  induction arguments with
  | nil => rfl
  | cons a rest ih =>
    have ha : a ≠ separator := hne a (by simp)
    have := ih (fun hm => h (List.mem_cons_of_mem _ hm)) fun b hb =>
      hne b (List.mem_cons_of_mem _ hb)
    simp only [splitArguments, splitAtFirst, Prod.mk.injEq] at this ⊢
    rw [List.takeWhile_cons_of_pos (by simpa using ha),
      List.dropWhile_cons_of_pos (by simpa using ha), this.1, this.2]
    exact ⟨rfl, rfl⟩

/-- **The first separator is dropped, and every later one is kept.** -/
theorem splitArguments_append {before : List String} (after : List String)
    (h : separator ∉ before) : splitArguments (before ++ separator :: after) = (before, after) := by
  induction before with
  | nil => simp [splitArguments, splitAtFirst]
  | cons a rest ih =>
    simp only [List.mem_cons, not_or] at h
    have := ih h.2
    have ha : a ≠ separator := Ne.symm h.1
    simp only [splitArguments, splitAtFirst, Prod.mk.injEq, List.cons_append] at this ⊢
    rw [List.takeWhile_cons_of_pos (by simpa using ha),
      List.dropWhile_cons_of_pos (by simpa using ha), this.1, this.2]
    exact ⟨rfl, rfl⟩

/-- Call the build tool; on demand it reports in JSON messages. -/
def command (subcommand : String) (arguments : List String) (messages : Bool) : List String :=
  ["cargo", subcommand] ++ (if messages then ["--message-format=json"] else []) ++ arguments

/-- The variable that names the workspace. -/
def workspaceVariable : String := "WASMCOV_DIR"

/-- The variables of an instrumented build.  Its flags need a nightly compiler, so that is asked
for if it is not the active one. -/
def environment (flags : List String) (targetDirectory workspace : Path) (nightly : Bool) :
    Environment :=
  [("CARGO_ENCODED_RUSTFLAGS", joinText "\x1f" flags),
   ("CARGO_TARGET_DIR", targetDirectory.text),
   (workspaceVariable, workspace.text)] ++
    (if nightly then [] else [("RUSTUP_TOOLCHAIN", "nightly")])

end WasmCoverage.Cargo
