import WasmCoverage.Path.Basic

/-!
# Command lines of the LLVM tools

Three tools turn artifacts into a report: the compiler makes an object of neutralized IR, the
profile tool merges raw samples, and the coverage tool renders a merged profile.

Main statement: `mergeInputs_perm`, the samples to merge are named in sorted order, whatever the
order they are given in.
-/

namespace WasmCoverage.Tool

/-- The triple that objects are compiled for unless another one is configured. -/
def defaultTriple : String := "x86_64-unknown-linux-gnu"

/-- Compile IR to an object. -/
def compileCommand (compiler : String) (ir object : Path) (triple : String) : List String :=
  [compiler, "--target=" ++ triple, "-Wno-override-module", "-c", "-o", object.text, ir.text]

/-- Is the first text not after the second? -/
def textBefore (a b : String) : Bool :=
  !decide (b < a)

/-- The samples to merge, as they are named on the command line. -/
def mergeInputs (samples : List Path) : List String :=
  (samples.map Path.text).mergeSort textBefore

/-- The order of texts. -/
theorem textBefore_iff {a b : String} : textBefore a b = true ↔ a ≤ b := by
  rw [textBefore, Bool.not_eq_true', decide_eq_false_iff_not, String.not_lt]

theorem textBefore_trans (a b c : String) (hab : textBefore a b = true)
    (hbc : textBefore b c = true) : textBefore a c = true :=
  textBefore_iff.2 (String.le_trans (textBefore_iff.1 hab) (textBefore_iff.1 hbc))

theorem textBefore_total (a b : String) : (textBefore a b || textBefore b a) = true := by
  simpa only [Bool.or_eq_true, textBefore_iff] using String.le_total a b

/-- The samples are named in order. -/
theorem pairwise_mergeInputs (samples : List Path) :
    (mergeInputs samples).Pairwise fun a b => textBefore a b = true := by
  unfold mergeInputs
  exact List.pairwise_mergeSort textBefore_trans textBefore_total _

/-- **The order in which samples are given does not matter.** -/
theorem mergeInputs_perm {samples others : List Path} (h : samples.Perm others) :
    mergeInputs samples = mergeInputs others := by
  refine List.Perm.eq_of_pairwise ?_ (pairwise_mergeInputs samples) (pairwise_mergeInputs others) ?_
  · exact fun a b _ _ hab hba =>
      String.le_antisymm (textBefore_iff.1 hab) (textBefore_iff.1 hba)
  · exact (List.mergeSort_perm _ _).trans ((h.map Path.text).trans (List.mergeSort_perm _ _).symm)

/-- Merge raw samples into one profile. -/
def mergeCommand (tool : String) (samples : List Path) (profile : Path) (extra : List String) :
    List String :=
  [tool, "merge", "-sparse"] ++ mergeInputs samples ++ ["-o", profile.text] ++ extra

/-- Render a merged profile as HTML. -/
def showCommand (tool : String) (profile object output : Path) (extra : List String) :
    List String :=
  [tool, "show", "--instr-profile", profile.text, object.text, "--format=html", "--output-dir",
    output.text] ++ extra

end WasmCoverage.Tool
