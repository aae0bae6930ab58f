import WasmCoverage.Proofs.Tool.Compiler

/-!
# Profile tools

The profile tool is not part of the library either.  What the pipeline relies on is that a call to
merge samples writes no file but the profile it was asked for.  `Tool.joiner` is such a tool: its
profiles are the samples one after another, and it fails if there is nothing in them.
-/

namespace WasmCoverage

open WasmCoverage.Text

/-- What the tools answer when they are asked to merge. -/
def Toolbox.merging (tools : Toolbox) (tool : String) (extra : List String) (calls : List Call)
    (samples : List Path) (profile : Path) (disk : Disk) : Response :=
  tools calls ⟨false, Tool.mergeCommand tool samples profile extra, none⟩ disk

/-- Only the profile is written, and it is written as a file. -/
def Toolbox.Merges (tools : Toolbox) (tool : String) (extra : List String) : Prop :=
  ∀ calls samples profile disk, Path.Proper profile →
    Disk.Refiles (fun location => disk.find profile true = .ok location) disk
      (tools.merging tool extra calls samples profile disk).disk

namespace Tool

/-- A profile tool that joins samples. -/
def joiner : Toolbox := fun _ request disk =>
  match (request.argv.drop 3).reverse with
  | profile :: _ :: inputs =>
    let data := (inputs.reverse.filterMap fun input => disk.content? (.ofText input)).flatten
    if data = [] then
      { outcome := .error (.tool ⟨request.argv, 1, "no counters"⟩), disk }
    else answer (Disk.write (.ofText profile) data) disk
  | _ => { outcome := .ok "", disk }

/-- What is in the samples, one after another. -/
def joined (samples : List Path) (disk : Disk) : Octets :=
  ((mergeInputs samples).filterMap fun input => disk.content? (.ofText input)).flatten

/-- It fails if there is nothing in the samples, and writes the profile otherwise. -/
lemma merging_joiner (tool : String) (calls : List Call) (samples : List Path) {profile : Path}
    (disk : Disk) (hprofile : profile.Proper) :
    joiner.merging tool [] calls samples profile disk =
      if joined samples disk = [] then
        { outcome := .error (.tool ⟨mergeCommand tool samples profile [], 1, "no counters"⟩), disk }
      else answer (Disk.write profile (joined samples disk)) disk := by
  simp only [Toolbox.merging, joiner, mergeCommand, List.append_nil, List.cons_append,
    List.nil_append, List.drop_succ_cons, List.drop_zero, List.reverse_append, List.reverse_cons,
    List.reverse_nil, List.reverse_reverse, Path.ofText_text hprofile, joined]

/-- It is a profile tool. -/
theorem merges_joiner (tool : String) : joiner.Merges tool [] := by
  intro calls samples profile disk hprofile
  rw [merging_joiner tool calls samples disk hprofile]
  split
  · exact Disk.Refiles.refl _ _
  · obtain ⟨r, h, -⟩ := disk_answer (Disk.write profile (joined samples disk)) disk
    exact Disk.refiles_write h

/-- Where it succeeds there is a profile. -/
lemma content?_joiner {tool output : String} {calls : List Call} {samples : List Path}
    {profile : Path} {disk : Disk} (hprofile : profile.Proper)
    (h : (joiner.merging tool [] calls samples profile disk).outcome = .ok output) :
    ∃ data, (joiner.merging tool [] calls samples profile disk).disk.content? profile =
      some data := by
  rw [merging_joiner tool calls samples disk hprofile] at h ⊢
  split at h
  · cases h
  · next hdata =>
      obtain ⟨r, hwrite, hr⟩ := disk_answer (Disk.write profile (joined samples disk)) disk
      obtain rfl := hr output h
      rw [if_neg hdata]
      exact ⟨_, Disk.content?_write hwrite⟩

end Tool

end WasmCoverage
