import WasmCoverage.Proofs.Disk.Effects
import WasmCoverage.Tool.Adapter

/-!
# Compilers

The compiler is not part of the library.  What the pipeline relies on is said here: called to
compile an IR file, it writes no other file than the object it was asked for, and where it succeeds
the object is made of what the IR file holds.  `Tool.copier` is such a compiler.
-/

namespace WasmCoverage

open WasmCoverage.Text

/-- What the tools answer when they are asked to compile. -/
def Toolbox.compilation (tools : Toolbox) (compiler triple : String) (calls : List Call)
    (ir object : Path) (disk : Disk) : Response :=
  tools calls ⟨false, Tool.compileCommand compiler ir object triple, none⟩ disk

/-- The compiler writes no file but the object. -/
structure Toolbox.Emits (tools : Toolbox) (compiler triple : String) : Prop where
  /-- Only the object is written, and it is written as a file. -/
  stays : ∀ calls ir object disk, Path.Proper ir → Path.Proper object →
    Disk.Refiles (fun location => disk.find object true = .ok location) disk
      (tools.compilation compiler triple calls ir object disk).disk

/-- The compiler writes objects, and nothing else. -/
structure Toolbox.Compiles (tools : Toolbox) (compiler triple : String)
    (objectOf : Octets → Octets) : Prop extends tools.Emits compiler triple where
  /-- An object is made of the content of the IR. -/
  writes : ∀ calls ir object disk output data, Path.Proper ir → Path.Proper object →
    (tools.compilation compiler triple calls ir object disk).outcome = .ok output →
    disk.content? ir = some data →
    (tools.compilation compiler triple calls ir object disk).disk.content? object =
      some (objectOf data)

namespace Tool

/-- The answer of a tool that does something to the disk. -/
def answer (action : Disk.Action Unit) (disk : Disk) : Response :=
  match action.run.run disk with
  | (.ok (), after) => { outcome := .ok "", disk := after }
  | (.error error, after) => { outcome := .error (.disk error), disk := after }

/-- A compiler whose objects are copies of the IR. -/
def copier : Toolbox := fun _ request disk =>
  match request.argv with
  | [_, _, _, _, _, object, ir] =>
    answer (do Disk.write (.ofText object) (← Disk.read (.ofText ir))) disk
  | _ => { outcome := .ok "", disk }

lemma disk_answer (action : Disk.Action Unit) (disk : Disk) :
    ∃ r, Ends action disk r (answer action disk).disk ∧
      ∀ output, (answer action disk).outcome = .ok output → r = .ok () := by
  obtain ⟨r, after, h⟩ := exists_ends action disk
  have hrun : action.run.run disk = (r, after) := h
  rw [answer, hrun]
  cases r with
  | ok value => exact ⟨.ok value, h, fun _ _ => rfl⟩
  | error error => exact ⟨.error error, h, fun _ houtcome => by cases houtcome⟩

/-- It is a compiler. -/
theorem compiles_copier (compiler triple : String) : copier.Compiles compiler triple id := by
  have hanswer (calls : List Call) {ir object : Path} (disk : Disk) (hir : ir.Proper)
      (hobject : object.Proper) : copier.compilation compiler triple calls ir object disk =
        answer (do Disk.write object (← Disk.read ir)) disk := by
    simp only [Toolbox.compilation, copier, compileCommand, Path.ofText_text hir,
      Path.ofText_text hobject]
  refine ⟨⟨?_⟩, ?_⟩
  · intro calls ir object disk hir hobject
    rw [hanswer calls disk hir hobject]
    obtain ⟨r, h, -⟩ := disk_answer (do Disk.write object (← Disk.read ir)) disk
    rcases ends_bind.1 h with ⟨data, d, hread, hwrite⟩ | ⟨error, hread, -⟩
    · obtain rfl : disk = d := Disk.respects_read _ _ _ hread
      exact Disk.refiles_write hwrite
    · rw [← Disk.respects_read _ _ _ hread]
      exact Disk.Refiles.refl _ _
  · intro calls ir object disk output data hir hobject houtcome hdata
    rw [hanswer calls disk hir hobject] at houtcome ⊢
    obtain ⟨r, h, hr⟩ := disk_answer (do Disk.write object (← Disk.read ir)) disk
    obtain rfl := hr output houtcome
    obtain ⟨octets, d, hread, hwrite⟩ := ends_bind_ok.1 h
    obtain ⟨⟨-, hcontent⟩, rfl⟩ := Disk.ends_read_ok.1 hread
    obtain rfl := Option.some.inj (hcontent.symm.trans hdata)
    exact Disk.content?_write hwrite

end Tool

end WasmCoverage
