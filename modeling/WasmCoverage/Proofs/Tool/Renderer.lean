import WasmCoverage.Proofs.Disk.Tree
import WasmCoverage.Proofs.Tool.Merger

/-!
# Report tools

Nor is the tool that renders reports part of the library.  What the pipeline relies on is that it
writes nothing outside of the directory that the report is to go to.  `Tool.suite` is such a tool,
and a profile tool as well: a report is a directory with one page in it.
-/

namespace WasmCoverage

open WasmCoverage.Text

namespace Disk

variable {disk disk' : Disk} {places : Location → Prop} {location : Location}

/-- Nothing has changed but what is at one of the places, or below it. -/
structure Within (places : Location → Prop) (before after : Disk) : Prop where
  here : after.here = before.here
  mounts : after.mounts = before.mounts
  node : ∀ location, (∀ place, places place → ¬ place <:+ location) →
    after.node? location = before.node? location

lemma Within.of_eq (h : disk' = disk) : Within places disk disk' :=
  ⟨by rw [h], by rw [h], fun _ _ => by rw [h]⟩

/-- Where nothing was at the places, nothing that was there has changed. -/
lemma Within.node?_eq (h : Within places disk disk') (htree : disk.IsTree)
    (hclear : ∀ place, places place → disk.node? place = none)
    (hthere : disk.node? location ≠ none) : disk'.node? location = disk.node? location := by
  refine h.node location fun place hplace hsuffix => hthere ?_
  by_cases heq : location = place
  · rw [heq, hclear place hplace]
  · exact htree.node?_below (by simp [hclear place hplace]) hsuffix heq

end Disk

/-- Nothing but the report is written, in a directory that is there. -/
def Toolbox.Renders (tools : Toolbox) (tool : String) (extra : List String) : Prop :=
  ∀ calls profile object (base : Path) name disk, base.Proper → Path.IsName name →
    disk.IsTree → disk.HasDirectory base →
    let after := (tools calls
      ⟨false, Tool.showCommand tool profile object (base.child name) extra, none⟩ disk).disk
    after.IsTree ∧
      Disk.Within (fun place => disk.find (base.child name) true = .ok place) disk after

namespace Disk

variable {base : Path} {directory : Location} {name : String}

/-- **A page in a new directory** is all that is new, and it is below that directory. -/
theorem within_page {page : String} {data : Octets} {r : Except Error Unit} (htree : disk.IsTree)
    (hleads : disk.find base true = .ok directory)
    (hstands : disk.node? directory = some .directory) (hname : Path.IsName name)
    (hpage : Path.IsName page) (h : Ends (do
      makeDirectory (base.child name)
      write ((base.child name).child page) data) disk r disk') :
    disk'.IsTree ∧
      Within (fun place => disk.find (base.child name) true = .ok place) disk disk' := by
  rcases (ends_bind.1 h).symm with ⟨error, hmake, -⟩ | ⟨⟨⟩, made, hmake, hwrite⟩
  · rcases makeDirectory_spec hmake with ⟨-, rfl⟩ | ⟨hr, -⟩
    · exact ⟨htree, Within.of_eq rfl⟩
    · cases hr
  rcases makeDirectory_spec hmake with ⟨⟨error, hr⟩, -⟩ | ⟨-, -, location, hfind, hnone, rfl⟩
  · cases hr
  obtain rfl := eq_of_find_child hleads hstands hname (by simp) hfind
  have hfollowed := find_followed hfind fun target => by simp [hnone]
  have hnew := node?_put_self disk .directory (List.cons_ne_nil name directory)
  have hbelow : (disk.put (name :: directory) .directory).node? (page :: name :: directory) =
      none := by
    rw [node?_put_of_ne _ _ (List.cons_ne_self _ _)]
    by_contra hthere
    simp [htree _ _ hthere] at hnone
  have hplace {place : Location} (h : (disk.put (name :: directory) .directory).find
      ((base.child name).child page) true = .ok place) : place = page :: name :: directory := by
    have hto := find_mono (grows_put hnone).keeps hfollowed fun _ target => by simp [hnew]
    exact eq_of_find_child hto hnew hpage (fun _ target => by simp [hbelow]) h
  have hrefiles := refiles_write hwrite
  refine ⟨(htree.put hstands hnone).refiles hrefiles fun n above h => ?_, hrefiles.here,
    hrefiles.mounts, fun other hother => ?_⟩
  · obtain ⟨-, rfl⟩ := List.cons.inj (hplace h)
    exact hnew
  · have houtside := hother _ hfollowed
    have hne : other ≠ name :: directory := by
      rintro rfl
      exact houtside (List.suffix_refl _)
    have hapart : ¬ (disk.put (name :: directory) .directory).find
        ((base.child name).child page) true = .ok other := fun h =>
      houtside (by rw [hplace h]; exact List.suffix_cons _ _)
    rw [hrefiles.node?_eq hapart, node?_put_of_ne _ _ hne]

end Disk

namespace Tool

/-- A tool that joins samples to profiles, and renders profiles as one page. -/
def suite : Toolbox := fun calls request disk =>
  match request.argv with
  | [_, "show", _, _, _, _, _, output] =>
    answer (do
      Disk.makeDirectory (.ofText output)
      Disk.write ((Path.ofText output).child "index.html") (octetsOf "covered")) disk
  | _ => joiner calls request disk

/-- It is a profile tool. -/
theorem merges_suite (tool : String) : suite.Merges tool [] := by
  intro calls samples profile disk hprofile
  have hmerging : suite.merging tool [] calls samples profile disk =
      joiner.merging tool [] calls samples profile disk := by
    simp [Toolbox.merging, suite, mergeCommand]
  rw [hmerging]
  exact merges_joiner tool calls samples profile disk hprofile

/-- It is a report tool. -/
theorem renders_suite (tool : String) : suite.Renders tool [] := by
  intro calls profile object base name disk hbase hname htree hdirectory
  have hproper : (base.child name).Proper := hbase.child hname
  have hanswer : suite calls ⟨false, showCommand tool profile object (base.child name) [], none⟩
      disk = answer (do
        Disk.makeDirectory (base.child name)
        Disk.write ((base.child name).child "index.html") (octetsOf "covered")) disk := by
    simp only [suite, showCommand, List.append_nil, Path.ofText_text hproper]
  obtain ⟨directory, hleads, hstands⟩ := hdirectory
  obtain ⟨r, hrun, -⟩ := disk_answer (do
    Disk.makeDirectory (base.child name)
    Disk.write ((base.child name).child "index.html") (octetsOf "covered")) disk
  simp only [hanswer]
  exact Disk.within_page htree hleads hstands hname (by decide) hrun

end Tool

end WasmCoverage
