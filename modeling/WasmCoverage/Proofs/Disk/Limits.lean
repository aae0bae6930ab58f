import Mathlib.Data.Nat.Digits.Defs
import WasmCoverage.Proofs.Disk.Contents
import WasmCoverage.Proofs.Number.Length

/-!
# How many files there can be in a directory

A path leads somewhere only if its names are short (`short_of_find`), and there are not that many
short names: a directory never has more files than can be counted with the digits of a numeral
(**`isShort_length_files`**), as long as it lists every name once.
-/

namespace WasmCoverage.Disk

variable {disk disk' : Disk} {follow : Bool} {location reached : Location} {path : Path}

/-! ## Names on the way -/

/-- The names that are left of a walk. -/
def Walk.left : Walk → List String
  | arrived _ => []
  | linked _ _ rest => rest

/-- The names of a step, up to the first link, are short. -/
lemma Steps.short {names : List String} {walk : Walk}
    (h : disk.Steps follow location names walk) : ∃ before, names = before ++ walk.left ∧
      ∀ n ∈ before, n.utf8ByteSize ≤ nameLimit := by
  induction h with
  | done => exact ⟨[], rfl, by simp⟩
  | up _ _ ih =>
      obtain ⟨before, rfl, hbefore⟩ := ih
      exact ⟨".." :: before, rfl, List.forall_mem_cons.2 ⟨by decide, hbefore⟩⟩
  | down _ hshort _ _ _ ih =>
      obtain ⟨before, rfl, hbefore⟩ := ih
      exact ⟨_ :: before, rfl, List.forall_mem_cons.2 ⟨hshort, hbefore⟩⟩
  | stop _ hshort => exact ⟨[_], rfl, List.forall_mem_singleton.2 hshort⟩
  | link _ hshort => exact ⟨[_], rfl, List.forall_mem_singleton.2 hshort⟩

lemma short_of_walk : ∀ {spare : Nat} {location : Location} {names : List String},
    disk.walk follow spare location names = .ok reached →
    ∀ n ∈ names, n.utf8ByteSize ≤ nameLimit
  | 0, _, _, h => by cases h
  | spare + 1, location, names, h => by
      rcases walk_succ_eq_ok_iff.1 h with hstep | ⟨directory, target, rest, hstep, hrest⟩
      · obtain ⟨before, rfl, hbefore⟩ := hstep.short
        simpa [Walk.left] using hbefore
      · obtain ⟨before, rfl, hbefore⟩ := hstep.short
        have hmore := (List.forall_mem_append.1 (short_of_walk hrest)).2
        exact List.forall_mem_append.2 ⟨hbefore, hmore⟩

/-- **A path that leads somewhere has short names.** -/
theorem short_of_find (h : disk.find path follow = .ok reached) :
    ∀ n ∈ path.names, n.utf8ByteSize ≤ nameLimit :=
  short_of_walk (find_eq_ok_iff.1 h).2

/-! ## Counting names -/

/-- The octets of a name as the digits of a number, none of them zero. -/
def digitsOf (name : String) : List Nat :=
  name.toByteArray.data.toList.map fun octet => octet.toNat + 1

lemma lt_of_mem_digitsOf (name : String) : ∀ digit ∈ digitsOf name, digit < 257 := by
  intro digit hdigit
  obtain ⟨octet, -, rfl⟩ := List.mem_map.1 hdigit
  have := octet.toNat_lt
  omega

lemma length_digitsOf (name : String) : (digitsOf name).length = name.utf8ByteSize := by
  rw [digitsOf, List.length_map]
  rfl

lemma digitsOf_inj {a b : String} (h : digitsOf a = digitsOf b) : a = b := by
  have hinj : Function.Injective fun octet : UInt8 => octet.toNat + 1 :=
    fun x y hxy => UInt8.toNat_inj.1 (Nat.succ_injective hxy)
  have hdata : a.toByteArray.data = b.toByteArray.data :=
    Array.toList_inj.1 (List.map_injective_iff.2 hinj h)
  exact String.toByteArray_inj.1 (ByteArray.ext hdata)

/-- **Short names that differ are not many.** -/
theorem length_names_lt {names : List String} (hnodup : names.Nodup)
    (hshort : ∀ n ∈ names, n.utf8ByteSize ≤ nameLimit) : names.length < 10 ^ digitLimit := by
  have hdigits (name : String) :
      Nat.digits 257 (Nat.ofDigits 257 (digitsOf name)) = digitsOf name := by
    refine Nat.digits_ofDigits 257 (by decide) _ (lt_of_mem_digitsOf name) fun hne => ?_
    obtain ⟨octet, -, hoctet⟩ := List.mem_map.1 (List.getLast_mem hne)
    rw [← hoctet]
    exact Nat.succ_ne_zero _
  have hcodes : (names.map fun name => Nat.ofDigits 257 (digitsOf name)).Nodup := by
    refine hnodup.map_on fun a _ b _ hab => digitsOf_inj ?_
    rw [← hdigits a, ← hdigits b, hab]
  have hrange : (names.map fun name => Nat.ofDigits 257 (digitsOf name)) ⊆
      List.range (257 ^ nameLimit) := by
    intro code hcode
    obtain ⟨name, hname, rfl⟩ := List.mem_map.1 hcode
    refine List.mem_range.2 ((Nat.ofDigits_lt_base_pow_length (by decide)
      (lt_of_mem_digitsOf name)).trans_le ?_)
    rw [length_digitsOf]
    exact Nat.pow_le_pow_right (by decide) (hshort name hname)
  have hlength := (hcodes.subperm hrange).length_le
  rw [List.length_map, List.length_range] at hlength
  calc names.length ≤ 257 ^ nameLimit := hlength
    _ ≤ (10 ^ 3) ^ nameLimit := Nat.pow_le_pow_left (by decide) _
    _ = 10 ^ (3 * nameLimit) := (Nat.pow_mul 10 3 nameLimit).symm
    _ < 10 ^ digitLimit := Nat.pow_lt_pow_right (by decide) (by decide)

/-! ## Counting files -/

/-- Every entry has a proper name. -/
def Named (disk : Disk) : Prop :=
  ∀ name directory, disk.node? (name :: directory) ≠ none → Path.IsName name

lemma named_of_entries (h : ∀ entry ∈ disk.entries, ∀ name ∈ entry.1.head?, Path.IsName name) :
    disk.Named := by
  intro name directory hthere
  obtain ⟨node, hnode⟩ := Option.ne_none_iff_exists'.1 hthere
  exact h _ (mem_of_get? hnode) name rfl

/-- **The files of a directory can be counted.** -/
theorem isShort_length_files (hdistinct : disk.Distinct) (hnamed : disk.Named) {suffix : String}
    {files : List Path} (h : Ends (filesWithSuffix path suffix) disk (.ok files) disk') :
    IsShort files.length := by
  obtain ⟨directory, -, -, -, rfl, -⟩ := ends_filesWithSuffix_ok.1 h
  have hnames : (((disk.children directory).map Prod.fst).filter fun name =>
      disk.isFileAt (path.child name)).length < 10 ^ digitLimit := by
    refine length_names_lt ((nodup_children hdistinct directory).filter _) fun name hname => ?_
    obtain ⟨hmem, hfile⟩ := List.mem_filter.1 hname
    obtain ⟨⟨name, node⟩, hentry, rfl⟩ := List.mem_map.1 hmem
    have hproper : Path.IsName name :=
      hnamed name directory (by simp [(mem_children hdistinct).1 hentry])
    obtain ⟨data, hdata⟩ := Option.isSome_iff_exists.1 (Bool.and_eq_true_iff.1 hfile).2
    obtain ⟨place, executable, hfind, -⟩ := content?_eq_some.1 hdata
    refine short_of_find hfind name ?_
    rw [Path.child_of_isName _ hproper]
    simp
  rw [IsShort, Int.natAbs_natCast, Nat.length_toDigits_le_iff (by decide) (by decide)]
  calc (Path.sort ((disk.listedWith path suffix directory).filter disk.isFileAt)).length
    _ = ((disk.listedWith path suffix directory).filter disk.isFileAt).length :=
        (List.mergeSort_perm _ _).length_eq
    _ ≤ (((disk.children directory).map fun entry => path.child entry.1).filter
          disk.isFileAt).length := by
        rw [listedWith, List.filter_comm]
        exact List.length_filter_le _ _
    _ = (((disk.children directory).map Prod.fst).filter fun name =>
          disk.isFileAt (path.child name)).length := by
        rw [List.filter_map, List.filter_map, List.length_map, List.length_map]
        rfl
    _ < 10 ^ digitLimit := hnames

end WasmCoverage.Disk
