import Mathlib.Data.Nat.Find
import WasmCoverage.Proofs.Disk.RealPath

/-!
# Behind links

A walk follows links one after another and may not follow too many.  A path is resolved link
inside link, and the links inside one another may be no more than the disk has.  **A path that
leads somewhere resolves to the place it leads to** (`behindLinks_of_find`), so the two limits are
no matter: a link inside another one is followed in fewer steps than that one, hence no link is
inside itself, and there are enough.
-/

namespace WasmCoverage.Disk

variable {disk : Disk} {location reached : Location} {spare : Nat}

/-! ## Walks that follow links -/

/-- The place from which the target of a link in a directory is walked to. -/
def basis (directory : Location) (target : Path) : Location :=
  if target.isAbsolute then [] else directory

/-- What a walk that follows links does with one name, in a directory. -/
lemma walk_cons (hdir : disk.node? location = some .directory) (name : String)
    (rest : List String) : disk.walk true (spare + 1) location (name :: rest) =
      if name.utf8ByteSize > nameLimit then .error .nameTooLong
      else if name = ".." then disk.walk true (spare + 1) location.tail rest
      else
        match disk.node? (name :: location) with
        | some (.link target) =>
          disk.walk true spare (basis location target) (target.names ++ rest)
        | _ => disk.walk true (spare + 1) (name :: location) rest := by
  rw [walk, step_cons hdir]
  split
  · rfl
  split
  · rw [walk]
  · cases disk.node? (name :: location) with
    | none => rw [walk]
    | some node =>
        cases node with
        | directory | file => rw [walk]
        | link target => simp [bind, Except.bind, basis]

/-- A walk through names begins in a directory. -/
lemma directory_of_walk {name : String} {rest : List String}
    (h : disk.walk true spare location (name :: rest) = .ok reached) :
    disk.node? location = some .directory := by
  cases spare with
  | zero => cases h
  | succ spare =>
      obtain ⟨walk, hstep, -⟩ := bind_eq_ok_iff.1 h
      exact directory_of_step hstep

/-- A walk with more links to spare ends where it ended. -/
lemma walk_succ : ∀ {spare : Nat} {location : Location} {names : List String},
    disk.walk true spare location names = .ok reached →
    disk.walk true (spare + 1) location names = .ok reached
  | 0, _, _, h => by cases h
  | spare + 1, location, names, h => by
      obtain ⟨walk, hstep, hrest⟩ := bind_eq_ok_iff.1 h
      refine bind_eq_ok_iff.2 ⟨walk, hstep, ?_⟩
      cases walk with
      | arrived place => exact hrest
      | linked directory target rest => exact walk_succ hrest

lemma walk_le {more : Nat} {names : List String} (hle : spare ≤ more)
    (h : disk.walk true spare location names = .ok reached) :
    disk.walk true more location names = .ok reached := by
  induction hle with
  | refl => exact h
  | step _ ih => exact walk_succ ih

/-- **A walk through some names and more names** is a walk through the first and one through the
others. -/
theorem walk_split {rest : List String} : ∀ {spare : Nat} {names : List String}
    {location : Location}, disk.walk true spare location (names ++ rest) = .ok reached →
    ∃ inner, disk.walk true spare location names = .ok inner ∧
      disk.walk true spare inner rest = .ok reached
  | 0, _, _, h => by cases h
  | spare + 1, [], location, h => ⟨location, rfl, h⟩
  | spare + 1, name :: names, location, h => by
      have hdir := directory_of_walk h
      rw [List.cons_append, walk_cons hdir] at h
      rw [walk_cons hdir]
      split at h
      · cases h
      next hshort =>
        rw [if_neg hshort]
        split at h
        · next hup =>
            rw [if_pos hup]
            exact walk_split h
        · next hup =>
            rw [if_neg hup]
            split at h
            · next target hlink =>
                rw [← List.append_assoc] at h
                obtain ⟨inner, hinner, hrest⟩ := walk_split h
                exact ⟨inner, hinner, walk_succ hrest⟩
            · exact walk_split h

/-! ## Links inside one another -/

/-- At the place there is a link, and its target is reached with some links to spare. -/
def Settles (disk : Disk) (spare : Nat) (place : Location) : Prop :=
  ∃ target reached, disk.node? place = some (.link target) ∧
    disk.walk true spare (basis place.tail target) target.names = .ok reached

lemma Settles.mono {more : Nat} {place : Location} (h : disk.Settles spare place)
    (hle : spare ≤ more) : disk.Settles more place := by
  obtain ⟨target, reached, hlink, hwalk⟩ := h
  exact ⟨target, reached, hlink, walk_le hle hwalk⟩

open Classical in
/-- The number of links whose targets are reached with some links to spare. -/
noncomputable def settledCount (disk : Disk) (spare : Nat) : Nat :=
  disk.entries.countP fun entry => (entry.2 matches .link _) && decide (disk.Settles spare entry.1)

lemma settledCount_le_linkCount (spare : Nat) : disk.settledCount spare ≤ disk.linkCount :=
  List.countP_mono_left fun _ _ h => (Bool.and_eq_true_iff.1 h).1

lemma settledCount_mono {more : Nat} (hle : spare ≤ more) :
    disk.settledCount spare ≤ disk.settledCount more := by
  classical
  refine List.countP_mono_left fun entry _ h => ?_
  rw [Bool.and_eq_true, decide_eq_true_eq] at h ⊢
  exact ⟨h.1, h.2.mono hle⟩

/-- A link whose target is reached, and not with fewer links to spare, is counted once more. -/
lemma settledCount_lt {fewer : Nat} {place : Location} (hle : fewer ≤ spare)
    (hsettles : disk.Settles spare place) (hnot : ¬ disk.Settles fewer place) :
    disk.settledCount fewer < disk.settledCount spare := by
  classical
  obtain ⟨target, -, hlink, -⟩ := id hsettles
  have hmem : (place, Node.link target) ∈ disk.entries := by
    cases place with
    | nil => cases hlink
    | cons name directory => exact mem_of_get? (by simpa [node?] using hlink)
  -- one more in the place of the link, and no fewer before and behind it
  obtain ⟨front, back, hentries⟩ := List.append_of_mem hmem
  have hmono : ∀ part : List (Location × Node),
      part.countP (fun entry => (entry.2 matches .link _) && decide (disk.Settles fewer entry.1)) ≤
        part.countP fun entry => (entry.2 matches .link _) && decide (disk.Settles spare entry.1) :=
    fun part => List.countP_mono_left fun entry _ h => by
      rw [Bool.and_eq_true, decide_eq_true_eq] at h ⊢
      exact ⟨h.1, h.2.mono hle⟩
  have hfront := hmono front
  have hback := hmono back
  simp only [settledCount, hentries, List.countP_append, List.countP_cons, hsettles, hnot,
    decide_true, decide_false, Bool.and_true, Bool.and_false, if_true, Bool.false_eq_true, if_false]
  omega

/-! ## Resolving -/

/-- A walk that follows a link reaches its target first, and in as few steps as it can be reached
fewer links settle than in all. -/
lemma walk_linked {name : String} {rest : List String} {target : Path}
    (h : disk.walk true (spare + 1) location (name :: rest) = .ok reached) (hup : name ≠ "..")
    (hlink : disk.node? (name :: location) = some (.link target)) : ∃ inner steps,
      disk.walk true steps (basis location target) target.names = .ok inner ∧
      disk.settledCount (steps - 1) < disk.settledCount spare ∧
      disk.walk true spare inner rest = .ok reached := by
  rw [walk_cons (directory_of_walk h), if_neg hup, hlink] at h
  split at h
  · cases h
  obtain ⟨inner, hinner, hrest⟩ := walk_split h
  classical
  have hexists : ∃ steps, disk.walk true steps (basis location target) target.names = .ok inner :=
    ⟨spare, hinner⟩
  refine ⟨inner, Nat.find hexists, Nat.find_spec hexists, ?_, hrest⟩
  have hpos : 0 < Nat.find hexists := by
    refine (Nat.find_pos hexists).2 fun h => ?_
    cases h
  have hleast : Nat.find hexists ≤ spare := Nat.find_min' hexists hinner
  refine settledCount_lt (by omega) ⟨target, inner, hlink, hinner⟩ ?_
  rintro ⟨target', reached', hlink', hwalk⟩
  obtain rfl : target = target' := by simpa [hlink] using hlink'
  obtain rfl : inner = reached' :=
    Except.ok.inj (hinner.symm.trans (walk_le (by omega) hwalk))
  exact Nat.find_min hexists (by omega) hwalk

/-- **A walk resolves to the place it leads to,** if there are as many links to spare as can be
inside one another. -/
theorem behindLinks_of_walk {names : List String} {steps : Nat}
    (h : disk.walk true steps location names = .ok reached)
    (hspare : disk.settledCount (steps - 1) ≤ spare) :
    disk.behindLinks spare location names = some reached := by
  fun_induction behindLinks disk spare location names generalizing steps reached with
  | case1 =>
      cases steps with
      | zero => cases h
      | succ steps => exact congrArg some (Except.ok.inj h)
  | case2 spare location rest ih =>
      cases steps with
      | zero => cases h
      | succ steps =>
          rw [walk_cons (directory_of_walk h), if_neg (by decide), if_pos rfl] at h
          exact ih h hspare
  | case3 location name rest hup target hlink =>
      cases steps with
      | zero => cases h
      | succ steps =>
          obtain ⟨inner, fewer, -, hfewer, -⟩ := walk_linked h hup hlink
          exact absurd (Nat.lt_of_lt_of_le hfewer hspare) (Nat.not_lt_zero _)
  | case4 location name rest hup target spare hlink first ihTarget =>
      rename_i ihRest
      cases steps with
      | zero => cases h
      | succ steps =>
          obtain ⟨inner, fewer, hinner, hfewer, hrest⟩ := walk_linked h hup hlink
          have htarget : disk.behindLinks spare first target.names = some inner :=
            ihTarget hinner (Nat.le_of_lt_succ (Nat.lt_of_lt_of_le hfewer hspare))
          refine Option.bind_eq_some_iff.2 ⟨inner, htarget, ihRest inner hrest ?_⟩
          exact Nat.le_trans (settledCount_mono (Nat.sub_le _ _)) hspare
  | case5 location name rest hup spare hnone hsome ih =>
      cases steps with
      | zero => cases h
      | succ steps =>
          rw [walk_cons (directory_of_walk h), if_neg hup] at h
          split at h
          · cases h
          split at h
          · next target hlink =>
              cases spare with
              | zero => exact (hnone target hlink rfl).elim
              | succ spare => exact (hsome target spare hlink rfl).elim
          · exact ih h hspare

/-- **A path resolves to the place it leads to.** -/
theorem behindLinks_of_find {path : Path} (h : disk.find path true = .ok reached) :
    disk.behindLinks disk.linkCount (disk.start path.anchor) path.names = some reached :=
  behindLinks_of_walk (find_eq_ok_iff.1 h).2 (settledCount_le_linkCount _)

end WasmCoverage.Disk
