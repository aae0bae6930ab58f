import WasmCoverage.Proofs.Disk.Effects

/-!
# How runs fail

`FailsOnly P run` says that the run fails with nothing but what `P` holds of.  Like `Respects`, it
holds of a run if it holds of its steps; what is caught may fail with anything, and only the
handler has to be looked at (`FailsOnly.tryCatch`).

The disk refuses what cannot be done (`Error.isRefusal`).  Two of its errors are no refusals: a
path with a NUL in it, and links in a circle.  An operation on paths without a NUL fails with
refusals only; the circles are noticed where a real path is looked for, and nowhere else.
-/

namespace WasmCoverage

/-! ## Runs -/

section Runs

variable {ε σ α β : Type} {P Q : ε → Prop} {x : ExceptT ε (StateM σ) α}
  {f : α → ExceptT ε (StateM σ) β}

/-- Every failure of the run is one that `P` holds of. -/
def FailsOnly (P : ε → Prop) (run : ExceptT ε (StateM σ) α) : Prop :=
  ∀ s e s', Ends run s (.error e) s' → P e

lemma FailsOnly.mono (h : FailsOnly P x) (hPQ : ∀ e, P e → Q e) : FailsOnly Q x :=
  fun s e s' hx => hPQ e (h s e s' hx)

lemma FailsOnly.pure (a : α) : FailsOnly P (Pure.pure a : ExceptT ε (StateM σ) α) := by
  intro s e s' h
  cases (ends_pure.1 h).1

lemma FailsOnly.throw {e : ε} (h : P e) :
    FailsOnly P (MonadExcept.throw e : ExceptT ε (StateM σ) α) := by
  intro s e' s' hthrow
  obtain rfl := Except.error.inj (ends_throw.1 hthrow).1
  exact h

lemma FailsOnly.get : FailsOnly P (MonadState.get : ExceptT ε (StateM σ) σ) := by
  intro s e s' h
  cases (ends_get.1 h).1

lemma FailsOnly.modify (g : σ → σ) :
    FailsOnly P (modify g : ExceptT ε (StateM σ) PUnit) := by
  intro s e s' h
  cases (ends_modify.1 h).1

/-- **A bind fails as its steps do.** -/
theorem FailsOnly.bind (hx : FailsOnly P x) (hf : ∀ a, FailsOnly P (f a)) :
    FailsOnly P (x >>= f) := by
  intro s e s' h
  rcases ends_bind.1 h with ⟨a, t, -, hb⟩ | ⟨e', he, heq⟩
  · exact hf a _ _ _ hb
  · obtain rfl := Except.error.inj heq
    exact hx _ _ _ he

/-- **What is tried fails as the handler does**, and the handler has to do with failures of what
is tried only. -/
theorem FailsOnly.tryCatch {handler : ε → ExceptT ε (StateM σ) α} (hx : FailsOnly Q x)
    (hh : ∀ e, Q e → FailsOnly P (handler e)) :
    FailsOnly P (MonadExcept.tryCatch x handler) := by
  intro s e s' h
  rcases ends_tryCatch.1 h with ⟨a, -, ha⟩ | ⟨e', t, he, hr⟩
  · cases ha
  · exact hh e' (hx _ _ _ he) _ _ _ hr

lemma FailsOnly.forM {g : β → ExceptT ε (StateM σ) PUnit} :
    ∀ {items : List β}, (∀ b ∈ items, FailsOnly P (g b)) → FailsOnly P (items.forM g)
  | [], _ => FailsOnly.pure _
  | b :: rest, h => by
      rw [List.forall_mem_cons] at h
      exact h.1.bind fun _ => FailsOnly.forM h.2

end Runs

section World

variable {α : Type} {P : Fault → Prop} {action : Disk.Action α}

/-- A run on the disk fails with the errors of the disk, as they are passed on. -/
lemma FailsOnly.onDiskOr {reword : Disk.Error → Fault} {Q : Disk.Error → Prop}
    (h : FailsOnly Q action) (hP : ∀ error, Q error → P (passedOn reword error)) :
    FailsOnly P (onDiskOr reword action) := by
  intro w fault w' hrun
  obtain ⟨result, disk, haction, hr, -⟩ := ends_onDiskOr.1 hrun
  cases result with
  | ok value => cases hr
  | error error =>
      obtain rfl := Except.error.inj hr
      exact hP error (h _ _ _ haction)

lemma FailsOnly.onDisk {Q : Disk.Error → Prop} (h : FailsOnly Q action)
    (hP : ∀ error, Q error → P (.disk error)) : FailsOnly P (onDisk action) := by
  rw [onDisk_eq]
  refine h.onDiskOr fun error herror => ?_
  simpa [passedOn] using hP error herror

lemma FailsOnly.journal (author : Author) (level : LogLevel) (message : String) :
    FailsOnly P (journal author level message) :=
  FailsOnly.modify _

/-- Anything is a failure. -/
lemma failsOnly_true {ε σ : Type} (x : ExceptT ε (StateM σ) α) : FailsOnly (fun _ => True) x :=
  fun _ _ _ _ => trivial

end World

/-! ## Paths without a NUL -/

namespace Disk

variable {path target : Path}

lemma hasNul_child {name : String} (hname : Path.IsName name) (hpath : hasNul path = false)
    (h : '\x00' ∉ name.toList) : hasNul (path.child name) = false := by
  simpa [hasNul, Path.child_of_isName _ hname, h] using hpath

lemma hasNul_parent (h : hasNul path = false) : hasNul path.parent = false := by
  simp only [hasNul, List.any_eq_false] at h ⊢
  exact fun name hname => h name (List.dropLast_subset _ hname)

/-- No name of such a path has a NUL, nor has its stem. -/
lemma not_mem_name (h : hasNul path = false) : '\x00' ∉ path.name.toList := by
  unfold Path.name
  cases hlast : path.names.getLast? with
  | none => simp
  | some name =>
      simp only [hasNul, List.any_eq_false] at h
      simpa using h name (List.mem_of_getLast? hlast)

lemma not_mem_stem (h : hasNul path = false) : '\x00' ∉ path.stem.toList :=
  fun hmem => not_mem_name h (Path.mem_of_mem_stemOf hmem)

/-! ## Operations -/

/-- The disk refuses. -/
abbrev Refused (error : Error) : Prop :=
  error.isRefusal = true

lemma refused_refuse {α : Type} {cause : Cause} :
    FailsOnly Refused (refuse cause path : Action α) :=
  FailsOnly.throw rfl

lemma refused_locate (h : hasNul path = false) (follow : Bool) :
    FailsOnly Refused (locate path follow) := by
  intro disk error disk' hrun
  obtain ⟨-, cause, -, rfl⟩ :=
    (located_eq_error.1 (ends_locate.1 hrun).1.symm).resolve_left (by simp [h])
  rfl

/-- Asking for the kind of a path fails only if a name is too long. -/
lemma ends_leadsTo_error {kind : Node → Bool} {disk disk' : Disk} {error : Error}
    (h : Ends (leadsTo kind path) disk (.error error) disk') :
    error = .system (Cause.nameTooLong.about path) ∧ disk' = disk ∧
      disk.look path true = .error .nameTooLong := by
  unfold leadsTo at h
  split at h
  · cases (ends_pure.1 h).1
  · rw [ends_get_bind] at h
    split at h
    · cases (ends_pure.1 h).1
    · next hlook =>
        obtain ⟨herror, rfl⟩ := ends_refuse.1 h
        exact ⟨Except.error.inj herror, rfl, hlook⟩
    · cases (ends_pure.1 h).1

lemma refused_leadsTo (kind : Node → Bool) : FailsOnly Refused (leadsTo kind path) := by
  intro disk error disk' h
  obtain ⟨rfl, -⟩ := ends_leadsTo_error h
  rfl

lemma refused_read (h : hasNul path = false) : FailsOnly Refused (read path) := by
  unfold read
  refine FailsOnly.get.bind fun before => (refused_locate h true).bind fun location => ?_
  split
  · exact FailsOnly.pure _
  · exact refused_refuse
  · exact refused_refuse

lemma refused_write (h : hasNul path = false) (data : Text.Octets) :
    FailsOnly Refused (write path data) := by
  unfold write
  refine (refused_locate h true).bind fun location => FailsOnly.get.bind fun before => ?_
  split
  · exact FailsOnly.modify _
  · exact refused_refuse
  · exact FailsOnly.modify _

lemma refused_copyFile (h : hasNul path = false) (htarget : hasNul target = false) :
    FailsOnly Refused (copyFile path target) := by
  have hcopy : FailsOnly Refused (do write target (← read path)) :=
    (refused_read h).bind fun data => refused_write htarget data
  unfold copyFile
  refine FailsOnly.get.bind fun before => ?_
  simp only [h, htarget, Bool.or_self, Bool.false_eq_true, if_false]
  split
  · split
    · exact FailsOnly.bind (FailsOnly.throw rfl) fun _ => hcopy
    · exact hcopy
  · exact hcopy

lemma refused_release (location : Location) : FailsOnly Refused (release path location) := by
  refine FailsOnly.get.bind fun before => ?_
  split
  · exact refused_refuse
  · exact FailsOnly.modify _

lemma refused_removeTree (h : hasNul path = false) : FailsOnly Refused (removeTree path) := by
  unfold removeTree
  refine (refused_locate h false).bind fun location => FailsOnly.get.bind fun before => ?_
  split
  · exact FailsOnly.forM fun place _ => refused_release place
  · exact FailsOnly.throw rfl
  · exact FailsOnly.throw rfl
  · exact refused_refuse

lemma refused_makeDirectory (h : hasNul path = false) :
    FailsOnly Refused (makeDirectory path) := by
  unfold makeDirectory
  refine (refused_locate h false).bind fun location => FailsOnly.get.bind fun before => ?_
  split
  · exact refused_refuse
  · exact FailsOnly.modify _

lemma refused_standing {error : Error} (h : Refused error) :
    FailsOnly Refused (do unless ← isDirectory path do throw error : Action Unit) := by
  refine (refused_leadsTo _).bind fun found => ?_
  cases found with
  | true => exact FailsOnly.pure _
  | false => exact FailsOnly.throw h

lemma refused_makeDirectoriesFrom (anchor : Anchor) : ∀ {names : List String},
    hasNul ⟨anchor, names.reverse⟩ = false → FailsOnly Refused (makeDirectoriesFrom anchor names)
  | [], _ => FailsOnly.pure _
  | name :: outer, h => by
      have houter : hasNul ⟨anchor, outer.reverse⟩ = false := by
        simpa [Path.parent] using hasNul_parent h
      unfold makeDirectoriesFrom
      refine (refused_makeDirectory h).tryCatch fun error herror => ?_
      split
      · split
        · refine (refused_makeDirectoriesFrom anchor houter).bind fun _ => ?_
          refine (refused_makeDirectory h).tryCatch fun again hagain => ?_
          split
          · split
            · exact FailsOnly.throw hagain
            · exact refused_standing hagain
          · exact FailsOnly.throw hagain
        · exact refused_standing herror
      · exact FailsOnly.throw herror

/-- **Making directories fails with refusals only**, if there is no NUL in the path. -/
theorem refused_makeDirectories (h : hasNul path = false) :
    FailsOnly Refused (makeDirectories path) :=
  refused_makeDirectoriesFrom _ (by simpa using h)

end Disk

end WasmCoverage
