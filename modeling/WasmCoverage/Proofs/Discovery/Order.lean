import WasmCoverage.Proofs.Discovery
import WasmCoverage.Proofs.Disk.Refusals
import WasmCoverage.Proofs.Disk.Reordered

/-!
# Searching in another order

A search visits the directories in the order in which they are listed, but the candidates that
come together are the same in every order (`perm_candidatesIn`), and they are sorted before they
are opened.  So a search that answers gives the same answer however directories are listed
(`alike_discover`).

The order shows in one thing only.  If paths lead to names beyond the limits, the search fails at
the first of them, and which one is the first depends on the order.
-/

namespace WasmCoverage

open WasmCoverage.Text

/-! ## Candidates -/

namespace Disk

variable {disk disk' other : Disk} {path : Path}

/-- The error says that something is beyond the limits. -/
def Error.Overlong (error : Error) : Prop :=
  ∃ path, error = .system (Cause.nameTooLong.about path)

lemma overlong_leadsTo (kind : Node → Bool) : FailsOnly Error.Overlong (leadsTo kind path) :=
  fun _ _ _ h => ⟨path, (ends_leadsTo_error h).1⟩

lemma overlong_filesAmong : ∀ paths : List Path, FailsOnly Error.Overlong (filesAmong paths)
  | [] => .pure _
  | _ :: rest => (overlong_leadsTo _).bind fun _ => (overlong_filesAmong rest).bind fun _ => .pure _

/-- A directory that is there can be listed. -/
lemma overlong_filesWithSuffix {suffix : String} {error : Error} {after : Disk}
    (hthere : Ends (isDirectory path) disk (.ok true) disk')
    (h : Ends (filesWithSuffix path suffix) disk' (.error error) after) : error.Overlong := by
  obtain ⟨⟨hclean, place, hfind, hdir⟩, rfl⟩ := ends_isDirectory_true.1 hthere
  have hfiles := (ends_listing_ok.2 ⟨place, ⟨hclean, hfind⟩, hdir, rfl, rfl⟩).bind_iff.1 h
  rcases ends_bind.1 hfiles with ⟨files, d, -, hlast⟩ | ⟨e, hfiles, heq⟩
  · cases (ends_pure.1 hlast).1
  · obtain rfl := Except.error.inj heq
    exact overlong_filesAmong _ _ _ _ hfiles

lemma overlong_modulesIn : FailsOnly Error.Overlong (modulesIn path) := by
  intro disk error disk' h
  rcases ends_bind.1 h with ⟨there, d, hthere, hrest⟩ | ⟨e, hkind, heq⟩
  · cases there with
    | false => cases (ends_pure.1 hrest).1
    | true => exact overlong_filesWithSuffix hthere hrest
  · obtain rfl := Except.error.inj heq
    exact overlong_leadsTo _ _ _ _ hkind

lemma overlong_candidatesIn : ∀ places : List Location,
    FailsOnly Error.Overlong (candidatesIn places)
  | [] => .pure _
  | _ :: rest => overlong_modulesIn.bind fun _ =>
      (overlong_candidatesIn rest).bind fun _ => .pure _

lemma ends_candidatesIn_cons {place : Location} {rest : List Location} {files : List Path} :
    Ends (candidatesIn (place :: rest)) disk (.ok files) disk' ↔ ∃ found others,
      Ends (modulesIn ((pathOf place).child moduleDirectory)) disk (.ok found) disk ∧
      Ends (candidatesIn rest) disk (.ok others) disk ∧ files = found ++ others ∧
      disk' = disk := by
  constructor
  · intro h
    obtain ⟨found, d, hfound, hrest⟩ := ends_bind_ok.1 h
    obtain rfl := respects_modulesIn _ _ _ hfound
    obtain ⟨others, d', hothers, hlast⟩ := ends_bind_ok.1 hrest
    obtain rfl := respects_candidatesIn _ _ _ _ hothers
    obtain ⟨hfiles, rfl⟩ := ends_pure.1 hlast
    exact ⟨found, others, hfound, hothers, Except.ok.inj hfiles, rfl⟩
  · rintro ⟨found, others, hfound, hothers, rfl, rfl⟩
    exact hfound.bind (hothers.bind (ends_pure.2 ⟨rfl, rfl⟩))

/-- **The candidates are the same in every order** of the directories. -/
theorem perm_candidatesIn {places others : List Location} (h : places.Perm others) :
    ∀ {files : List Path}, Ends (candidatesIn places) disk (.ok files) disk →
    ∃ files', Ends (candidatesIn others) disk (.ok files') disk ∧ files.Perm files' := by
  induction h with
  | nil => exact fun hfiles => ⟨_, hfiles, .refl _⟩
  | cons place _ ih =>
      intro files hfiles
      obtain ⟨found, later, hfound, hlater, rfl, -⟩ := ends_candidatesIn_cons.1 hfiles
      obtain ⟨later', hlater', hperm⟩ := ih hlater
      exact ⟨found ++ later', ends_candidatesIn_cons.2 ⟨_, _, hfound, hlater', rfl, rfl⟩,
        hperm.append_left found⟩
  | swap second first rest =>
      intro files hfiles
      obtain ⟨found, later, hfound, hlater, rfl, -⟩ := ends_candidatesIn_cons.1 hfiles
      obtain ⟨found', last, hfound', hlast, rfl, -⟩ := ends_candidatesIn_cons.1 hlater
      refine ⟨found' ++ (found ++ last), ends_candidatesIn_cons.2 ⟨_, _, hfound',
        ends_candidatesIn_cons.2 ⟨_, _, hfound, hlast, rfl, rfl⟩, rfl, rfl⟩, ?_⟩
      rw [← List.append_assoc, ← List.append_assoc]
      exact List.perm_append_comm.append_right last
  | trans _ _ ih ih' =>
      intro files hfiles
      obtain ⟨between, hbetween, hperm⟩ := ih hfiles
      obtain ⟨files', hfiles', hperm'⟩ := ih' hbetween
      exact ⟨files', hfiles', hperm.trans hperm'⟩

lemma isAbsolute_of_mem_candidatesIn : ∀ {places : List Location} {files : List Path},
    Ends (candidatesIn places) disk (.ok files) disk → ∀ file ∈ files, file.isAbsolute = true
  | [], files, h => by
      obtain rfl := Except.ok.inj (ends_pure.1 h).1
      simp
  | place :: rest, files, h => by
      obtain ⟨found, later, hfound, hlater, rfl, -⟩ := ends_candidatesIn_cons.1 h
      refine List.forall_mem_append.2 ⟨fun file hfile => ?_, isAbsolute_of_mem_candidatesIn hlater⟩
      obtain ⟨there, d, -, hrest⟩ := ends_bind_ok.1 hfound
      cases there with
      | false =>
          obtain rfl := Except.ok.inj (ends_pure.1 hrest).1
          cases hfile
      | true =>
          obtain ⟨⟨name, rfl⟩, -⟩ := mem_filesWithSuffix hrest hfile
          exact Path.isAbsolute_child (Path.isAbsolute_child rfl _) name

lemma answersAlike_modulesIn (habsolute : path.isAbsolute = true) (h : Reordered disk other) :
    AnswersAlike Reordered (modulesIn path) (modulesIn path) disk other := by
  refine (conceals_leadsTo _ _ _ h).answersAlike.bind fun there disk other h => ?_
  split
  · exact answersAlike_filesWithSuffix habsolute _ h
  · exact (Paired.pure _ h).answersAlike

lemma answersAlike_candidatesIn : ∀ (places : List Location) {disk other : Disk},
    Reordered disk other →
    AnswersAlike Reordered (candidatesIn places) (candidatesIn places) disk other
  | [], _, _, h => (Paired.pure _ h).answersAlike
  | _ :: rest, _, _, h =>
      (answersAlike_modulesIn (Path.isAbsolute_child rfl _) h).bind fun _ _ _ h =>
        (answersAlike_candidatesIn rest h).bind fun _ _ _ h => (Paired.pure _ h).answersAlike

/-- A search that finds candidates on one disk finds them on the other. -/
lemma Reordered.ends_candidatesIn (h : Reordered disk other) {root : Location}
    {files : List Path}
    (hfiles : Ends (candidatesIn (disk.directoriesFrom root)) disk (.ok files) disk) :
    ∃ files', Ends (candidatesIn (other.directoriesFrom root)) other (.ok files') other ∧
      Path.sort files' = Path.sort files := by
  obtain ⟨after, hsame, -⟩ := answersAlike_candidatesIn _ h _ _ hfiles
  obtain rfl := respects_candidatesIn _ _ _ _ hsame
  obtain ⟨files', hfiles', hperm⟩ := perm_candidatesIn (h.directoriesFrom_perm root).symm hsame
  exact ⟨files', hfiles',
    (Path.sort_eq_of_perm hperm (isAbsolute_of_mem_candidatesIn hfiles)).symm⟩

/-- **The candidates under a directory do not depend on the order** in which directories are
listed, unless the search fails. -/
theorem alike_candidates (h : Reordered disk other) :
    Alike (fun e e' => e.Overlong ∧ e'.Overlong) Reordered (candidates path) (candidates path)
      disk other := by
  refine (conceals_locate true _ _ h).bind_alike fun root disk other h => ?_
  have hanswers {disk other : Disk} (h : Reordered disk other) : AnswersAlike Reordered
      (do return Path.sort (← candidatesIn (disk.directoriesFrom root)))
      (do return Path.sort (← candidatesIn (other.directoriesFrom root))) disk other := by
    intro paths disk' hend
    obtain ⟨files, d, hfiles, hlast⟩ := ends_bind_ok.1 hend
    obtain rfl := respects_candidatesIn _ _ _ _ hfiles
    obtain ⟨hpaths, rfl⟩ := ends_pure.1 hlast
    obtain ⟨files', hfiles', hsorted⟩ := h.ends_candidatesIn hfiles
    refine ⟨other, hfiles'.bind (ends_pure.2 ⟨?_, rfl⟩), h⟩
    rw [hpaths, hsorted]
  have hreads (places : List Location) :
      Respects Eq (do return Path.sort (← candidatesIn places) : Action (List Path)) :=
    (respects_candidatesIn places).bind fun _ => Respects.pure _
  have hfails (places : List Location) :
      FailsOnly Error.Overlong (do return Path.sort (← candidatesIn places) : Action (List Path)) :=
    (overlong_candidatesIn places).bind fun _ => FailsOnly.pure _
  exact .get_bind (alike_of_answersAlike (hanswers h) (hanswers h.symm) (hreads _) (hreads _)
    (hfails _) (hfails _) h)

end Disk

/-! ## Discovery -/

variable {forbidden : Forbidden} {marker : Octets} {w v : World}

lemma conceals_pairing (module : Path) : Conceals World.Reordered (pairing module) := by
  unfold pairing
  split
  · exact .throw _
  · refine (Disk.conceals_leadsTo _).onDisk.bind fun there => ?_
    split
    · exact .pure _
    · exact .pure _

lemma conceals_isInstrumented (path : Path) :
    Conceals World.Reordered (isInstrumented forbidden marker path) := by
  have hread : Conceals Disk.Reordered (readCandidate forbidden path) := by
    unfold readCandidate
    split
    · exact fun _ _ h => .throw_bind _ h
    · exact Disk.conceals_read
  rw [isInstrumented_eq]
  split
  · exact .throw _
  · refine (hread.onDisk.bind fun _ => .pure _).tryCatch fun fault => ?_
    split
    · exact (conceals_journal _ _ _).bind fun _ => .pure _
    · exact .throw _

lemma conceals_modulesAmong : ∀ paths : List Path,
    Conceals World.Reordered (modulesAmong forbidden marker paths)
  | [] => .pure _
  | path :: rest => by
      refine (conceals_isInstrumented path).bind fun instrumented => ?_
      split
      · exact (conceals_pairing path).bind fun _ =>
          (conceals_modulesAmong rest).bind fun _ => .pure _
      · exact conceals_modulesAmong rest

/-- Both faults say that a listing, or the search of one directory, came upon something beyond the
limits. -/
def Fault.BothOverlong (fault fault' : Fault) : Prop :=
  ∃ error error' : Disk.Error, error.Overlong ∧ error'.Overlong ∧
    ((fault = .disk error ∧ fault' = .disk error') ∨
      ∃ base, fault = .scan (.failed base error) ∧ fault' = .scan (.failed base error'))

/-- **A search that answers gives the same answer** however directories are listed. -/
theorem alike_discover (root : Path) (h : w.Reordered v) :
    Alike Fault.BothOverlong World.Reordered (discover root marker forbidden)
      (discover root marker forbidden) w v := by
  have hcandidates (base : Path) {w v : World} (h : w.Reordered v) :
      Alike Fault.BothOverlong World.Reordered
        (onDiskOr (fun error => .scan (.failed base error)) (Disk.candidates base))
        (onDiskOr (fun error => .scan (.failed base error)) (Disk.candidates base)) w v := by
    refine (Disk.alike_candidates h.disk).onDiskOr h ?_
    rintro _ _ ⟨⟨path, rfl⟩, ⟨path', rfl⟩⟩
    exact ⟨_, _, ⟨path, rfl⟩, ⟨path', rfl⟩, Or.inr ⟨base, rfl, rfl⟩⟩
  unfold discover
  refine (Conceals.onDisk (Disk.conceals_leadsTo _) _ _ h).bind_alike fun there w v h => ?_
  split
  · refine (Disk.conceals_resolve.onDisk _ _ h).bind_alike fun base w v h => ?_
    exact (hcandidates base h).bind fun found w v h => (conceals_modulesAmong found _ _ h).alike
  · exact (Paired.throw_bind _ h).alike

end WasmCoverage
