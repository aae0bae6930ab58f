import WasmCoverage.Proofs.Disk.Effects

/-!
# Making directories

Making a directory with all that it lies in puts directories where nothing was, and nothing else
(`Grows`).  Where it succeeds the path leads to a directory (`hasDirectory_makeDirectories`), and
where the path leads to one already nothing is done (`makeDirectories_of_hasDirectory`); so a
store that was made once is only looked at afterwards.
-/

namespace WasmCoverage.Disk

variable {disk disk' : Disk} {path : Path} {location : Location}

/-! ## Following the last link, or not -/

/-- Links that are not followed stop a step at its last name only. -/
lemma Steps.unfollowed {names : List String} {walk : Walk}
    (h : disk.Steps true location names walk) :
    disk.Steps false location names walk ∨ ∃ directory target reached,
      walk = .linked directory target [] ∧ disk.node? reached = some (.link target) ∧
        disk.Steps false location names (.arrived reached) := by
  induction h with
  | done => exact Or.inl .done
  | up hdir _ ih =>
      refine ih.imp (.up hdir) ?_
      rintro ⟨directory, target, reached, hwalk, hlink, hmore⟩
      exact ⟨directory, target, reached, hwalk, hlink, .up hdir hmore⟩
  | down hdir hshort hup hnolink _ ih =>
      refine ih.imp (.down hdir hshort hup hnolink) ?_
      rintro ⟨directory, target, reached, hwalk, hlink, hmore⟩
      exact ⟨directory, target, reached, hwalk, hlink, .down hdir hshort hup hnolink hmore⟩
  | stop _ _ _ _ hfollow => cases hfollow
  | @link location name rest target hdir hshort hup hlink _ =>
      cases rest with
      | nil =>
          exact Or.inr ⟨location, target, name :: location, rfl, hlink,
            .stop hdir hshort hup hlink rfl⟩
      | cons next others =>
          exact Or.inl (.link hdir hshort hup hlink (Or.inl (List.cons_ne_nil _ _)))

/-- A path that leads to something when links are followed does so when the last one is not. -/
lemma walk_unfollowed : ∀ {spare : Nat} {location reached : Location} {names : List String},
    disk.walk true spare location names = .ok reached → disk.node? reached ≠ none →
    ∃ stop, disk.walk false spare location names = .ok stop ∧ disk.node? stop ≠ none
  | 0, _, _, _, h, _ => by cases h
  | spare + 1, location, reached, names, h, hthere => by
      rcases walk_succ_eq_ok_iff.1 h with hstep | ⟨directory, target, rest, hstep, hrest⟩
      · rcases hstep.unfollowed with hsame | ⟨_, _, _, hwalk, -⟩
        · exact ⟨reached, walk_succ_eq_ok_iff.2 (Or.inl hsame), hthere⟩
        · cases hwalk
      · rcases hstep.unfollowed with hsame | ⟨_, target', stop, -, hlink, hstop⟩
        · obtain ⟨stop, hwalk, hnode⟩ := walk_unfollowed hrest hthere
          exact ⟨stop, walk_succ_eq_ok_iff.2 (Or.inr ⟨directory, target, rest, hsame, hwalk⟩),
            hnode⟩
        · exact ⟨stop, walk_succ_eq_ok_iff.2 (Or.inl hstop), by simp [hlink]⟩

lemma find_unfollowed {reached : Location} (h : disk.find path true = .ok reached)
    (hthere : disk.node? reached ≠ none) :
    ∃ stop, disk.find path false = .ok stop ∧ disk.node? stop ≠ none := by
  obtain ⟨hlimit, hwalk⟩ := find_eq_ok_iff.1 h
  obtain ⟨stop, hstop, hnode⟩ := walk_unfollowed hwalk hthere
  exact ⟨stop, find_eq_ok_iff.2 ⟨hlimit, hstop⟩, hnode⟩

/-- Where there is no link to follow it does not matter whether links are. -/
lemma Steps.followed {names : List String} {walk : Walk}
    (h : disk.Steps false location names walk)
    (hend : ∀ reached, walk = .arrived reached → disk.NoLink reached) :
    disk.Steps true location names walk := by
  induction h with
  | done => exact .done
  | up hdir _ ih => exact .up hdir (ih hend)
  | down hdir hshort hup hnolink _ ih => exact .down hdir hshort hup hnolink (ih hend)
  | stop _ _ _ hlink _ => exact absurd hlink (hend _ rfl _)
  | link hdir hshort hup hlink _ => exact .link hdir hshort hup hlink (Or.inr rfl)

lemma walk_followed {reached : Location} (hend : disk.NoLink reached) : ∀ {spare : Nat}
    {location : Location} {names : List String},
    disk.walk false spare location names = .ok reached →
    disk.walk true spare location names = .ok reached
  | 0, _, _, h => by cases h
  | spare + 1, location, names, h => by
      rcases walk_succ_eq_ok_iff.1 h with hstep | ⟨directory, target, rest, hstep, hrest⟩
      · refine walk_succ_eq_ok_iff.2 (Or.inl (hstep.followed fun place hplace => ?_))
        exact Walk.arrived.inj hplace ▸ hend
      · exact walk_succ_eq_ok_iff.2 (Or.inr ⟨directory, target, rest,
          hstep.followed (fun _ hplace => by cases hplace), walk_followed hend hrest⟩)

lemma find_followed {reached : Location} (h : disk.find path false = .ok reached)
    (hend : disk.NoLink reached) : disk.find path true = .ok reached := by
  obtain ⟨hlimit, hwalk⟩ := find_eq_ok_iff.1 h
  exact find_eq_ok_iff.2 ⟨hlimit, walk_followed hend hwalk⟩

/-! ## Disks with more directories -/

/-- Directories are new where nothing was, and nothing else is. -/
structure Grows (before after : Disk) : Prop where
  here : after.here = before.here
  node : ∀ location, after.node? location = before.node? location ∨
    (before.node? location = none ∧ after.node? location = some .directory)

instance : Std.Refl Grows :=
  ⟨fun _ => ⟨rfl, fun _ => Or.inl rfl⟩⟩

instance : IsTrans Disk Grows := by
  refine ⟨fun a b c h h' => ⟨h'.here.trans h.here, fun location => ?_⟩⟩
  rcases h.node location with heq | ⟨ha, hb⟩
  · rw [← heq]
    exact h'.node location
  · rcases h'.node location with heq' | ⟨hb', -⟩
    · rw [heq']
      exact Or.inr ⟨ha, hb⟩
    · simp [hb] at hb'

/-- What was there is there. -/
lemma Grows.node?_eq (h : Grows disk disk') {node : Node}
    (hnode : disk.node? location = some node) : disk'.node? location = some node := by
  rcases h.node location with heq | ⟨hnone, -⟩
  · rw [heq, hnode]
  · simp [hnode] at hnone

lemma Grows.keeps (h : Grows disk disk') : Keeps disk disk' :=
  ⟨h.here, fun _ => h.node?_eq, fun _ _ => h.node?_eq⟩

/-- A path to a directory leads to one as long as directories and links are kept. -/
lemma HasDirectory.keeps (h : disk.HasDirectory path) (hkeeps : Keeps disk disk') :
    disk'.HasDirectory path := by
  obtain ⟨location, hfind, hdir⟩ := h
  have hdir' := hkeeps.directory _ hdir
  exact ⟨location, find_mono hkeeps hfind fun _ target => by simp [hdir'], hdir'⟩

/-- A file is there as long as the disk grows. -/
lemma Grows.content?_of_eq_some {data : Text.Octets} (h : Grows disk disk')
    (hcontent : disk.content? path = some data) : disk'.content? path = some data := by
  obtain ⟨place, executable, hfind, hnode⟩ := content?_eq_some.1 hcontent
  have hnode' := h.node?_eq hnode
  exact content?_eq_some.2
    ⟨place, executable, find_mono h.keeps hfind fun _ target => by simp [hnode'], hnode'⟩

/-! ## One directory -/

/-- **Making one directory** fails and changes nothing, or it puts a directory where nothing
was. -/
theorem makeDirectory_spec {r : Except Error Unit} (h : Ends (makeDirectory path) disk r disk') :
    ((∃ error, r = .error error) ∧ disk' = disk) ∨ (r = .ok () ∧ hasNul path = false ∧
      ∃ location, disk.find path false = .ok location ∧ disk.node? location = none ∧
        disk' = disk.put location .directory) := by
  obtain ⟨error, -, rfl, rfl⟩ | ⟨location, ⟨hnul, hfind⟩, hrest⟩ := ends_locate_bind.1 h
  · exact Or.inl ⟨⟨error, rfl⟩, rfl⟩
  · have hput := ends_get_bind.1 hrest
    split at hput
    · obtain ⟨rfl, rfl⟩ := ends_refuse.1 hput
      exact Or.inl ⟨⟨_, rfl⟩, rfl⟩
    · next hnode =>
        obtain ⟨rfl, rfl⟩ := ends_modify.1 hput
        exact Or.inr ⟨rfl, hnul, location, hfind, hnode, rfl⟩

/-- Where something is no directory is made. -/
lemma makeDirectory_of_present {stop : Location} (hnul : hasNul path = false)
    (hfind : disk.find path false = .ok stop) (hthere : disk.node? stop ≠ none) :
    Ends (makeDirectory path) disk (.error (.system (Cause.present.about path))) disk := by
  refine ends_locate_bind.2 (Or.inr ⟨stop, ⟨hnul, hfind⟩, ends_get_bind.2 ?_⟩)
  cases hnode : disk.node? stop with
  | none => exact absurd hnode hthere
  | some node => exact ends_refuse.2 ⟨rfl, rfl⟩

/-- A new directory is a directory. -/
lemma ne_nil_of_node?_eq_none (h : disk.node? location = none) : location ≠ [] := by
  rintro rfl
  simp [node?] at h

lemma grows_put (h : disk.node? location = none) : Grows disk (disk.put location .directory) := by
  refine ⟨rfl, fun other => ?_⟩
  rw [node?_put (ne_nil_of_node?_eq_none h)]
  split
  · next heq =>
      subst heq
      exact Or.inr ⟨h, rfl⟩
  · exact Or.inl rfl

lemma hasDirectory_makeDirectory (h : Ends (makeDirectory path) disk (.ok ()) disk') :
    disk'.HasDirectory path := by
  rcases makeDirectory_spec h with ⟨⟨error, herror⟩, -⟩ | ⟨-, -, location, hfind, hnode, rfl⟩
  · cases herror
  · have hnew := node?_put_self disk .directory (ne_nil_of_node?_eq_none hnode)
    have hold : disk.find path true = .ok location :=
      find_followed hfind fun target => by simp [hnode]
    refine ⟨location, find_mono (grows_put hnode).keeps hold fun _ target => ?_, hnew⟩
    simp [hnew]

lemma respects_makeDirectory : Respects Grows (makeDirectory path) := by
  intro disk r disk' h
  rcases makeDirectory_spec h with ⟨-, rfl⟩ | ⟨-, -, location, -, hnode, rfl⟩
  · exact refl_of Grows _
  · exact grows_put hnode

/-! ## A directory with all that it lies in -/

/-- What is left to do where a directory could not be made: to see that there is one. -/
lemma ends_standing {error : Error} : Ends (do unless ← isDirectory path do throw error)
    disk (.ok ()) disk' ↔ (hasNul path = false ∧ disk.HasDirectory path) ∧ disk' = disk := by
  rw [ends_bind_ok]
  constructor
  · rintro ⟨found, d, hfound, hrest⟩
    cases found with
    | true =>
        obtain ⟨-, rfl⟩ := ends_pure.1 hrest
        exact ends_isDirectory_true.1 hfound
    | false => cases (ends_throw.1 hrest).1
  · rintro h
    exact ⟨true, disk', ends_isDirectory_true.2 h, ends_pure.2 ⟨rfl, rfl⟩⟩

lemma respects_standing {error : Error} :
    Respects Eq (do unless ← isDirectory path do throw error : Action Unit) := by
  refine (respects_leadsTo _).bind fun found => ?_
  cases found with
  | true => exact Respects.pure _
  | false => exact Respects.throw _

lemma of_eq {R : Disk → Disk → Prop} [Std.Refl R] (h : disk = disk') : R disk disk' := by
  rw [h]
  exact refl_of R _

/-- What every directory that is made respects is respected by making all of them. -/
lemma respects_makeDirectoriesFrom {R : Disk → Disk → Prop} [Std.Refl R] [IsTrans Disk R]
    (hmake : ∀ path, Respects R (makeDirectory path)) (anchor : Anchor) :
    ∀ names : List String, Respects R (makeDirectoriesFrom anchor names)
  | [] => Respects.pure _
  | name :: outer => by
      unfold makeDirectoriesFrom
      refine (hmake _).tryCatch fun error => ?_
      split
      · split
        · refine (respects_makeDirectoriesFrom hmake anchor outer).bind fun _ => ?_
          refine (hmake _).tryCatch fun again => ?_
          split
          · split
            · exact Respects.throw _
            · exact respects_standing.mono of_eq
          · exact Respects.throw _
        · exact respects_standing.mono of_eq
      · exact Respects.throw _

/-- **Making directories puts directories where nothing was, and nothing else.** -/
theorem respects_makeDirectories : Respects Grows (makeDirectories path) :=
  respects_makeDirectoriesFrom (fun _ => respects_makeDirectory) _ _

/-- **Where there is a directory already nothing is done.** -/
theorem makeDirectories_of_hasDirectory (hnul : hasNul path = false)
    (h : disk.HasDirectory path) : Ends (makeDirectories path) disk (.ok ()) disk := by
  obtain ⟨anchor, names⟩ := path
  cases hnames : names.reverse with
  | nil =>
      rw [makeDirectories, hnames]
      exact ends_pure.2 ⟨rfl, rfl⟩
  | cons name outer =>
      have hback : (name :: outer).reverse = names := by rw [← hnames, List.reverse_reverse]
      rw [makeDirectories, hnames, makeDirectoriesFrom]
      simp only [hback]
      obtain ⟨reached, hfind, hdir⟩ := id h
      obtain ⟨stop, hstop, hthere⟩ := find_unfollowed hfind (by simp [hdir])
      refine Ends.catch_error (makeDirectory_of_present hnul hstop hthere) ?_
      exact ends_standing.2 ⟨⟨hnul, h⟩, rfl⟩

/-- **Where directories were made there is one.** -/
theorem hasDirectory_makeDirectories (hnames : path.names ≠ [])
    (h : Ends (makeDirectories path) disk (.ok ()) disk') :
    hasNul path = false ∧ disk'.HasDirectory path := by
  obtain ⟨anchor, names⟩ := path
  cases hreverse : names.reverse with
  | nil => exact absurd (List.reverse_eq_nil_iff.1 hreverse) hnames
  | cons name outer =>
      have hback : (name :: outer).reverse = names := by rw [← hreverse, List.reverse_reverse]
      rw [makeDirectories, hreverse, makeDirectoriesFrom] at h
      simp only [hback] at h
      have hmade {d d' : Disk} (h : Ends (makeDirectory ⟨anchor, names⟩) d (.ok ()) d') :
          hasNul ⟨anchor, names⟩ = false ∧ d'.HasDirectory ⟨anchor, names⟩ := by
        refine ⟨?_, hasDirectory_makeDirectory h⟩
        rcases makeDirectory_spec h with ⟨⟨error, herror⟩, -⟩ | ⟨-, hnul, -⟩
        · cases herror
        · exact hnul
      rcases ends_tryCatch.1 h with ⟨⟨⟩, hfirst, -⟩ | ⟨error, d, -, hrest⟩
      · exact hmade hfirst
      · split at hrest
        · split at hrest
          · obtain ⟨⟨⟩, d', -, hagain⟩ := ends_bind_ok.1 hrest
            rcases ends_tryCatch.1 hagain with ⟨⟨⟩, hsecond, -⟩ | ⟨error, d'', -, hlast⟩
            · exact hmade hsecond
            · split at hlast
              · split at hlast
                · cases (ends_throw.1 hlast).1
                · obtain ⟨hdir, rfl⟩ := ends_standing.1 hlast
                  exact hdir
              · cases (ends_throw.1 hlast).1
          · obtain ⟨hdir, rfl⟩ := ends_standing.1 hrest
            exact hdir
        · cases (ends_throw.1 hrest).1

end WasmCoverage.Disk
