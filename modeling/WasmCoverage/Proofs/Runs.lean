import Mathlib.Control.Monad.Basic
import Mathlib.Order.Defs.Unbundled
import Mathlib.Tactic.Lemma
import WasmCoverage.World

/-!
# Taking runs apart

A run is a computation that may fail and acts on a state, the disk or the world.  The lemmas here
say what a run does by what its steps do, so that later proofs peel one step off a run and never
unfold a bind.

* **Ends** relates the state a run begins in with its result and the state it leaves.
  `ends_bind` and `ends_tryCatch` are about one step; `ends_mapM_cons` is about one item of a
  batch.
* **Respects** says that a run relates every state to the one it leaves.  It holds of a run if it
  holds of its steps, for every preorder on states (`Respects.bind`, `Respects.tryCatch`).
* A run on the disk is one on the world, and respects there what it respects on the disk
  (`ends_onDisk`, `Respects.onDisk`).
-/

namespace WasmCoverage

deriving instance DecidableEq for Disk, World

/-- **A bind succeeds exactly if both its steps do.** -/
theorem bind_eq_ok_iff {ε α β : Type} {x : Except ε α} {f : α → Except ε β} {b : β} :
    x >>= f = .ok b ↔ ∃ a, x = .ok a ∧ f a = .ok b := by
  cases x <;> simp [bind, Except.bind]

/-- A map fails exactly as what is mapped does. -/
lemma map_eq_error_iff {ε α β : Type} {x : Except ε α} {f : α → β} {e : ε} :
    x.map f = .error e ↔ x = .error e := by
  cases x <;> simp [Except.map]

section Ends

variable {ε σ α β : Type}

/-! ## How a run ends -/

/-- From the state `before` the run ends with `result` and leaves the state `after`. -/
def Ends (run : ExceptT ε (StateM σ) α) (before : σ) (result : Except ε α) (after : σ) : Prop :=
  run.run.run before = (result, after)

instance [DecidableEq ε] [DecidableEq σ] [DecidableEq α] (run : ExceptT ε (StateM σ) α)
    (before : σ) (result : Except ε α) (after : σ) : Decidable (Ends run before result after) :=
  @decEq (Except ε α × σ) _ (run.run.run before) (result, after)

variable {s s' : σ} {x : ExceptT ε (StateM σ) α} {f : α → ExceptT ε (StateM σ) β}

/-- Every run ends. -/
lemma exists_ends (x : ExceptT ε (StateM σ) α) (s : σ) : ∃ r s', Ends x s r s' :=
  ⟨_, _, rfl⟩

/-- A run with a known result ends in the state that it computes. -/
lemma ends_of_result {r : Except ε α} (h : (x.run.run s).1 = r) : Ends x s r (x.run.run s).2 :=
  Prod.ext h rfl

lemma Ends.unique {r r₂ : Except ε α} {s₂ : σ} (h : Ends x s r s') (h₂ : Ends x s r₂ s₂) :
    r = r₂ ∧ s' = s₂ :=
  Prod.mk.inj (h.symm.trans h₂)

@[simp]
lemma ends_pure {a : α} {r : Except ε α} :
    Ends (pure a) s r s' ↔ r = .ok a ∧ s' = s := by
  exact (Prod.mk.injEq _ _ _ _).to_iff.trans (and_congr eq_comm eq_comm)

@[simp]
lemma ends_throw {e : ε} {r : Except ε α} :
    Ends (throw e) s r s' ↔ r = .error e ∧ s' = s := by
  exact (Prod.mk.injEq _ _ _ _).to_iff.trans (and_congr eq_comm eq_comm)

@[simp]
lemma ends_get {r : Except ε σ} :
    Ends (get : ExceptT ε (StateM σ) σ) s r s' ↔ r = .ok s ∧ s' = s := by
  exact (Prod.mk.injEq _ _ _ _).to_iff.trans (and_congr eq_comm eq_comm)

@[simp]
lemma ends_set {t : σ} {r : Except ε PUnit} :
    Ends (set t : ExceptT ε (StateM σ) PUnit) s r s' ↔ r = .ok ⟨⟩ ∧ s' = t := by
  exact (Prod.mk.injEq _ _ _ _).to_iff.trans (and_congr eq_comm eq_comm)

@[simp]
lemma ends_modify {g : σ → σ} {r : Except ε PUnit} :
    Ends (modify g : ExceptT ε (StateM σ) PUnit) s r s' ↔ r = .ok ⟨⟩ ∧ s' = g s := by
  exact (Prod.mk.injEq _ _ _ _).to_iff.trans (and_congr eq_comm eq_comm)

lemma Ends.bind {a : α} {r : Except ε β} {t : σ} (hx : Ends x s (.ok a) t)
    (hf : Ends (f a) t r s') : Ends (x >>= f) s r s' := by
  change StateT.bind x.run (ExceptT.bindCont f) s = (r, s')
  rw [StateT.bind, show x.run s = (Except.ok a, t) from hx]
  exact hf

lemma Ends.bind_error {e : ε} (hx : Ends x s (.error e) s') :
    Ends (x >>= f) s (.error e) s' := by
  change StateT.bind x.run (ExceptT.bindCont f) s = (.error e, s')
  rw [StateT.bind, show x.run s = (Except.error e, s') from hx]
  rfl

/-- **A bind ends as its second step does**, or fails where its first step does. -/
theorem ends_bind {r : Except ε β} :
    Ends (x >>= f) s r s' ↔ (∃ a t, Ends x s (.ok a) t ∧ Ends (f a) t r s') ∨
      ∃ e, Ends x s (.error e) s' ∧ r = .error e := by
  constructor
  · intro h
    obtain ⟨first, t, hx⟩ := exists_ends x s
    cases first with
    | ok a =>
        obtain ⟨r₂, s₂, hf⟩ := exists_ends (f a) t
        obtain ⟨rfl, rfl⟩ := h.unique (hx.bind hf)
        exact Or.inl ⟨a, t, hx, hf⟩
    | error e =>
        obtain ⟨rfl, rfl⟩ := h.unique hx.bind_error
        exact Or.inr ⟨e, hx, rfl⟩
  · rintro (⟨a, t, hx, hf⟩ | ⟨e, hx, rfl⟩)
    · exact hx.bind hf
    · exact hx.bind_error

/-- After a step that answers the rest is all that counts. -/
lemma Ends.bind_iff {a : α} {r : Except ε β} {t : σ} (hx : Ends x s (.ok a) t) :
    Ends (x >>= f) s r s' ↔ Ends (f a) t r s' := by
  refine ⟨fun h => ?_, hx.bind⟩
  obtain ⟨b, u, hfirst, hrest⟩ | ⟨e, hfirst, -⟩ := ends_bind.1 h
  · obtain ⟨heq, rfl⟩ := hfirst.unique hx
    obtain rfl := Except.ok.inj heq
    exact hrest
  · cases (hfirst.unique hx).1

lemma ends_bind_ok {b : β} :
    Ends (x >>= f) s (.ok b) s' ↔ ∃ a t, Ends x s (.ok a) t ∧ Ends (f a) t (.ok b) s' := by
  simp [ends_bind]

/-- Nothing is done after a throw. -/
lemma ends_throw_bind {e : ε} {r : Except ε β} :
    Ends ((throw e : ExceptT ε (StateM σ) α) >>= f) s r s' ↔ r = .error e ∧ s' = s :=
  ends_throw

/-- What is done with the state is done with the one that the run begins in. -/
lemma ends_get_bind {g : σ → ExceptT ε (StateM σ) β} {r : Except ε β} :
    Ends (get >>= g) s r s' ↔ Ends (g s) s r s' :=
  Iff.rfl

lemma Ends.catch_ok {a : α} {handler : ε → ExceptT ε (StateM σ) α} (hx : Ends x s (.ok a) s') :
    Ends (tryCatch x handler) s (.ok a) s' := by
  change StateT.bind x.run (fun result => match result with
    | .ok a => pure (.ok a)
    | .error e => (handler e).run) s = _
  rw [StateT.bind, show x.run s = (Except.ok a, s') from hx]
  rfl

lemma Ends.catch_error {e : ε} {handler : ε → ExceptT ε (StateM σ) α} {r : Except ε α} {t : σ}
    (hx : Ends x s (.error e) t) (hh : Ends (handler e) t r s') :
    Ends (tryCatch x handler) s r s' := by
  change StateT.bind x.run (fun result => match result with
    | .ok a => pure (.ok a)
    | .error e => (handler e).run) s = _
  rw [StateT.bind, show x.run s = (Except.error e, t) from hx]
  exact hh

/-- **What is tried ends as it does**, or as the handler of its failure. -/
theorem ends_tryCatch {handler : ε → ExceptT ε (StateM σ) α} {r : Except ε α} :
    Ends (tryCatch x handler) s r s' ↔ (∃ a, Ends x s (.ok a) s' ∧ r = .ok a) ∨
      ∃ e t, Ends x s (.error e) t ∧ Ends (handler e) t r s' := by
  constructor
  · intro h
    obtain ⟨first, t, hx⟩ := exists_ends x s
    cases first with
    | ok a =>
        obtain ⟨rfl, rfl⟩ := h.unique hx.catch_ok
        exact Or.inl ⟨a, hx, rfl⟩
    | error e =>
        obtain ⟨r₂, s₂, hh⟩ := exists_ends (handler e) t
        obtain ⟨rfl, rfl⟩ := h.unique (hx.catch_error hh)
        exact Or.inr ⟨e, t, hx, hh⟩
  · rintro (⟨a, hx, rfl⟩ | ⟨e, t, hx, hh⟩)
    · exact hx.catch_ok
    · exact hx.catch_error hh

lemma ends_mapM_cons {g : β → ExceptT ε (StateM σ) α} {b : β} {rest : List β} {as : List α} :
    Ends ((b :: rest).mapM g) s (.ok as) s' ↔ ∃ a others t, Ends (g b) s (.ok a) t ∧
      Ends (rest.mapM g) t (.ok others) s' ∧ as = a :: others := by
  simp only [List.mapM_cons, ends_bind_ok, ends_pure, Except.ok.injEq]
  constructor
  · rintro ⟨a, t, ha, others, t', ho, rfl, rfl⟩
    exact ⟨a, others, t, ha, ho, rfl⟩
  · rintro ⟨a, others, t, ha, ho, rfl⟩
    exact ⟨a, t, ha, others, _, ho, rfl, rfl⟩

/-- **A batch taken apart at one of its answers.** -/
theorem ends_mapM_split {g : β → ExceptT ε (StateM σ) α} {a : α} {later : List α} :
    ∀ {earlier : List α} {items : List β} {s s' : σ},
    Ends (items.mapM g) s (.ok (earlier ++ a :: later)) s' → ∃ before b behind t t',
      items = before ++ b :: behind ∧ before.length = earlier.length ∧
      Ends (before.mapM g) s (.ok earlier) t ∧ Ends (g b) t (.ok a) t' ∧
      Ends (behind.mapM g) t' (.ok later) s'
  | earlier, [], s, s', h => by
      rw [List.mapM_nil] at h
      have := Except.ok.inj (ends_pure.1 h).1
      simp at this
  | [], b :: rest, s, s', h => by
      obtain ⟨first, others, t, hfirst, hothers, heq⟩ := ends_mapM_cons.1 h
      obtain ⟨rfl, rfl⟩ := List.cons.inj heq
      exact ⟨[], b, rest, s, t, rfl, rfl, ends_pure.2 ⟨rfl, rfl⟩, hfirst, hothers⟩
  | e :: earlier, b :: rest, s, s', h => by
      obtain ⟨first, others, t, hfirst, hothers, heq⟩ := ends_mapM_cons.1 h
      obtain ⟨rfl, rfl⟩ := List.cons.inj heq
      obtain ⟨before, b', behind, u, u', rfl, hlength, hbefore, hb, hbehind⟩ :=
        ends_mapM_split hothers
      exact ⟨b :: before, b', behind, u, u', rfl, congrArg (· + 1) hlength,
        ends_mapM_cons.2 ⟨e, earlier, t, hfirst, hbefore, rfl⟩, hb, hbehind⟩

/-- A batch has as many answers as items. -/
lemma Ends.length_mapM {g : β → ExceptT ε (StateM σ) α} :
    ∀ {items : List β} {as : List α} {s s' : σ}, Ends (items.mapM g) s (.ok as) s' →
    items.length = as.length
  | [], as, s, s', h => by
      rw [List.mapM_nil] at h
      obtain rfl := Except.ok.inj (ends_pure.1 h).1
      rfl
  | b :: rest, as, s, s', h => by
      obtain ⟨a, others, t, -, hothers, rfl⟩ := ends_mapM_cons.1 h
      rw [List.length_cons, List.length_cons, hothers.length_mapM]

/-- **What every step of a batch keeps, the batch keeps.** -/
theorem Ends.mapM_keeps {g : β → ExceptT ε (StateM σ) α} {I : σ → Prop} :
    ∀ {items : List β} {as : List α} {s s' : σ}, Ends (items.mapM g) s (.ok as) s' → I s →
    (∀ b ∈ items, ∀ s a s', I s → Ends (g b) s (.ok a) s' → I s') → I s'
  | [], as, s, s', h, hs, _ => by
      rw [List.mapM_nil] at h
      obtain ⟨-, rfl⟩ := ends_pure.1 h
      exact hs
  | b :: rest, as, s, s', h, hs, hstep => by
      obtain ⟨a, others, t, ha, hothers, -⟩ := ends_mapM_cons.1 h
      rw [List.forall_mem_cons] at hstep
      exact hothers.mapM_keeps (hstep.1 s a t hs ha) hstep.2

/-- Every answer of a batch is that of the item at its place. -/
lemma Ends.exists_item {g : β → ExceptT ε (StateM σ) α} {I : σ → Prop} {items : List β}
    {as : List α} {i : Nat} {a : α} (h : Ends (items.mapM g) s (.ok as) s') (hs : I s)
    (hstep : ∀ b ∈ items, ∀ s a s', I s → Ends (g b) s (.ok a) s' → I s')
    (ha : as[i]? = some a) : ∃ b t t', items[i]? = some b ∧ I t ∧ Ends (g b) t (.ok a) t' := by
  obtain ⟨hi, rfl⟩ := List.getElem?_eq_some_iff.1 ha
  rw [← List.take_append_drop i as, List.drop_eq_getElem_cons hi] at h
  obtain ⟨before, b, behind, t, t', rfl, hlength, hbefore, hb, -⟩ := ends_mapM_split h
  have hlen : before.length = i := by simp [hlength, Nat.min_eq_left (Nat.le_of_lt hi)]
  refine ⟨b, t, t', by simp [← hlen], hbefore.mapM_keeps hs fun b' hb' => ?_, hb⟩
  exact hstep b' (List.mem_append_left _ hb')

/-- Every item of a batch has its answer. -/
lemma Ends.exists_answer {g : β → ExceptT ε (StateM σ) α} {I : σ → Prop} {b : β} :
    ∀ {items : List β} {as : List α} {s s' : σ}, Ends (items.mapM g) s (.ok as) s' → I s →
    (∀ b ∈ items, ∀ s a s', I s → Ends (g b) s (.ok a) s' → I s') → b ∈ items →
    ∃ a ∈ as, ∃ t t', I t ∧ Ends (g b) t (.ok a) t'
  | first :: rest, as, s, s', h, hs, hstep, hb => by
      obtain ⟨a, others, t, ha, hothers, rfl⟩ := ends_mapM_cons.1 h
      rw [List.forall_mem_cons] at hstep
      rcases List.mem_cons.1 hb with rfl | hb
      · exact ⟨a, by simp, s, t, hs, ha⟩
      · obtain ⟨other, hmem, hanswer⟩ :=
          hothers.exists_answer (hstep.1 s a t hs ha) hstep.2 hb
        exact ⟨other, List.mem_cons_of_mem _ hmem, hanswer⟩

/-- A batch ends with answers if every step does. -/
lemma exists_ends_mapM {g : β → ExceptT ε (StateM σ) α} {I : σ → Prop} :
    ∀ {items : List β} {s : σ}, I s →
    (∀ b ∈ items, ∀ s, I s → ∃ a s', Ends (g b) s (.ok a) s' ∧ I s') →
    ∃ as s', Ends (items.mapM g) s (.ok as) s' ∧ I s'
  | [], s, hs, _ => ⟨[], s, ends_pure.2 ⟨rfl, rfl⟩, hs⟩
  | b :: rest, s, hs, hstep => by
      rw [List.forall_mem_cons] at hstep
      obtain ⟨a, t, ha, ht⟩ := hstep.1 s hs
      obtain ⟨others, s', hothers, hs'⟩ := exists_ends_mapM ht hstep.2
      exact ⟨a :: others, s', ends_mapM_cons.2 ⟨a, others, t, ha, hothers, rfl⟩, hs'⟩

/-- What every answer has in common with its item, the batch has. -/
lemma Ends.map_mapM {γ : Type} {g : β → ExceptT ε (StateM σ) α} {f : α → γ} {f' : β → γ} :
    ∀ {items : List β} {as : List α} {s s' : σ}, Ends (items.mapM g) s (.ok as) s' →
    (∀ b ∈ items, ∀ s a s', Ends (g b) s (.ok a) s' → f a = f' b) → as.map f = items.map f'
  | [], as, s, s', h, _ => by
      rw [List.mapM_nil] at h
      obtain rfl := Except.ok.inj (ends_pure.1 h).1
      rfl
  | b :: rest, as, s, s', h, hstep => by
      obtain ⟨a, others, t, ha, hothers, rfl⟩ := ends_mapM_cons.1 h
      rw [List.forall_mem_cons] at hstep
      rw [List.map_cons, List.map_cons, hstep.1 s a t ha, hothers.map_mapM hstep.2]

/-- A batch fails as the first of its steps that does. -/
lemma Ends.mapM_error {g : β → ExceptT ε (StateM σ) α} {b : β} {behind : List β} {e : ε} {t : σ}
    (hb : Ends (g b) t (.error e) s') :
    ∀ {before : List β} {as : List α} {s : σ}, Ends (before.mapM g) s (.ok as) t →
    Ends ((before ++ b :: behind).mapM g) s (.error e) s'
  | [], as, s, h => by
      rw [List.mapM_nil] at h
      obtain ⟨-, rfl⟩ := ends_pure.1 h
      rw [List.nil_append, List.mapM_cons]
      exact hb.bind_error
  | first :: rest, as, s, h => by
      obtain ⟨a, others, u, ha, hothers, rfl⟩ := ends_mapM_cons.1 h
      rw [List.cons_append, List.mapM_cons]
      exact ha.bind (hb.mapM_error hothers).bind_error

/-! ## Equal runs -/

/-- Runs that end alike are equal. -/
lemma run_ext {x y : ExceptT ε (StateM σ) α} (h : ∀ s r s', Ends x s r s' → Ends y s r s') :
    x = y := by
  funext s
  exact (h s (x.run.run s).1 (x.run.run s).2 rfl).symm

/-- The value that a computation returned, early or at its end. -/
def settled : Except α α → α
  | .ok a => a
  | .error a => a

/-- A `return` in what is tried, or in the handler, ends what is tried and nothing else. -/
lemma tryCatch_early {x : ExceptT ε (StateM σ) (Except α α)} {y : ExceptT ε (StateM σ) α}
    {handler : ε → ExceptT ε (StateM σ) (Except α α)}
    {handled : ε → ExceptT ε (StateM σ) α} (hx : (do return settled (← x)) = y)
    (hhandler : ∀ failure, (do return settled (← handler failure)) = handled failure) :
    (do
      let e ← tryCatch x handler
      EarlyReturn.runK e (fun a => pure a) (fun a => pure a)) = tryCatch y handled := by
  obtain rfl := hx
  obtain rfl := funext hhandler
  have hsettled (e : Except α α) : (EarlyReturn.runK e (fun a => pure a) (fun a => pure a) :
      ExceptT ε (StateM σ) α) = pure (settled e) := by
    cases e <;> rfl
  refine run_ext fun s r s' h => ?_
  simp only [hsettled] at h
  rcases ends_bind.1 h with ⟨e, t, htry, hlast⟩ | ⟨failure, htry, rfl⟩
  · rcases ends_tryCatch.1 htry with ⟨a, hx, ha⟩ | ⟨failure, t', hx, hhandler⟩
    · obtain rfl := Except.ok.inj ha
      obtain ⟨rfl, rfl⟩ := ends_pure.1 hlast
      have hdone : Ends (do return settled (← x)) s (.ok (settled e)) s' :=
        hx.bind (ends_pure.2 ⟨rfl, rfl⟩)
      exact hdone.catch_ok
    · exact hx.bind_error.catch_error (hhandler.bind hlast)
  · rcases ends_tryCatch.1 htry with ⟨a, hx, ha⟩ | ⟨first, t', hx, hhandler⟩
    · cases ha
    · exact hx.bind_error.catch_error hhandler.bind_error

/-! ## What a run respects -/

/-- The run relates every state that it begins in to the one that it leaves. -/
def Respects (R : σ → σ → Prop) (run : ExceptT ε (StateM σ) α) : Prop :=
  ∀ s r s', Ends run s r s' → R s s'

variable {R : σ → σ → Prop}

lemma Respects.mono {Q : σ → σ → Prop} (hRQ : ∀ {s s'}, R s s' → Q s s') (h : Respects R x) :
    Respects Q x :=
  fun s r s' hx => hRQ (h s r s' hx)

lemma Respects.pure [Std.Refl R] (a : α) :
    Respects R (Pure.pure a : ExceptT ε (StateM σ) α) := by
  intro s r s' h
  obtain ⟨-, rfl⟩ := ends_pure.1 h
  exact refl_of R _

lemma Respects.throw [Std.Refl R] (e : ε) :
    Respects R (MonadExcept.throw e : ExceptT ε (StateM σ) α) := by
  intro s r s' h
  obtain ⟨-, rfl⟩ := ends_throw.1 h
  exact refl_of R _

lemma Respects.get [Std.Refl R] : Respects R (MonadState.get : ExceptT ε (StateM σ) σ) := by
  intro s r s' h
  obtain ⟨-, rfl⟩ := ends_get.1 h
  exact refl_of R _

/-- A bind respects what its first step does and its second step does with an answer of the
first. -/
lemma Respects.bind_of_ends [IsTrans σ R] (hx : Respects R x)
    (hf : ∀ a s t, Ends x s (.ok a) t → Respects R (f a)) : Respects R (x >>= f) := by
  intro s r s' h
  rcases ends_bind.1 h with ⟨a, t, ha, hb⟩ | ⟨e, he, -⟩
  · exact trans_of R (hx _ _ _ ha) (hf a _ _ ha _ _ _ hb)
  · exact hx _ _ _ he

/-- **A bind respects what both its steps do.** -/
theorem Respects.bind [IsTrans σ R] (hx : Respects R x) (hf : ∀ a, Respects R (f a)) :
    Respects R (x >>= f) :=
  hx.bind_of_ends fun a _ _ _ => hf a

theorem Respects.tryCatch [IsTrans σ R] {handler : ε → ExceptT ε (StateM σ) α}
    (hx : Respects R x) (hh : ∀ e, Respects R (handler e)) :
    Respects R (MonadExcept.tryCatch x handler) := by
  intro s r s' h
  rcases ends_tryCatch.1 h with ⟨a, ha, -⟩ | ⟨e, t, he, hr⟩
  · exact hx _ _ _ ha
  · exact trans_of R (hx _ _ _ he) (hh e _ _ _ hr)

lemma Respects.mapM [Std.Refl R] [IsTrans σ R] {g : β → ExceptT ε (StateM σ) α} :
    ∀ {items : List β}, (∀ b ∈ items, Respects R (g b)) → Respects R (items.mapM g)
  | [], _ => by
      rw [List.mapM_nil]
      exact Respects.pure _
  | b :: rest, h => by
      rw [List.forall_mem_cons] at h
      rw [List.mapM_cons]
      exact h.1.bind fun _ => (Respects.mapM h.2).bind fun _ => Respects.pure _

lemma Respects.forM [Std.Refl R] [IsTrans σ R] {g : β → ExceptT ε (StateM σ) PUnit} :
    ∀ {items : List β}, (∀ b ∈ items, Respects R (g b)) → Respects R (items.forM g)
  | [], _ => Respects.pure _
  | b :: rest, h => by
      rw [List.forall_mem_cons] at h
      exact h.1.bind fun _ => Respects.forM h.2

end Ends

/-! ## Runs on the disk -/

section OnDisk

variable {α : Type} {action : Disk.Action α} {w w' : World}

/-- The fault that an error of the disk is passed on as. -/
def passedOn (reword : Disk.Error → Fault) (error : Disk.Error) : Fault :=
  if error.isRefusal then reword error else .disk error

/-- **A run on the disk ends as the action does** and leaves the rest of the world as it was. -/
theorem ends_onDiskOr {reword : Disk.Error → Fault} {r : Except Fault α} :
    Ends (onDiskOr reword action) w r w' ↔ ∃ result disk, Ends action w.disk result disk ∧
      r = result.mapError (passedOn reword) ∧ w' = { w with disk } := by
  obtain ⟨result, disk, haction⟩ := exists_ends action w.disk
  have hrun : Ends (onDiskOr reword action) w (result.mapError (passedOn reword))
      { w with disk } := by
    refine (ends_get.2 ⟨rfl, rfl⟩).bind ?_
    rw [show action.run.run w.disk = (result, disk) from haction]
    refine (ends_set.2 ⟨rfl, rfl⟩).bind ?_
    cases result with
    | ok value => exact ends_pure.2 ⟨rfl, rfl⟩
    | error error => exact ends_throw.2 ⟨rfl, rfl⟩
  constructor
  · intro h
    obtain ⟨rfl, rfl⟩ := h.unique hrun
    exact ⟨result, disk, haction, rfl, rfl⟩
  · rintro ⟨result', disk', haction', rfl, rfl⟩
    obtain ⟨rfl, rfl⟩ := haction.unique haction'
    exact hrun

lemma onDisk_eq (action : Disk.Action α) : onDisk action = onDiskOr .disk action := by
  simp [onDisk, onDiskOr]

lemma passedOn_disk (error : Disk.Error) : passedOn .disk error = .disk error := by
  simp [passedOn]

theorem ends_onDisk {r : Except Fault α} :
    Ends (onDisk action) w r w' ↔ ∃ result disk, Ends action w.disk result disk ∧
      r = result.mapError .disk ∧ w' = { w with disk } := by
  rw [onDisk_eq, ends_onDiskOr, funext passedOn_disk]

lemma ends_onDiskOr_ok {reword : Disk.Error → Fault} {a : α} :
    Ends (onDiskOr reword action) w (.ok a) w' ↔
      ∃ disk, Ends action w.disk (.ok a) disk ∧ w' = { w with disk } := by
  rw [ends_onDiskOr]
  constructor
  · rintro ⟨result, disk, h, hr, rfl⟩
    cases result with
    | ok value =>
        obtain rfl := Except.ok.inj hr
        exact ⟨disk, h, rfl⟩
    | error error => cases hr
  · rintro ⟨disk, h, rfl⟩
    exact ⟨.ok a, disk, h, rfl, rfl⟩

lemma ends_onDisk_ok {a : α} :
    Ends (onDisk action) w (.ok a) w' ↔
      ∃ disk, Ends action w.disk (.ok a) disk ∧ w' = { w with disk } := by
  rw [onDisk_eq, ends_onDiskOr_ok]

/-! ## Runs and the disk of the world -/

/-- The run does to the disk only what `R` allows. -/
def OnDisk (R : Disk → Disk → Prop) (before after : World) : Prop :=
  R before.disk after.disk

variable {R : Disk → Disk → Prop}

instance [Std.Refl R] : Std.Refl (OnDisk R) :=
  ⟨fun w => refl_of R w.disk⟩

instance [IsTrans Disk R] : IsTrans World (OnDisk R) :=
  ⟨fun _ _ _ h h' => trans_of R h h'⟩

lemma Respects.onDiskOr {reword : Disk.Error → Fault} (h : Respects R action) :
    Respects (OnDisk R) (onDiskOr reword action) := by
  intro w r w' hrun
  obtain ⟨result, disk, haction, -, rfl⟩ := ends_onDiskOr.1 hrun
  exact h _ _ _ haction

lemma Respects.onDisk (h : Respects R action) : Respects (OnDisk R) (onDisk action) := by
  rw [onDisk_eq]
  exact h.onDiskOr

lemma Respects.journal [Std.Refl R] (author : Author) (level : LogLevel) (message : String) :
    Respects (OnDisk R) (journal author level message) := by
  intro w r w' h
  obtain ⟨-, rfl⟩ := ends_modify.1 h
  exact refl_of R w.disk

/-! ## Calls -/

/-- What the tools answer to a call. -/
def World.response (w : World) (tools : Toolbox) (request : Call) : Response :=
  tools w.calls request w.disk

/-- The world after a call. -/
def World.answered (w : World) (tools : Toolbox) (request : Call) : World :=
  let response := w.response tools request
  { w with
    disk := response.disk
    calls := w.calls ++ [request]
    journal := w.journal ++ response.log
    terminal := w.terminal ++ response.printed }

/-- **A call ends as the tool answers.** -/
theorem ends_call {tools : Toolbox} {request : Call} {r : Except Fault String} :
    Ends (call tools request) w r w' ↔
      r = (w.response tools request).outcome ∧ w' = w.answered tools request := by
  have hrun : Ends (call tools request) w (w.response tools request).outcome
      (w.answered tools request) := by
    refine (ends_get.2 ⟨rfl, rfl⟩).bind ((ends_set.2 ⟨rfl, rfl⟩).bind ?_)
    split
    · next output houtput => exact ends_pure.2 ⟨houtput, rfl⟩
    · next fault hfault => exact ends_throw.2 ⟨hfault, rfl⟩
  constructor
  · intro h
    exact h.unique hrun
  · rintro ⟨rfl, rfl⟩
    exact hrun

/-- A call that writes to the terminal ends so as well, but nothing is said. -/
lemma ends_stream {tools : Toolbox} {argv : List String} {environment : Option Cargo.Environment}
    {r : Except Fault Unit} :
    Ends (stream tools argv environment) w r w' ↔
      r = (w.response tools ⟨true, argv, environment⟩).outcome.map (fun _ => ()) ∧
        w' = w.answered tools ⟨true, argv, environment⟩ := by
  constructor
  · intro h
    obtain ⟨told, t, hcall, hlast⟩ | ⟨fault, hcall, rfl⟩ := ends_bind.1 h
    · obtain ⟨houtcome, rfl⟩ := ends_call.1 hcall
      obtain ⟨rfl, rfl⟩ := ends_pure.1 hlast
      exact ⟨by rw [← houtcome]; rfl, rfl⟩
    · obtain ⟨houtcome, rfl⟩ := ends_call.1 hcall
      exact ⟨by rw [← houtcome]; rfl, rfl⟩
  · rintro ⟨rfl, rfl⟩
    cases houtcome : (w.response tools ⟨true, argv, environment⟩).outcome with
    | ok told =>
      exact (ends_call.2 ⟨houtcome.symm, rfl⟩).bind (ends_pure.2 ⟨rfl, rfl⟩)
    | error fault => exact Ends.bind_error (ends_call.2 ⟨houtcome.symm, rfl⟩)

end OnDisk

end WasmCoverage
