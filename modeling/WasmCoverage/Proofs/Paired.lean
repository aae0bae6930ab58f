import WasmCoverage.Proofs.Runs

/-!
# Runs side by side

Two runs can begin in different states and do the same, because what is different does not matter
to them.  `Paired` relates how they begin with how they end: with one result, and in states that
are related again.  It goes from step to step (`Paired.bind`, `Paired.tryCatch`), and a run that
looks at its state may go on in two ways, as long as these are paired (`Paired.get_bind`).

A run that is paired with itself conceals the difference.  Sometimes a failure lets it through,
and only the answers are the same (`Alike`); a run that only reads is like that if either run
answers what the other does (`alike_of_answersAlike`).  And sometimes the difference becomes smaller
from step to step; then no step may fail, and each says what holds of the states it leaves
(`Together`).
-/

namespace WasmCoverage

section Paired

variable {ε σ α β : Type} {R : σ → σ → Prop} {x y : ExceptT ε (StateM σ) α}
  {f g : α → ExceptT ε (StateM σ) β} {s t : σ}

/-- Begun in the two states, the runs end with the same result, and in related states. -/
def Paired (R : σ → σ → Prop) (x y : ExceptT ε (StateM σ) α) (s t : σ) : Prop :=
  ∀ r s', Ends x s r s' → ∃ t', Ends y t r t' ∧ R s' t'

/-- The run does the same in related states. -/
abbrev Conceals (R : σ → σ → Prop) (x : ExceptT ε (StateM σ) α) : Prop :=
  ∀ s t, R s t → Paired R x x s t

lemma Paired.pure (a : α) (h : R s t) :
    Paired R (Pure.pure a : ExceptT ε (StateM σ) α) (Pure.pure a) s t := by
  intro r s' hend
  obtain ⟨rfl, rfl⟩ := ends_pure.1 hend
  exact ⟨t, ends_pure.2 ⟨rfl, rfl⟩, h⟩

lemma Paired.throw (e : ε) (h : R s t) :
    Paired R (MonadExcept.throw e : ExceptT ε (StateM σ) α) (MonadExcept.throw e) s t := by
  intro r s' hend
  obtain ⟨rfl, rfl⟩ := ends_throw.1 hend
  exact ⟨t, ends_throw.2 ⟨rfl, rfl⟩, h⟩

/-- Nothing is done after a throw. -/
lemma Paired.throw_bind (e : ε) (h : R s t) :
    Paired R ((MonadExcept.throw e : ExceptT ε (StateM σ) α) >>= f) (MonadExcept.throw e >>= g)
      s t := by
  intro r s' hend
  obtain ⟨a, u, hthrow, -⟩ | ⟨e', hthrow, rfl⟩ := ends_bind.1 hend
  · cases (ends_throw.1 hthrow).1
  · obtain ⟨heq, rfl⟩ := ends_throw.1 hthrow
    obtain rfl := Except.error.inj heq
    exact ⟨t, Ends.bind_error (ends_throw.2 ⟨rfl, rfl⟩), h⟩

lemma Paired.modify {m n : σ → σ} (h : R (m s) (n t)) :
    Paired R (MonadStateOf.modifyGet fun s => (⟨⟩, m s) : ExceptT ε (StateM σ) PUnit)
      (MonadStateOf.modifyGet fun s => (⟨⟩, n s)) s t := by
  intro r s' hend
  obtain ⟨rfl, rfl⟩ := ends_modify.1 hend
  exact ⟨n t, ends_modify.2 ⟨rfl, rfl⟩, h⟩

/-- **Paired steps make paired runs.** -/
theorem Paired.bind_of_both (hx : Paired R x y s t)
    (hf : ∀ a s' t', Ends x s (.ok a) s' → Ends y t (.ok a) t' → R s' t' →
      Paired R (f a) (g a) s' t') :
    Paired R (x >>= f) (y >>= g) s t := by
  intro r s' hend
  obtain ⟨a, u, hfirst, hrest⟩ | ⟨e, hfirst, rfl⟩ := ends_bind.1 hend
  · obtain ⟨v, hsecond, hrelated⟩ := hx _ u hfirst
    obtain ⟨t', hlast, hend'⟩ := hf a u v hfirst hsecond hrelated r s' hrest
    exact ⟨t', hsecond.bind hlast, hend'⟩
  · obtain ⟨t', hsecond, hrelated⟩ := hx _ s' hfirst
    exact ⟨t', hsecond.bind_error, hrelated⟩

lemma Paired.bind_of_ends (hx : Paired R x y s t)
    (hf : ∀ a s' t', Ends x s (.ok a) s' → R s' t' → Paired R (f a) (g a) s' t') :
    Paired R (x >>= f) (y >>= g) s t :=
  hx.bind_of_both fun a s' t' hend _ => hf a s' t' hend

lemma Paired.bind (hx : Paired R x y s t)
    (hf : ∀ a s' t', R s' t' → Paired R (f a) (g a) s' t') :
    Paired R (x >>= f) (y >>= g) s t :=
  hx.bind_of_ends fun a s' t' _ => hf a s' t'

/-- What the runs do with their states may look different. -/
lemma Paired.get_bind {f g : σ → ExceptT ε (StateM σ) β} (h : Paired R (f s) (g t) s t) :
    Paired R (MonadState.get >>= f) (MonadState.get >>= g) s t := by
  intro r s' hend
  obtain ⟨t', hlast, hrelated⟩ := h r s' (ends_get_bind.1 hend)
  exact ⟨t', ends_get_bind.2 hlast, hrelated⟩

lemma Paired.tryCatch {hx hy : ε → ExceptT ε (StateM σ) α} (h : Paired R x y s t)
    (hh : ∀ e s' t', R s' t' → Paired R (hx e) (hy e) s' t') :
    Paired R (MonadExcept.tryCatch x hx) (MonadExcept.tryCatch y hy) s t := by
  intro r s' hend
  obtain ⟨a, hfirst, rfl⟩ | ⟨e, u, hfirst, hrest⟩ := ends_tryCatch.1 hend
  · obtain ⟨t', hsecond, hrelated⟩ := h _ s' hfirst
    exact ⟨t', hsecond.catch_ok, hrelated⟩
  · obtain ⟨v, hsecond, hrelated⟩ := h _ u hfirst
    obtain ⟨t', hlast, hend'⟩ := hh e u v hrelated r s' hrest
    exact ⟨t', hsecond.catch_error hlast, hend'⟩

/-! ## Runs that conceal a difference -/

lemma Conceals.pure (a : α) : Conceals R (Pure.pure a : ExceptT ε (StateM σ) α) :=
  fun _ _ h => .pure a h

lemma Conceals.throw (e : ε) : Conceals R (MonadExcept.throw e : ExceptT ε (StateM σ) α) :=
  fun _ _ h => .throw e h

/-- **A run conceals what its steps conceal.** -/
theorem Conceals.bind (hx : Conceals R x) (hf : ∀ a, Conceals R (f a)) :
    Conceals R (x >>= f) :=
  fun s t h => (hx s t h).bind fun a => hf a

lemma Conceals.bind_of_ends (hx : Conceals R x)
    (hf : ∀ a s s', Ends x s (.ok a) s' → Conceals R (f a)) : Conceals R (x >>= f) :=
  fun s t h => (hx s t h).bind_of_ends fun a s' t' hend => hf a s s' hend s' t'

lemma Conceals.tryCatch {handler : ε → ExceptT ε (StateM σ) α} (hx : Conceals R x)
    (hh : ∀ e, Conceals R (handler e)) : Conceals R (MonadExcept.tryCatch x handler) :=
  fun s t h => (hx s t h).tryCatch fun e => hh e

lemma Conceals.mapM {g : β → ExceptT ε (StateM σ) α} :
    ∀ {items : List β}, (∀ b ∈ items, Conceals R (g b)) → Conceals R (items.mapM g)
  | [], _ => by
      rw [List.mapM_nil]
      exact .pure _
  | b :: rest, h => by
      rw [List.forall_mem_cons] at h
      rw [List.mapM_cons]
      exact h.1.bind fun _ => (Conceals.mapM h.2).bind fun _ => .pure _

/-! ## Runs that are paired up to failures -/

/-- The same answer, or failures that `E` relates. -/
def SameUpTo (E : ε → ε → Prop) (r r' : Except ε α) : Prop :=
  r' = r ∨ ∃ e e', r = .error e ∧ r' = .error e' ∧ E e e'

/-- Begun in the two states, the runs end with the same answer or fail in ways that `E` relates,
and they end in related states. -/
def Alike (E : ε → ε → Prop) (R : σ → σ → Prop) (x y : ExceptT ε (StateM σ) α) (s t : σ) : Prop :=
  ∀ r s', Ends x s r s' → ∃ r' t', Ends y t r' t' ∧ SameUpTo E r r' ∧ R s' t'

variable {E : ε → ε → Prop}

lemma Paired.alike (h : Paired R x y s t) : Alike E R x y s t := by
  intro r s' hend
  obtain ⟨t', hend', hrelated⟩ := h r s' hend
  exact ⟨r, t', hend', Or.inl rfl, hrelated⟩

/-- **Steps that are alike make runs that are alike.** -/
theorem Alike.bind_of_both (hx : Alike E R x y s t)
    (hf : ∀ a s' t', Ends x s (.ok a) s' → Ends y t (.ok a) t' → R s' t' →
      Alike E R (f a) (g a) s' t') :
    Alike E R (x >>= f) (y >>= g) s t := by
  intro r s' hend
  obtain ⟨a, u, hfirst, hrest⟩ | ⟨e, hfirst, rfl⟩ := ends_bind.1 hend
  · obtain ⟨r', v, hsecond, hsame, hrelated⟩ := hx _ u hfirst
    rcases hsame with rfl | ⟨e, e', he, -⟩
    · obtain ⟨r', t', hlast, hsame, hend'⟩ := hf a u v hfirst hsecond hrelated r s' hrest
      exact ⟨r', t', hsecond.bind hlast, hsame, hend'⟩
    · cases he
  · obtain ⟨r', t', hsecond, hsame, hrelated⟩ := hx _ s' hfirst
    rcases hsame with rfl | ⟨e, e', he, rfl, hkindred⟩
    · exact ⟨_, t', hsecond.bind_error, Or.inl rfl, hrelated⟩
    · obtain rfl := Except.error.inj he
      exact ⟨_, t', hsecond.bind_error, Or.inr ⟨_, e', rfl, rfl, hkindred⟩, hrelated⟩

lemma Alike.bind (hx : Alike E R x y s t)
    (hf : ∀ a s' t', R s' t' → Alike E R (f a) (g a) s' t') :
    Alike E R (x >>= f) (y >>= g) s t :=
  hx.bind_of_both fun a s' t' _ _ => hf a s' t'

lemma Paired.bind_alike (hx : Paired R x y s t)
    (hf : ∀ a s' t', R s' t' → Alike E R (f a) (g a) s' t') :
    Alike E R (x >>= f) (y >>= g) s t :=
  hx.alike.bind hf

lemma Alike.get_bind {f g : σ → ExceptT ε (StateM σ) β} (h : Alike E R (f s) (g t) s t) :
    Alike E R (MonadState.get >>= f) (MonadState.get >>= g) s t := by
  intro r s' hend
  obtain ⟨r', t', hlast, hsame⟩ := h r s' (ends_get_bind.1 hend)
  exact ⟨r', t', ends_get_bind.2 hlast, hsame⟩

/-- Where the run that is begun in the first state answers, the other gives the same answer. -/
def AnswersAlike (R : σ → σ → Prop) (x y : ExceptT ε (StateM σ) α) (s t : σ) : Prop :=
  ∀ a s', Ends x s (.ok a) s' → ∃ t', Ends y t (.ok a) t' ∧ R s' t'

lemma Paired.answersAlike (h : Paired R x y s t) : AnswersAlike R x y s t :=
  fun a s' hend => h (.ok a) s' hend

lemma AnswersAlike.bind (hx : AnswersAlike R x y s t)
    (hf : ∀ a s' t', R s' t' → AnswersAlike R (f a) (g a) s' t') :
    AnswersAlike R (x >>= f) (y >>= g) s t := by
  intro b s' hend
  obtain ⟨a, u, hfirst, hrest⟩ := ends_bind_ok.1 hend
  obtain ⟨v, hsecond, hrelated⟩ := hx a u hfirst
  obtain ⟨t', hlast, hend'⟩ := hf a u v hrelated b s' hrest
  exact ⟨t', hsecond.bind hlast, hend'⟩

/-- **Runs that read, and answer alike both ways, are alike**: if one fails so does the other. -/
theorem alike_of_answersAlike {P : ε → Prop} (hx : AnswersAlike R x y s t)
    (hy : AnswersAlike R y x t s) (hread : Respects Eq x) (hread' : Respects Eq y)
    (hfails : ∀ s e s', Ends x s (.error e) s' → P e)
    (hfails' : ∀ s e s', Ends y s (.error e) s' → P e) (h : R s t) :
    Alike (fun e e' => P e ∧ P e') R x y s t := by
  intro r s' hend
  obtain rfl := hread _ _ _ hend
  cases r with
  | ok a =>
    obtain ⟨t', hsecond, hrelated⟩ := hx a s hend
    exact ⟨_, t', hsecond, Or.inl rfl, hrelated⟩
  | error e =>
    obtain ⟨r', t', hsecond⟩ := exists_ends y t
    obtain rfl := hread' _ _ _ hsecond
    cases r' with
    | ok a =>
      obtain ⟨s', hfirst, -⟩ := hy a t hsecond
      cases (hfirst.unique hend).1
    | error e' =>
      exact ⟨_, t, hsecond, Or.inr ⟨e, e', rfl, rfl, hfails _ _ _ hend, hfails' _ _ _ hsecond⟩, h⟩

/-! ## Runs that answer -/

/-- Begun in the two states, the runs give the same answer, and leave states for which `Q` holds
of it. -/
def Together (Q : α → σ → σ → Prop) (x y : ExceptT ε (StateM σ) α) (s t : σ) : Prop :=
  ∃ a s' t', Ends x s (.ok a) s' ∧ Ends y t (.ok a) t' ∧ Q a s' t'

variable {Q : α → σ → σ → Prop} {Q' : β → σ → σ → Prop}

lemma Together.pure {a : α} (h : Q a s t) :
    Together Q (Pure.pure a : ExceptT ε (StateM σ) α) (Pure.pure a) s t :=
  ⟨a, s, t, ends_pure.2 ⟨rfl, rfl⟩, ends_pure.2 ⟨rfl, rfl⟩, h⟩

/-- **Steps that answer together make runs that do.** -/
theorem Together.bind_of_ends (hx : Together Q x y s t)
    (hf : ∀ a s' t', Ends x s (.ok a) s' → Q a s' t' → Together Q' (f a) (g a) s' t') :
    Together Q' (x >>= f) (y >>= g) s t := by
  obtain ⟨a, s', t', hfirst, hsecond, hrelated⟩ := hx
  obtain ⟨b, s'', t'', hlast, hlast', hend⟩ := hf a s' t' hfirst hrelated
  exact ⟨b, s'', t'', hfirst.bind hlast, hsecond.bind hlast', hend⟩

lemma Together.bind (hx : Together Q x y s t)
    (hf : ∀ a s' t', Q a s' t' → Together Q' (f a) (g a) s' t') :
    Together Q' (x >>= f) (y >>= g) s t :=
  hx.bind_of_ends fun a s' t' _ => hf a s' t'

lemma Together.mono (h : Together Q x y s t) {R : α → σ → σ → Prop}
    (hQR : ∀ a s' t', Q a s' t' → R a s' t') : Together R x y s t := by
  obtain ⟨a, s', t', hfirst, hsecond, hrelated⟩ := h
  exact ⟨a, s', t', hfirst, hsecond, hQR a s' t' hrelated⟩

end Paired

end WasmCoverage
