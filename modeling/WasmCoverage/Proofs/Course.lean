import WasmCoverage.Proofs.Runs

/-!
# How a batch goes

A batch is a search for items and a step for each of them, in order.  There are three ways it can
go (`Course`): the search fails; a step fails, and the batch is stopped before the rest is tried;
or every item is tried.  Up to where it came, what was done is a `Trace`, one answer for every item
and in the same order.

**`Course.of_ends`** reads the course of a batch off what one step does.
-/

namespace WasmCoverage

variable {σ α β : Type}

/-! ## Traces -/

/-- From one world to another the items were answered one after another. -/
inductive Trace (Answers : World → β → α → World → Prop) :
    World → List β → List α → World → Prop
  | nil (w : World) : Trace Answers w [] [] w
  | cons {w t w' : World} {b : β} {a : α} {items : List β} {answers : List α}
      (head : Answers w b a t) (tail : Trace Answers t items answers w') :
      Trace Answers w (b :: items) (a :: answers) w'

namespace Trace

variable {Answers : World → β → α → World → Prop} {w w' : World} {items : List β}
  {answers : List α}

/-- Every answer answers an item. -/
lemma exists_item (h : Trace Answers w items answers w') :
    ∀ a ∈ answers, ∃ b ∈ items, ∃ t t', Answers t b a t' := by
  induction h with
  | nil w => simp
  | cons head _ ih =>
      rw [List.forall_mem_cons]
      refine ⟨⟨_, List.mem_cons_self, _, _, head⟩, fun a ha => ?_⟩
      obtain ⟨b, hb, hanswer⟩ := ih a ha
      exact ⟨b, List.mem_cons_of_mem _ hb, hanswer⟩

lemma eq_nil (h : Trace Answers w items [] w') : items = [] ∧ w' = w := by
  cases h with
  | nil => exact ⟨rfl, rfl⟩

end Trace

/-! ## Courses -/

/-- How a batch goes.  `Search` says how the search for items ends, `Answers` what a step does that
gives an answer, and `Stops` what one does that fails. -/
inductive Course (Search : World → Except Fault σ → World → Prop) (items : σ → List β)
    (Answers : σ → World → β → α → World → Prop) (Stops : σ → World → β → Fault → World → Prop)
    (w : World) : Except Fault (σ × List α) → World → Prop
  /-- The items could not be searched for. -/
  | unsearched {fault : Fault} {w' : World} (search : Search w (.error fault) w') :
      Course Search items Answers Stops w (.error fault) w'
  /-- The batch was stopped at an item; the items before it were tried. -/
  | stopped {found : σ} {before behind : List β} {b : β} {answers : List α} {fault : Fault}
      {started t w' : World} (search : Search w (.ok found) started)
      (split : items found = before ++ b :: behind)
      (tried : Trace (Answers found) started before answers t)
      (stop : Stops found t b fault w') : Course Search items Answers Stops w (.error fault) w'
  /-- Every item was tried. -/
  | tried {found : σ} {answers : List α} {started w' : World}
      (search : Search w (.ok found) started)
      (all : Trace (Answers found) started (items found) answers w') :
      Course Search items Answers Stops w (.ok (found, answers)) w'

/-- Search for items, and take a step for each. -/
def batch (search : Run σ) (items : σ → List β) (step : σ → β → Run α) :
    Run (σ × List α) := do
  let found ← search
  let answers ← (items found).mapM (step found)
  return (found, answers)

variable {Answers : World → β → α → World → Prop} {Stops : World → β → Fault → World → Prop}

/-- What is done for some items, one after another: all are answered, or a step fails. -/
lemma trace_of_ends_mapM {step : β → Run α} : ∀ {items : List β} {w w' : World}
    {r : Except Fault (List α)},
    (∀ b ∈ items, ∀ w r w', Ends (step b) w r w' →
      (∃ a, r = .ok a ∧ Answers w b a w') ∨ ∃ fault, r = .error fault ∧ Stops w b fault w') →
    Ends (items.mapM step) w r w' →
    (∃ answers, r = .ok answers ∧ Trace Answers w items answers w') ∨
      ∃ before b behind answers fault t, items = before ++ b :: behind ∧ r = .error fault ∧
        Trace Answers w before answers t ∧ Stops t b fault w'
  | [], w, w', r, _, h => by
      rw [List.mapM_nil] at h
      obtain ⟨rfl, rfl⟩ := ends_pure.1 h
      exact Or.inl ⟨[], rfl, .nil _⟩
  | b :: rest, w, w', r, hstep, h => by
      rw [List.forall_mem_cons] at hstep
      rw [List.mapM_cons] at h
      rcases ends_bind.1 h with ⟨a, t, ha, hrest⟩ | ⟨fault, hb, rfl⟩
      · obtain ⟨a', ha', hanswer⟩ | ⟨fault, hfault, -⟩ := hstep.1 _ _ _ ha
        · obtain rfl := Except.ok.inj ha'
          rcases ends_bind.1 hrest with ⟨others, t', hothers, hlast⟩ | ⟨fault, hothers, rfl⟩
          · obtain ⟨rfl, rfl⟩ := ends_pure.1 hlast
            rcases trace_of_ends_mapM hstep.2 hothers with ⟨answers, heq, htrace⟩ | hstopped
            · obtain rfl := Except.ok.inj heq
              exact Or.inl ⟨_, rfl, .cons hanswer htrace⟩
            · obtain ⟨_, _, _, _, _, _, -, hr, -⟩ := hstopped
              cases hr
          · rcases trace_of_ends_mapM hstep.2 hothers with ⟨answers, heq, -⟩ | hstopped
            · cases heq
            · obtain ⟨before, b', behind, answers, fault', t', rfl, hr, htrace, hstop⟩ := hstopped
              obtain rfl := Except.error.inj hr
              exact Or.inr ⟨b :: before, b', behind, a :: answers, fault, t', rfl, rfl,
                .cons hanswer htrace, hstop⟩
        · cases hfault
      · obtain ⟨a', ha', -⟩ | ⟨fault', hfault, hstop⟩ := hstep.1 _ _ _ hb
        · cases ha'
        · obtain rfl := Except.error.inj hfault
          exact Or.inr ⟨[], b, rest, [], fault, w, rfl, rfl, .nil w, hstop⟩

/-- **The course of a batch follows from what one step does.** -/
theorem Course.of_ends {Search : World → Except Fault σ → World → Prop} {items : σ → List β}
    {Answers : σ → World → β → α → World → Prop} {Stops : σ → World → β → Fault → World → Prop}
    {search : Run σ} {step : σ → β → Run α} {w w' : World} {r : Except Fault (σ × List α)}
    (hsearch : ∀ r w', Ends search w r w' → Search w r w')
    (hstep : ∀ found t, Ends search w (.ok found) t → ∀ b ∈ items found, ∀ w r w',
      Ends (step found b) w r w' → (∃ a, r = .ok a ∧ Answers found w b a w') ∨
        ∃ fault, r = .error fault ∧ Stops found w b fault w')
    (h : Ends (batch search items step) w r w') : Course Search items Answers Stops w r w' := by
  rcases ends_bind.1 h with ⟨found, t, hfound, hrest⟩ | ⟨fault, hfailed, rfl⟩
  · have hcourse {r : Except Fault (List α)} {t' : World}
        (hbatch : Ends ((items found).mapM (step found)) t r t') :=
      trace_of_ends_mapM (hstep found t hfound) hbatch
    rcases ends_bind.1 hrest with ⟨answers, t', hanswers, hlast⟩ | ⟨fault, hstopped, rfl⟩
    · obtain ⟨rfl, rfl⟩ := ends_pure.1 hlast
      rcases hcourse hanswers with ⟨_, heq, htrace⟩ | ⟨_, _, _, _, _, _, -, hr, -⟩
      · obtain rfl := Except.ok.inj heq
        exact .tried (hsearch _ _ hfound) htrace
      · cases hr
    · rcases hcourse hstopped with ⟨_, heq, -⟩ | hstopped
      · cases heq
      · obtain ⟨before, b, behind, answers, _, t', hsplit, hr, htrace, hstop⟩ := hstopped
        obtain rfl := Except.error.inj hr
        exact .stopped (hsearch _ _ hfound) hsplit htrace hstop
  · exact .unsearched (hsearch _ _ hfailed)

end WasmCoverage
