import Mathlib.Data.List.Nodup
import Mathlib.Tactic.Lemma
import WasmCoverage.Table

/-!
# Tables with distinct keys

Putting entries keeps the keys of a table distinct (`nodup_keys_insert`), and so does leaving some
out (`nodup_keys_filter`).  **In a table with distinct keys an entry and the value found under its
key are the same thing** (`get?_eq_some_iff`), and a table that is put together entry by entry out
of distinct keys is the list of these entries (`ofList_of_nodup`).
-/

namespace WasmCoverage.Table

variable {κ α : Type}

lemma keys_eq_map (entries : List (κ × α)) : keys entries = entries.map Prod.fst := by
  induction entries with
  | nil => rfl
  | cons entry rest ih => rw [keys, ih, List.map_cons]

lemma mem_keys_of_mem {entries : List (κ × α)} {entry : κ × α} (h : entry ∈ entries) :
    entry.1 ∈ keys entries :=
  keys_eq_map entries ▸ List.mem_map_of_mem h

/-- **Leaving entries out keeps the keys distinct.** -/
theorem nodup_keys_filter {entries : List (κ × α)} (h : (keys entries).Nodup)
    (keep : κ × α → Bool) : (keys (entries.filter keep)).Nodup := by
  rw [keys_eq_map] at h ⊢
  exact h.sublist (List.filter_sublist.map _)

variable [DecidableEq κ]

/-- A new key is put at the end. -/
lemma insert_of_notMem {key : κ} (value : α) {entries : List (κ × α)} (h : key ∉ keys entries) :
    insert key value entries = entries ++ [(key, value)] := by
  induction entries with
  | nil => rfl
  | cons entry rest ih =>
    simp only [keys, List.mem_cons, not_or] at h
    simp [insert, Ne.symm h.1, ih h.2]

/-- **Putting an entry keeps the keys distinct.** -/
theorem nodup_keys_insert {entries : List (κ × α)} (h : (keys entries).Nodup) (key : κ)
    (value : α) : (keys (insert key value entries)).Nodup := by
  rw [keys_insert]
  split_ifs with hmem
  · exact h
  · refine List.nodup_append.2 ⟨h, List.nodup_singleton key, fun k hk other hother => ?_⟩
    rw [List.mem_singleton.1 hother]
    exact fun heq => hmem (heq ▸ hk)

/-- **An entry and the value found under its key are the same thing** if keys are distinct. -/
theorem get?_eq_some_iff {entries : List (κ × α)} (h : (keys entries).Nodup) {key : κ}
    {value : α} : get? key entries = some value ↔ (key, value) ∈ entries := by
  induction entries with
  | nil => simp [get?]
  | cons entry rest ih =>
    obtain ⟨k, v⟩ := entry
    obtain ⟨hnew, hrest⟩ := List.nodup_cons.1 h
    by_cases hk : k = key
    · subst hk
      have hnone : (k, value) ∉ rest := fun hmem => hnew (mem_keys_of_mem hmem)
      simp [get?, hnone, eq_comm]
    · simp [get?, hk, Ne.symm hk, ih hrest]

/-- Nothing is found under the keys that are not there, and under no others. -/
lemma get?_eq_none_iff {entries : List (κ × α)} {key : κ} :
    get? key entries = none ↔ key ∉ keys entries := by
  induction entries with
  | nil => simp [get?, keys]
  | cons entry rest ih =>
    obtain ⟨k, v⟩ := entry
    by_cases hk : k = key
    · simp [get?, keys, hk]
    · simp [get?, keys, hk, ih, Ne.symm hk]

/-- **Distinct keys stay in their order.** -/
theorem ofList_of_nodup {entries : List (κ × α)} (h : (keys entries).Nodup) :
    ofList entries = entries := by
  have hfold : ∀ (rest done : List (κ × α)), (keys (done ++ rest)).Nodup →
      rest.foldl (fun done entry => insert entry.1 entry.2 done) done = done ++ rest := by
    intro rest
    induction rest with
    | nil => simp
    | cons entry rest ih =>
      intro done hdone
      have hnew : entry.1 ∉ keys done := by
        intro hmem
        rw [keys_eq_map] at hdone hmem
        rw [List.map_append, List.map_cons] at hdone
        exact (List.nodup_append.1 hdone).2.2 _ hmem _ List.mem_cons_self rfl
      rw [List.foldl_cons, insert_of_notMem _ hnew, ih _ (by simpa using hdone)]
      simp
  simpa [ofList] using hfold entries [] (by simpa using h)

section Forall

variable {p : κ → Prop} {q : α → Prop} {entries : List (κ × α)}

lemma forall_insert {key : κ} {value : α} (hkey : p key) (hvalue : q value)
    (h : ∀ entry ∈ entries, p entry.1 ∧ q entry.2) :
    ∀ entry ∈ insert key value entries, p entry.1 ∧ q entry.2 := by
  induction entries with
  | nil => simpa [insert] using ⟨hkey, hvalue⟩
  | cons first rest ih =>
    obtain ⟨hfirst, hrest⟩ := List.forall_mem_cons.1 h
    rw [insert]
    split
    · exact List.forall_mem_cons.2 ⟨⟨hfirst.1, hvalue⟩, hrest⟩
    · exact List.forall_mem_cons.2 ⟨hfirst, ih hrest⟩

/-- **A table holds no key and no value that was not put there.** -/
theorem forall_ofList (h : ∀ entry ∈ entries, p entry.1 ∧ q entry.2) :
    ∀ entry ∈ ofList entries, p entry.1 ∧ q entry.2 := by
  have hfold : ∀ (rest done : List (κ × α)), (∀ entry ∈ rest, p entry.1 ∧ q entry.2) →
      (∀ entry ∈ done, p entry.1 ∧ q entry.2) →
      ∀ entry ∈ rest.foldl (fun done entry => insert entry.1 entry.2 done) done,
        p entry.1 ∧ q entry.2 := by
    intro rest
    induction rest with
    | nil => exact fun done _ hdone => hdone
    | cons first rest ih =>
      intro done hrest hdone
      obtain ⟨hfirst, hothers⟩ := List.forall_mem_cons.1 hrest
      exact ih _ hothers (forall_insert hfirst.1 hfirst.2 hdone)
  exact hfold entries [] h (by simp)

end Forall

/-- What is found under a key is the value of an entry. -/
lemma exists_mem_of_get? {entries : List (κ × α)} {key : κ} {value : α}
    (h : get? key entries = some value) : ∃ entry ∈ entries, entry.2 = value := by
  induction entries with
  | nil => simp [get?] at h
  | cons entry rest ih =>
    obtain ⟨k, v⟩ := entry
    rw [get?] at h
    split at h
    · exact ⟨_, List.mem_cons_self, Option.some.inj h⟩
    · obtain ⟨entry, hmem, hvalue⟩ := ih h
      exact ⟨entry, List.mem_cons_of_mem _ hmem, hvalue⟩

end WasmCoverage.Table
