/-!
# Tables in order

A table is a list of entries with distinct keys, in the order in which the keys were first put
there; putting a key again changes its value in place.  Records of JSON, the entries of a disk
and sets of environment variables are tables.

Main statements: `get?_insert_self`, `get?_insert_of_ne` and `keys_insert` say what putting an
entry does to the values and to the order.
-/

namespace WasmCoverage.Table

variable {κ α : Type} [DecidableEq κ]

/-- The value under a key. -/
def get? (key : κ) : List (κ × α) → Option α
  | [] => none
  | (k, v) :: rest => if k = key then some v else get? key rest

/-- The entries with a value put under a key: in place if the key is there, else at the end. -/
def insert (key : κ) (value : α) : List (κ × α) → List (κ × α)
  | [] => [(key, value)]
  | (k, v) :: rest => if k = key then (k, value) :: rest else (k, v) :: insert key value rest

/-- The entries without a key. -/
def erase (key : κ) (entries : List (κ × α)) : List (κ × α) :=
  entries.filter fun entry => entry.1 ≠ key

/-- The keys in order. -/
def keys : List (κ × α) → List κ
  | [] => []
  | (k, _) :: rest => k :: keys rest

/-- Entries put one after the other. -/
def ofList (entries : List (κ × α)) : List (κ × α) :=
  entries.foldl (fun done entry => insert entry.1 entry.2 done) []

/-- **What was put under a key is found there.** -/
theorem get?_insert_self (key : κ) (value : α) (entries : List (κ × α)) :
    get? key (insert key value entries) = some value := by
  induction entries with
  | nil => simp [insert, get?]
  | cons entry rest ih =>
    obtain ⟨k, v⟩ := entry
    by_cases h : k = key <;> simp [insert, get?, h, ih]

/-- **Other keys keep their values.** -/
theorem get?_insert_of_ne {key other : κ} (value : α) (entries : List (κ × α))
    (h : other ≠ key) : get? other (insert key value entries) = get? other entries := by
  induction entries with
  | nil => simp [insert, get?, Ne.symm h]
  | cons entry rest ih =>
    obtain ⟨k, v⟩ := entry
    by_cases hk : k = key
    · subst hk
      simp [insert, get?, Ne.symm h]
    · by_cases ho : k = other
      · subst ho
        simp [insert, get?, hk]
      · simp [insert, get?, hk, ho, ih]

/-- **A key that is there already is not added again.** -/
theorem keys_insert (key : κ) (value : α) (entries : List (κ × α)) :
    keys (insert key value entries) =
      if key ∈ keys entries then keys entries else keys entries ++ [key] := by
  induction entries with
  | nil => simp [insert, keys]
  | cons entry rest ih =>
    obtain ⟨k, v⟩ := entry
    by_cases h : k = key
    · simp [insert, keys, h]
    · by_cases hm : key ∈ keys rest <;> simp [insert, keys, h, ih, hm, Ne.symm h]

end WasmCoverage.Table
