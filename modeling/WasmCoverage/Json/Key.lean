import WasmCoverage.Json.Basic
import WasmCoverage.Number.Size

/-!
# Keys that name the same entry

Numbers and truth values name the same entry if they have the same size; any other two keys do
only if they are equal.

Main statement: `same_self`, a key names its own entry.
-/

namespace WasmCoverage.Key

/-- The size of a key that is a number; truth values are the numbers zero and one. -/
def size? : Key → Option Size
  | bool b => some (.ofInt (if b then 1 else 0))
  | integer n => some (.ofInt n)
  | real x => some (.ofDouble x)
  | _ => none

/-- Do two keys name the same entry? -/
def same (k l : Key) : Bool :=
  k = l || match k.size?, l.size? with
    | some m, some n => m.same n
    | _, _ => false

/-- **A key names its own entry.** -/
theorem same_self (k : Key) : k.same k = true := by
  simp [same]

variable {α : Type}

/-- Entries with a value put under a key: in place if the key is there, else at the end. -/
def insert (key : Key) (value : α) : List (Key × α) → List (Key × α)
  | [] => [(key, value)]
  | (k, old) :: rest =>
    if k.same key then (k, value) :: rest else (k, old) :: insert key value rest

/-- The value under a key. -/
def find? (key : Key) (entries : List (Key × α)) : Option α :=
  (entries.find? fun entry => entry.1.same key).map (·.2)

end WasmCoverage.Key
