import WasmCoverage.Json.Key
import WasmCoverage.Payload.Reading

/-!
# Payloads written as pairs

A payload as a whole may be written as a list of pairs of a key and a value; of two pairs with one
key the later counts.  A text of two characters is a pair too, and so is a record of two entries.
-/

namespace WasmCoverage.Payload

/-- Why a payload has no entries. -/
inductive PairsFault where
  /-- It is no list, or an item of it is none, or a list or a record stands as a key. -/
  | wrongType
  /-- An item of it has not two parts. -/
  | length (index count : Nat)
  deriving DecidableEq, Repr

/-- The wording of a fault; there is none for a wrong type. -/
def PairsFault.message : PairsFault → String
  | wrongType => ""
  | length index count =>
    "dictionary update sequence element #" ++ toString index ++ " has length " ++
      toString count ++ "; 2 is required"

/-- The key that a value can be. -/
def keyOf? : Json → Option Key
  | .text s => some (.text s)
  | .integer n => some (.integer n)
  | .bool b => some (.bool b)
  | .real x => some (.real x)
  | .null => some .null
  | .list _ | .record _ => none

/-- The entries of items that are pairs, put after others; `index` is the number of the first. -/
def ofItems (entries : List (Key × Json)) (index : Nat) :
    List Json → Except PairsFault (List (Key × Json))
  | [] => .ok entries
  | item :: rest =>
    match itemsOf? item with
    | none => .error .wrongType
    | some [first, second] =>
      match keyOf? first with
      | some key => ofItems (key.insert second entries) (index + 1) rest
      | none => .error .wrongType
    | some parts => .error (.length index parts.length)

/-- A payload as a record. -/
def ofPairs (payload : Json) : Except PairsFault Json :=
  match payload with
  | .record entries => .ok (.record entries)
  | payload =>
    match itemsOf? payload with
    | some items => (ofItems [] 0 items).map .record
    | none => .error .wrongType

end WasmCoverage.Payload
