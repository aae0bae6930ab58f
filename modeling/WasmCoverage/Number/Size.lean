import WasmCoverage.Number.Double

/-!
# The size of numbers

Whole numbers and doubles are compared exactly, by counting in units of the smallest double.
Something that is no number is neither before nor the same as anything.

Main statements: `before_trans` and `not_before_self`, numbers are ordered.
-/

namespace WasmCoverage

/-- The size of a number. -/
inductive Size where
  /-- So many times the smallest double. -/
  | finite (units : Int)
  | infinite (negative : Bool)
  | none
  deriving DecidableEq, Repr

namespace Size

/-- The binary places of the smallest double. -/
def places : Nat := 1074

/-- The size of a whole number. -/
def ofInt (n : Int) : Size :=
  finite (n * (Nat.pow 2 places : Nat))

/-- The size of a double. -/
def ofDouble : Double → Size
  | .finite negative significand exponent =>
    let units := significand * Nat.pow 2 (exponent + places).toNat
    finite (if negative then Int.negOfNat units else units)
  | .infinite negative => infinite negative
  | .nan => none

/-- Is one size before another? -/
def before : Size → Size → Bool
  | finite m, finite n => m < n
  | finite _, infinite negative => !negative
  | infinite negative, finite _ => negative
  | infinite negative, infinite other => negative && !other
  | _, _ => false

/-- Are two sizes the same? -/
def same (x y : Size) : Bool :=
  x = y && x ≠ none

/-- **No number is before itself.** -/
theorem not_before_self (x : Size) : x.before x = false := by
  cases x with
  | finite n => simp [before]
  | infinite negative => cases negative <;> rfl
  | none => rfl

/-- **What is before a number is before all that follow it.** -/
theorem before_trans {x y z : Size} (hxy : x.before y = true) (hyz : y.before z = true) :
    x.before z = true := by
  cases x <;> cases y <;> cases z <;> simp_all [before]
  omega

end Size

end WasmCoverage
