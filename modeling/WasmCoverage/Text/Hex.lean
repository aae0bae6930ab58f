/-!
# Hexadecimal text

Numbers written in base sixteen with a fixed number of digits, and their reading.  Escapes in
quoted text and in JSON, and the names of raw profile samples, are made of these.

Main statement: `length_hexDigits`, a number is written with exactly as many digits as asked for.
-/

namespace WasmCoverage.Text

/-- The digit of a value below sixteen, in lower case. -/
def hexDigit (n : Nat) : Char :=
  if n < 10 then Char.ofNat (48 + n) else Char.ofNat (87 + n)

/-- The value of a hexadecimal digit of either case. -/
def hexValue? (c : Char) : Option Nat :=
  if '0' ≤ c ∧ c ≤ '9' then some (c.toNat - 48)
  else if 'a' ≤ c ∧ c ≤ 'f' then some (c.toNat - 87)
  else if 'A' ≤ c ∧ c ≤ 'F' then some (c.toNat - 55)
  else none

/-- The last `width` hexadecimal digits of a number. -/
def hexDigits : Nat → Nat → List Char
  | 0, _ => []
  | width + 1, n => hexDigits width (n / 16) ++ [hexDigit (n % 16)]

/-- **A number is written with exactly `width` digits.** -/
theorem length_hexDigits (width n : Nat) : (hexDigits width n).length = width := by
  induction width generalizing n with
  | zero => rfl
  | succ width ih => simp [hexDigits, ih]

/-- The value of a run of hexadecimal digits; nothing if one of them is not a digit. -/
def hexNumber? (digits : List Char) : Option Nat :=
  digits.foldl (fun total c => do return 16 * (← total) + (← hexValue? c)) (some 0)

/-! ## Octets -/

/-- The octets written as pairs of hexadecimal digits; nothing if a digit is bad or missing. -/
def octets? : List Char → Option (List UInt8)
  | [] => some []
  | high :: low :: rest => do
    return (16 * (← hexValue? high) + (← hexValue? low)).toUInt8 :: (← octets? rest)
  | [_] => none

/-- The text of octets as pairs of hexadecimal digits. -/
def ofOctets (octets : List UInt8) : String :=
  String.ofList (octets.flatMap fun octet => hexDigits 2 octet.toNat)

end WasmCoverage.Text
