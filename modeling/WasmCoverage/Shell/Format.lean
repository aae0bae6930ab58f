import WasmCoverage.Shell.Number
import WasmCoverage.Text.Utf8

/-!
# Output of the shell

What `echo` and `printf` write.  Both know escapes that begin with a backslash; an escape by an
octal number is one octet, whatever character that belongs to.  A format of `printf` is gone
through again as long as there are arguments left, and a conversion without an argument takes the
empty text or zero.

Main statement: `echo_plain`, words without backslashes are written as they are.
-/

namespace WasmCoverage.Shell

open WasmCoverage.Text

/-! ## Escapes -/

/-- The octet of an escape by a letter. -/
def letterEscape? : Char → Option UInt8
  | '\\' => some 92
  | 'a' => some 7
  | 'b' => some 8
  | 'e' => some 27
  | 'f' => some 12
  | 'n' => some 10
  | 'r' => some 13
  | 't' => some 9
  | 'v' => some 11
  | _ => none

/-- Is the character an octal digit? -/
def isOctal (c : Char) : Bool :=
  '0' ≤ c && c ≤ '7'

/-- The octet that octal digits stand for. -/
def octalOctet (digits : List Char) : UInt8 :=
  UInt8.ofNat (digits.foldl (fun n c => 8 * n + (c.toNat - 48)) 0)

/-- The octal digits at the start, at most so many. -/
def octalDigits (atMost : Nat) (chars : List Char) : List Char :=
  (chars.take atMost).takeWhile isOctal

/-- What an escape after its backslash is written as, and what follows it.  In texts, other than
in formats, an octal number begins with an additional zero. -/
def escape (inFormat : Bool) (chars : List Char) : Octets × List Char :=
  match chars with
  | [] => ([92], [])
  | c :: rest =>
    match letterEscape? c with
    | some octet => ([octet], rest)
    | none =>
      if c = '0' && !inFormat then
        let digits := octalDigits 3 rest
        ([octalOctet digits], rest.drop digits.length)
      else if isOctal c then
        let digits := octalDigits 3 chars
        ([octalOctet digits], chars.drop digits.length)
      else ([92], chars)

/-- A text with its escapes resolved, and whether `\c` has ended all output. -/
def resolveEscapes : Nat → List Char → Octets × Bool
  | 0, _ => ([], false)
  | _ + 1, [] => ([], false)
  | _ + 1, '\\' :: 'c' :: _ => ([], true)
  | fuel + 1, '\\' :: rest =>
    let (octets, rest) := escape false rest
    let (more, ended) := resolveEscapes fuel rest
    (octets ++ more, ended)
  | fuel + 1, c :: rest =>
    let (more, ended) := resolveEscapes fuel rest
    (String.utf8EncodeChar c ++ more, ended)

/-- What `echo` writes for its words. -/
def echo (words : List String) : Octets :=
  let (line, text) := match words with
    | "-n" :: rest => (false, rest)
    | rest => (true, rest)
  let chars := (String.intercalate " " text).toList
  let (octets, ended) := resolveEscapes (chars.length + 1) chars
  octets ++ (if line && !ended then [10] else [])

theorem resolveEscapes_of_not_mem {chars : List Char} {fuel : Nat} (h : '\\' ∉ chars)
    (hf : chars.length < fuel) :
    resolveEscapes fuel chars = (chars.flatMap String.utf8EncodeChar, false) := by
  induction chars generalizing fuel with
  | nil =>
    cases fuel with
    | zero => simp at hf
    | succ fuel => rfl
  | cons c rest ih =>
    cases fuel with
    | zero => simp at hf
    | succ fuel =>
      simp only [List.mem_cons, not_or] at h
      have := ih h.2 (by simpa using hf)
      rw [resolveEscapes]
      · simp [this]
      · exact fun _ e _ => h.1 e.symm
      · exact fun e => h.1 e.symm

/-- **A word without backslashes is written as it is.** -/
theorem echo_plain {word : String} (hn : word ≠ "-n") (h : '\\' ∉ word.toList) :
    echo [word] = octetsOf word ++ [10] := by
  have hw : String.intercalate " " [word] = word := rfl
  have : resolveEscapes (word.toList.length + 1) word.toList =
      (word.toList.flatMap String.utf8EncodeChar, false) :=
    resolveEscapes_of_not_mem h (by omega)
  unfold echo
  split
  next e =>
    split at e
    · next e' => exact absurd (List.cons.inj e').1 hn
    · cases e
      simp only [hw, this]
      rfl

/-! ## Formats -/

/-- A conversion of a format. -/
structure Conversion where
  flags : List Char := []
  width : Nat := 0
  letter : Char

/-- Is everything moved to the left? -/
def Conversion.left (conversion : Conversion) : Bool :=
  conversion.flags.contains '-'

/-- The conversion after a percent sign, and what follows it. -/
def conversion? (chars : List Char) : Option (Conversion × List Char) :=
  let flags := chars.takeWhile ['-', '0'].contains
  let rest := chars.drop flags.length
  let (width, rest) := (Number.digitsIn? 10 rest).getD (0, rest)
  match rest with
  | letter :: rest => some (⟨flags, width, letter⟩, rest)
  | [] => none

/-- Octets filled up to the width of a conversion. -/
def Conversion.pad (conversion : Conversion) (octets : Octets) : Octets :=
  let missing := conversion.width - octets.length
  if conversion.left then octets ++ List.replicate missing 32
  else List.replicate missing 32 ++ octets

/-- The whole number that an argument stands for, and the complaint about it. -/
def argumentNumber (argument : String) : Int × Option String :=
  match argument.toList with
  | [] => (0, none)
  | chars =>
    match Number.signed? Number.natural? chars with
    | none => (0, some "expected numeric value")
    | some (n, rest) => (n, if rest.isEmpty then none else some "not completely converted")

/-- A number in the notation of a conversion. -/
def Conversion.number (conversion : Conversion) (n : Int) : Octets :=
  let sign := if n < 0 then ['-'] else []
  let digits := Nat.toDigits 10 n.natAbs
  let isFilled := conversion.flags.contains '0' && !conversion.left
  let least := if isFilled then conversion.width - sign.length else 0
  conversion.pad (octetsOf (String.ofList
    (sign ++ List.replicate (least - digits.length) '0' ++ digits)))

/-- What a conversion writes for an argument, and the complaint about an argument that is no
number. -/
def Conversion.write (conversion : Conversion) (argument : Option String) :
    Octets × Option String :=
  let text := argument.getD ""
  if conversion.letter = 's' then (conversion.pad (octetsOf text), none)
  else
    let (n, complaint) := argumentNumber text
    (conversion.number n, complaint.map fun words => text ++ ": " ++ words)

/-- What `printf` has come to. -/
structure Printed where
  octets : Octets := []
  /-- The arguments that are left. -/
  arguments : List String
  consumed : Bool := false
  /-- The complaints about arguments. -/
  complaints : List String := []
  /-- The complaint about the format, which ends all output. -/
  malformed : Option String := none

/-- One pass through a format. -/
def printPass : Nat → List Char → Printed → Printed
  | 0, _, done => done
  | _ + 1, [], done => done
  | fuel + 1, '\\' :: rest, done =>
    let (octets, rest) := escape true rest
    printPass fuel rest { done with octets := done.octets ++ octets }
  | fuel + 1, '%' :: '%' :: rest, done =>
    printPass fuel rest { done with octets := done.octets ++ [37] }
  | fuel + 1, '%' :: rest, done =>
    match conversion? rest with
    | none => { done with malformed := some "missing format character" }
    | some (conversion, after) =>
      if ['s', 'd', 'i'].contains conversion.letter then
        let (octets, complaint) := conversion.write done.arguments.head?
        printPass fuel after { done with
          octets := done.octets ++ octets
          arguments := done.arguments.drop 1
          consumed := true
          complaints := done.complaints ++ complaint.toList }
      else
        let directive := String.ofList ('%' :: rest.take (rest.length - after.length))
        { done with malformed := some (directive ++ ": invalid directive") }
  | fuel + 1, c :: rest, done =>
    printPass fuel rest { done with octets := done.octets ++ String.utf8EncodeChar c }

/-- Passes through a format as long as arguments are consumed and left. -/
def printPasses (format : List Char) : Nat → Printed → Printed
  | 0, done => done
  | fuel + 1, done =>
    let next := printPass (format.length + 1) format { done with consumed := false }
    if next.malformed.isSome || !next.consumed || next.arguments.isEmpty then next
    else printPasses format fuel next

/-- What `printf` writes. -/
def printFormat (format : String) (arguments : List String) : Printed :=
  printPasses format.toList (arguments.length + 1) { arguments }

end WasmCoverage.Shell
