/-!
# Text in octets

Files hold octets; the library works on characters.  Three readings of octets are needed.

* `Glyph.decode` loses nothing: an octet that belongs to no character stands for itself, as a
  `stray` glyph, and `Glyph.encode` writes it back.  **`Glyph.encode_decode`: every sequence of
  octets survives the round trip.**
* `decodeText?` reads a text only if all octets belong to characters.
* `decodeLossy` puts U+FFFD in place of each broken character.

A group of octets stands for a character exactly when it is that character's own encoding, so
overlong forms, surrogates and values past U+10FFFF are refused by one test.
-/

namespace WasmCoverage.Text

/-- Contents of files and streams. -/
abbrev Octets := List UInt8

/-- The octets of a text. -/
def octetsOf (text : String) : Octets :=
  text.toList.flatMap String.utf8EncodeChar

/-- The code point that a group of octets would stand for, by the length its first octet
announces; whether it is the character's encoding is tested by `firstChar?`. -/
def candidate? : Octets → Option Nat
  | [] => none
  | a :: rest =>
    let a := a.toNat
    if a < 0x80 then some a
    else match rest with
      | [] => none
      | b :: rest =>
        let b := b.toNat % 0x40
        if a < 0xE0 then some (a % 0x20 * 0x40 + b)
        else match rest with
          | [] => none
          | c :: rest =>
            let c := c.toNat % 0x40
            if a < 0xF0 then some ((a % 0x10 * 0x40 + b) * 0x40 + c)
            else match rest with
              | [] => none
              | d :: _ => some (((a % 8 * 0x40 + b) * 0x40 + c) * 0x40 + d.toNat % 0x40)

/-- The character whose encoding the octets begin with. -/
def firstChar? (octets : Octets) : Option Char :=
  match candidate? octets with
  | none => none
  | some n =>
    let c := Char.ofNat n
    if String.utf8EncodeChar c <+: octets then some c else none

theorem prefix_of_firstChar? {octets : Octets} {c : Char} (h : firstChar? octets = some c) :
    String.utf8EncodeChar c <+: octets := by
  simp only [firstChar?] at h
  split at h
  · simp at h
  · split at h
    · next hp => simp only [Option.some.injEq] at h; subst h; exact hp
    · simp at h

theorem utf8EncodeChar_ne_nil (c : Char) : String.utf8EncodeChar c ≠ [] := by
  intro h
  have := congrArg List.length h
  simp only [String.length_utf8EncodeChar, List.length_nil] at this
  have := c.utf8Size_pos
  omega

/-! ## Reading without loss -/

/-- A character, or an octet that belongs to none. -/
inductive Glyph where
  | char (c : Char)
  | stray (octet : UInt8)
  deriving DecidableEq, Repr

namespace Glyph

/-- The octets of a glyph. -/
def octets : Glyph → Octets
  | char c => String.utf8EncodeChar c
  | stray octet => [octet]

/-- The octets of a text of glyphs. -/
def encode (glyphs : List Glyph) : Octets :=
  glyphs.flatMap octets

/-- The text of some octets; an octet that belongs to no character stands for itself. -/
def decode (octets : Octets) : List Glyph :=
  match octets with
  | [] => []
  | octet :: rest =>
    match firstChar? (octet :: rest) with
    | some c => char c :: decode ((octet :: rest).drop (String.utf8EncodeChar c).length)
    | none => stray octet :: decode rest
  termination_by octets.length
  decreasing_by
  · have := List.length_pos_iff.2 (utf8EncodeChar_ne_nil c)
    simp only [List.length_drop, List.length_cons]
    omega
  · simp

/-- **Every sequence of octets survives the round trip.** -/
theorem encode_decode (octets : Octets) : encode (decode octets) = octets := by
  induction octets using decode.induct with
  | case1 => simp [decode, encode]
  | case2 octet rest c h ih =>
    obtain ⟨tail, htail⟩ := prefix_of_firstChar? h
    rw [decode]
    split
    · next c' h' =>
      have : c' = c := by rw [h] at h'; exact (Option.some.inj h').symm
      subst this
      rw [encode, List.flatMap_cons, ← encode, ih, ← htail]
      simp [Glyph.octets]
    · next h' => rw [h] at h'; simp at h'
  | case3 octet rest h ih =>
    rw [decode]
    split
    · next c' h' => rw [h] at h'; simp at h'
    · rw [encode, List.flatMap_cons, ← encode, ih]
      simp [Glyph.octets]

/-- A text of characters as glyphs. -/
def ofText (text : String) : List Glyph :=
  text.toList.map char

/-- The characters of a text of glyphs; nothing if an octet is astray. -/
def toChars? : List Glyph → Option (List Char)
  | [] => some []
  | char c :: rest => (toChars? rest).map (c :: ·)
  | stray _ :: _ => none

/-- A text of characters is read back from its glyphs. -/
theorem toChars?_map_char (cs : List Char) : toChars? (cs.map char) = some cs := by
  induction cs with
  | nil => rfl
  | cons c rest ih => simp [toChars?, ih]

end Glyph

/-! ## Reading all or nothing -/

/-- The text of some octets, if all of them belong to characters. -/
def decodeText? (octets : Octets) : Option String :=
  (Glyph.toChars? (Glyph.decode octets)).map String.ofList

/-! ## Reading with replacement -/

/-- May `second` follow `first` in the encoding of some character? -/
def mayFollow (first second : UInt8) : Bool :=
  let (a, b) := (first.toNat, second.toNat)
  if a = 0xE0 then 0xA0 ≤ b && b ≤ 0xBF
  else if a = 0xED then 0x80 ≤ b && b ≤ 0x9F
  else if a = 0xF0 then 0x90 ≤ b && b ≤ 0xBF
  else if a = 0xF4 then 0x80 ≤ b && b ≤ 0x8F
  else 0xE1 ≤ a && a ≤ 0xF3 && 0x80 ≤ b && b ≤ 0xBF

/-- How many of the octets after the first belong to the same broken character. -/
def brokenTail : Octets → Nat
  | first :: second :: third :: _ =>
    if mayFollow first second then
      if 0xF0 ≤ first.toNat && 0x80 ≤ third.toNat && third.toNat ≤ 0xBF then 2 else 1
    else 0
  | [first, second] => if mayFollow first second then 1 else 0
  | _ => 0

/-- The text of some octets, with U+FFFD in place of each broken character. -/
def decodeLossyChars (octets : Octets) : List Char :=
  match octets with
  | [] => []
  | octet :: rest =>
    match firstChar? (octet :: rest) with
    | some c => c :: decodeLossyChars ((octet :: rest).drop (String.utf8EncodeChar c).length)
    | none => '\uFFFD' :: decodeLossyChars (rest.drop (brokenTail (octet :: rest)))
  termination_by octets.length
  decreasing_by
  · have := List.length_pos_iff.2 (utf8EncodeChar_ne_nil c)
    simp only [List.length_drop, List.length_cons]
    omega
  · simp only [List.length_drop, List.length_cons]
    omega

/-- The text of some octets, with U+FFFD in place of each broken character. -/
def decodeLossy (octets : Octets) : String :=
  String.ofList (decodeLossyChars octets)

end WasmCoverage.Text
