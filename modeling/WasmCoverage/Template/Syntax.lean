import WasmCoverage.Json.Basic

/-!
# Texts with references

A text among the settings may refer to other settings, or ask a source outside of them.  The
pieces of such a text are plain text, references and questions.  Keys and names may themselves
hold references, and the arguments of a question are values in a notation of their own.
-/

namespace WasmCoverage.Template

mutual

/-- A piece of a text. -/
inductive Piece where
  | text (s : String)
  /-- The setting that a way leads to; dots at its start go up. -/
  | setting (way : List Piece)
  /-- What a source answers. -/
  | question (source : List Piece) (arguments : List Argument)
  deriving Repr

/-- An argument of a question. -/
inductive Argument where
  | plain (value : Json)
  /-- A numeral without a value. -/
  | unreadable
  /-- Pieces without quotes; a single one has the value that it refers to. -/
  | pieces (content : List Piece)
  /-- Pieces in quotes, which always are a text. -/
  | quoted (content : List Piece)
  | list (items : List Argument)
  | record (entries : List (Key × Argument))
  deriving Repr

end

/-- Pieces with plain characters before them. -/
def prepend (plain : List Char) : List Piece → List Piece
  | .text s :: rest => .text (String.ofList plain ++ s) :: rest
  | pieces => if plain.isEmpty then pieces else .text (String.ofList plain) :: pieces

/-- Does `${` occur? -/
def mentions : List Char → Bool
  | '$' :: '\x7b' :: _ => true
  | _ :: rest => mentions rest
  | [] => false

/-- Nothing is mentioned without a dollar sign. -/
theorem mentions_of_not_mem {chars : List Char} (h : '$' ∉ chars) : mentions chars = false := by
  fun_induction mentions chars with
  | case1 => simp at h
  | case2 => simp_all
  | case3 => rfl

/-- The text of a setting that must be given. -/
def missingMark : String := "???"

/-- Must the value still be given? -/
def isMissing (value : Json) : Bool :=
  match value with
  | .text s => s = (missingMark : LooseText)
  | _ => false

end WasmCoverage.Template
