/-! Whether a text mentions certain words, as types and statements are recognised by what they
mention. -/

namespace Relmap.Text

/-- The words occur somewhere in the text, in one piece. -/
def mentions : List Char → List Char → Bool
  | [], words => words.isEmpty
  | c :: rest, words => words.isPrefixOf (c :: rest) || mentions rest words

theorem mentions_iff {text words : List Char} : mentions text words = true ↔ words <:+: text := by
  induction text with
  | nil => rw [mentions, List.isEmpty_iff, List.infix_nil]
  | cons c rest ih => rw [mentions, Bool.or_eq_true, ih, List.isPrefixOf_iff_prefix, List.infix_cons_iff]

/-- ASCII letters only; all other characters stay. -/
def lower (text : List Char) : List Char := text.map Char.toLower

/-- ASCII letters only; all other characters stay. -/
def upper (text : List Char) : List Char := text.map Char.toUpper

/-- Texts that differ at most in the case of ASCII letters. -/
def sameLetters (first second : String) : Bool := lower first.toList == lower second.toList

end Relmap.Text
