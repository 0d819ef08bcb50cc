import Relmap.Text.Literal

/-! What stands between quotes, read back. An escape names its character, so nothing is lost, and a line feed
shows as an escape only. -/

namespace Relmap.Text

/-- Whether what comes next belongs to an escape, and to which part of it. -/
inductive Escape where
  | outside
  | begun
  | numbered
  /-- Between the braces, with the number that the digits give so far. -/
  | braced (code : Option Nat)

def escapedChar? : Char → Option Char
  | '0' => some '\x00'
  | 't' => some '\t'
  | 'r' => some '\r'
  | 'n' => some '\n'
  | '"' => some '"'
  | '\'' => some '\''
  | '\\' => some '\\'
  | _ => none

def hexDigit? (c : Char) : Option Nat :=
  if c.isDigit then some (c.toNat - 48)
  else if 'a' ≤ c ∧ c ≤ 'f' then some (c.toNat - 87)
  else if 'A' ≤ c ∧ c ≤ 'F' then some (c.toNat - 55)
  else none

def scalar? (code : Nat) : Option Char := if code.isValidChar then some (Char.ofNat code) else none

def unescapeFrom : Escape → List Char → Option (List Char)
  | .outside, [] => some []
  | .outside, c :: rest =>
    if c = '\\' then unescapeFrom .begun rest else (unescapeFrom .outside rest).map (c :: ·)
  | .begun, c :: rest =>
    if c = 'u' then unescapeFrom .numbered rest
    else (escapedChar? c).bind fun own => (unescapeFrom .outside rest).map (own :: ·)
  | .numbered, c :: rest => if c = '{' then unescapeFrom (.braced none) rest else none
  | .braced code, c :: rest =>
    if c = '}' then
      (code.bind scalar?).bind fun own => (unescapeFrom .outside rest).map (own :: ·)
    else (hexDigit? c).bind fun digit => unescapeFrom (.braced (some (16 * code.getD 0 + digit))) rest
  | _, [] => none

def unescape (text : List Char) : Option (List Char) := unescapeFrom .outside text

theorem scalar?_toNat (c : Char) : scalar? c.toNat = some c := by
  have valid : c.toNat.isValidChar := c.valid
  rw [scalar?, if_pos valid, Char.ofNat_toNat]

theorem hexDigit?_digitChar : ∀ digit < 16, hexDigit? (Nat.digitChar digit) = some digit ∧ Nat.digitChar digit ≠ '}' := by
  decide

theorem hexadecimal_digits (code : Nat) : ∀ c ∈ hexadecimal code, (hexDigit? c).isSome = true := by
  induction code using Nat.strongRecOn with
  | ind code ih =>
    rw [hexadecimal, Nat.toDigits_eq_if (by decide)]
    split
    next small => simp [hexDigit?_digitChar code small]
    next large =>
      refine List.forall_mem_append.mpr ⟨ih (code / 16) (by omega), ?_⟩
      simp [hexDigit?_digitChar (code % 16) (by omega)]

theorem unescapeFrom_digit {digit : Nat} (small : digit < 16) (code : Option Nat) (rest : List Char) :
    unescapeFrom (.braced code) (Nat.digitChar digit :: rest) =
      unescapeFrom (.braced (some (16 * code.getD 0 + digit))) rest := by
  obtain ⟨value, inside⟩ := hexDigit?_digitChar digit small
  rw [unescapeFrom, if_neg inside, value, Option.bind_some]

private theorem unescapeFrom_hexadecimal (code : Nat) (rest : List Char) :
    unescapeFrom (.braced none) (hexadecimal code ++ rest) = unescapeFrom (.braced (some code)) rest := by
  induction code using Nat.strongRecOn generalizing rest with
  | ind code ih =>
    rw [hexadecimal, Nat.toDigits_eq_if (by decide)]
    split
    next small =>
      rw [List.singleton_append, unescapeFrom_digit small, Option.getD_none, Nat.mul_zero, Nat.zero_add]
    next large =>
      have front := ih (code / 16) (by omega) (Nat.digitChar (code % 16) :: rest)
      rw [hexadecimal] at front
      rw [List.append_assoc, List.singleton_append, front, unescapeFrom_digit (by omega), Option.getD_some, Nat.div_add_mod]

theorem escapedChar?_letter {c letter : Char} (own : escapeLetter c = some letter) :
    escapedChar? letter = some c ∧ letter ≠ 'u' ∧ letter ≠ '\n' := by
  unfold escapeLetter at own
  split at own <;> cases own <;> decide

theorem escapeChar_cases (c : Char) :
    (∃ letter, escapeLetter c = some letter ∧ escapeChar c = ['\\', letter]) ∨
    (c ≠ '\\' ∧ c ≠ '"' ∧ c ≠ '\n' ∧ escapeChar c = [c]) ∨
    escapeChar c = '\\' :: 'u' :: '{' :: (hexadecimal c.toNat ++ ['}']) := by
  unfold escapeChar
  cases own : escapeLetter c with
  | some letter => exact .inl ⟨letter, rfl, rfl⟩
  | none =>
    right
    cases visible : isVisible c with
    | false => exact .inr rfl
    | true =>
      left
      refine ⟨?_, ?_, ?_, rfl⟩ <;> rintro rfl <;> cases own

private theorem unescapeFrom_escapeChar (c : Char) (rest : List Char) :
    unescapeFrom .outside (escapeChar c ++ rest) = (unescapeFrom .outside rest).map (c :: ·) := by
  rcases escapeChar_cases c with ⟨letter, own, written⟩ | ⟨noBackslash, -, -, written⟩ | written
  · obtain ⟨named, noNumber, -⟩ := escapedChar?_letter own
    rw [written]
    simp [unescapeFrom, named, noNumber]
  · rw [written]
    simp [unescapeFrom, noBackslash]
  · rw [written]
    simp [unescapeFrom, unescapeFrom_hexadecimal, scalar?_toNat]

/-- Every text is read back from its escaped form. -/
theorem unescape_escape (text : List Char) : unescape (escape text) = some text := by
  induction text with
  | nil => rfl
  | cons c rest ih =>
    rw [unescape] at ih
    rw [unescape, escape, List.flatMap_cons, unescapeFrom_escapeChar, ← escape, ih]
    rfl

theorem escape_unbroken (text : List Char) : '\n' ∉ escape text := by
  intro broken
  obtain ⟨c, -, inside⟩ := List.mem_flatMap.mp broken
  rcases escapeChar_cases c with ⟨letter, own, written⟩ | ⟨-, -, noFeed, written⟩ | written
  · obtain ⟨-, -, noFeed⟩ := escapedChar?_letter own
    simp [written, noFeed.symm] at inside
  · simp [written, noFeed.symm] at inside
  · have digit : '\n' ∈ hexadecimal c.toNat := by simpa [written] using inside
    have isDigit := hexadecimal_digits c.toNat '\n' digit
    contradiction

end Relmap.Text
