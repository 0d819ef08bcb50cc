import Relmap.Text.Visible

/-! Texts between double quotes, as the generated source and the diagnostic forms write them. A
quote and a backslash are escaped, and so is every character that would not show as itself. -/

namespace Relmap.Text

/-- Lower-case hexadecimal digits without leading zeros. -/
def hexadecimal (code : Nat) : List Char := Nat.toDigits 16 code

def escapeLetter : Char → Option Char
  | '\x00' => some '0'
  | '\t' => some 't'
  | '\r' => some 'r'
  | '\n' => some 'n'
  | '"' => some '"'
  | '\\' => some '\\'
  | _ => none

def escapeChar (c : Char) : List Char :=
  match escapeLetter c with
  | some letter => ['\\', letter]
  | none => if isVisible c then [c] else ['\\', 'u', '{'] ++ hexadecimal c.toNat ++ ['}']

def escape (text : List Char) : List Char := text.flatMap escapeChar

/-- An apostrophe needs no escape between double quotes. -/
def literal (text : String) : String := String.ofList ('"' :: escape text.toList ++ ['"'])

end Relmap.Text
