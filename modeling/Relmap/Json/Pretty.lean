import Relmap.Json
import Relmap.Text.Literal

/-! JSON laid out for readers: one item or member a line, two spaces further in than what holds it.
-/

namespace Relmap.Json

def escapeLetter : Char → Option Char
  | '"' => some '"'
  | '\\' => some '\\'
  | '\x08' => some 'b'
  | '\x0c' => some 'f'
  | '\n' => some 'n'
  | '\r' => some 'r'
  | '\t' => some 't'
  | _ => none

/-- Other controls are written by their code, and all else as it is. -/
def escapeChar (c : Char) : List Char :=
  match escapeLetter c with
  | some letter => ['\\', letter]
  | none => if c.toNat < 0x20 then ['\\', 'u'] ++ (Text.hexadecimal c.toNat).leftpad 4 '0' else [c]

def quote (text : String) : String := String.ofList ('"' :: text.toList.flatMap escapeChar ++ ['"'])

def layOut (opening closing indent : String) (entries : List String) : String :=
  if entries.isEmpty then opening ++ closing
  else
    let inner := "\n" ++ indent ++ "  "
    opening ++ inner ++ ("," ++ inner).intercalate entries ++ "\n" ++ indent ++ closing

mutual

/-- A value whose first line is already indented. -/
def prettyAt (indent : String) : Json → String
  | .null | .void => "null"
  | .bool flag => if flag then "true" else "false"
  | .number digits => digits
  | .text content => quote content
  | .array items => layOut "[" "]" indent (prettyItems (indent ++ "  ") items)
  | .object members => layOut "\x7b" "\x7d" indent (prettyMembers (indent ++ "  ") members)

def prettyItems (indent : String) : List Json → List String
  | [] => []
  | item :: rest => prettyAt indent item :: prettyItems indent rest

def prettyMembers (indent : String) : List (String × Json) → List String
  | [] => []
  | (name, value) :: rest => (quote name ++ ": " ++ prettyAt indent value) :: prettyMembers indent rest

end

def pretty (value : Json) : String := prettyAt "" value

end Relmap.Json
