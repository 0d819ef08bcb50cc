import Relmap.Decimal.Layout
import Relmap.Text.Literal

/-! Values that a statement carries as arguments. They never enter the text of a statement, only the
logs, where a text is quoted so that no value can pass for another. -/

namespace Relmap

abbrev Bytes := List UInt8

inductive Value where
  | null
  | bool (flag : Bool)
  | int (number : Int64)
  | float (number : Binary64)
  | text (content : String)
  | blob (bytes : Bytes)
  deriving DecidableEq, Inhabited

namespace Value

def isNull : Value → Bool
  | .null => true
  | _ => false

/-- An apostrophe inside the text is written twice. -/
def quoteText (text : String) : String :=
  String.ofList ('\'' :: text.toList.flatMap (fun c => if c == '\'' then ['\'', '\''] else [c]) ++ ['\''])

/-- The form for logs. Of a blob only the length is shown. -/
def render : Value → String
  | .null => "NULL"
  | .bool flag => if flag then "true" else "false"
  | .int number => toString number.toInt
  | .float number => number.plain
  | .text content => quoteText content
  | .blob bytes => "[bytes " ++ toString bytes.length ++ "]"

def renderList (values : List Value) : String :=
  "[" ++ ", ".intercalate (values.map render) ++ "]"

end Value

def inspectBytes (bytes : Bytes) : String :=
  "[" ++ ", ".intercalate (bytes.map fun byte => toString byte.toNat) ++ "]"

/-- The diagnostic form names the kind of the value. -/
def Value.inspect : Value → String
  | .null => "Null"
  | .bool flag => if flag then "Bool(true)" else "Bool(false)"
  | .int number => "Int(" ++ toString number.toInt ++ ")"
  | .float number => "Float(" ++ number.marked ++ ")"
  | .text content => "Text(" ++ Text.literal content ++ ")"
  | .blob bytes => "Blob(" ++ inspectBytes bytes ++ ")"

/-- Types whose members can be arguments of a statement. -/
class ToValue (α : Type) where
  toValue : α → Value

export ToValue (toValue)

instance : ToValue Value := ⟨id⟩
instance : ToValue Bool := ⟨.bool⟩
instance : ToValue Int64 := ⟨.int⟩
instance : ToValue Int32 := ⟨fun n => .int n.toInt64⟩
instance : ToValue Int16 := ⟨fun n => .int n.toInt64⟩
instance : ToValue Int8 := ⟨fun n => .int n.toInt64⟩
instance : ToValue UInt32 := ⟨fun n => .int (Int64.ofInt n.toNat)⟩
instance : ToValue UInt16 := ⟨fun n => .int (Int64.ofInt n.toNat)⟩
instance : ToValue UInt8 := ⟨fun n => .int (Int64.ofInt n.toNat)⟩

/-- A number past the largest signed word keeps its digits as a text. -/
instance : ToValue UInt64 :=
  ⟨fun n => if n.toNat < 0x8000000000000000 then .int (Int64.ofInt n.toNat) else .text (toString n.toNat)⟩

instance : ToValue Binary64 := ⟨.float⟩
instance : ToValue Char := ⟨fun c => .text (String.singleton c)⟩
instance : ToValue String := ⟨.text⟩
instance : ToValue Bytes := ⟨.blob⟩

/-- Nothing is the null value. -/
instance {α : Type} [ToValue α] : ToValue (Option α) := ⟨fun x => x.elim .null toValue⟩

end Relmap
