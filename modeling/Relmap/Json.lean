/-! Values of the JSON format. Settings are read from them, and schemas are shown as them. -/

namespace Relmap

inductive Json where
  | null
  | bool (flag : Bool)
  | number (digits : String)
  | text (content : String)
  | array (items : List Json)
  /-- Members in the order in which they are written. A name may occur more than once. -/
  | object (members : List (String × Json))
  /-- A text that names half of a surrogate pair, or an object with such a name in it. It is well
  formed and may stand where nothing is read, but it has no value. -/
  | void
  deriving Inhabited

namespace Json

def text? : Json → Option String
  | .text content => some content
  | _ => none

def texts? : Json → Option (List String)
  | .array items => items.mapM text?
  | _ => none

def textMembers? : Json → Option (List (String × String))
  | .object members => members.mapM fun (name, value) => value.text?.map (name, ·)
  | _ => none

/-- The one value of a name among members, if there is any; a name that occurs twice has none to
give. -/
def single? (members : List (String × Json)) (name : String) : Option (Option Json) :=
  match members.filter (·.1 == name) with
  | [] => some none
  | [member] => some (some member.2)
  | _ => none

/-- A record with these fields is an object, or an array that gives them in their order. Fields may
be missing; an object may have more members, an array no more items. -/
def record? (fields : List String) : Json → Option (List (Option Json))
  | .object members => fields.mapM (single? members)
  | .array items =>
    if items.length ≤ fields.length then some ((List.range fields.length).map (items[·]?)) else none
  | _ => none

end Json

end Relmap
