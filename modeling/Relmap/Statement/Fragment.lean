import Relmap.Value

/-! The text of a statement is put together from three kinds of pieces: fixed words of the language,
quoted names, and slots. A value never becomes text; it waits in its slot for the argument list. -/

namespace Relmap

inductive Keyword where
  | select
  | selectCount
  | comma
  | fromTable
  | whereRows
  | orderBy
  | ascending
  | descending
  | limit
  | offset
  | equal
  | unequal
  | greater
  | greaterEqual
  | less
  | lessEqual
  | like
  | inList
  | between
  | isNull
  | isNotNull
  | and
  | or
  | not
  | opening
  | listComma
  | closing
  deriving DecidableEq

def Keyword.text : Keyword → String
  | .select => "SELECT "
  | .selectCount => "SELECT COUNT(*)"
  | .comma => ","
  | .fromTable => " FROM "
  | .whereRows => " WHERE "
  | .orderBy => " ORDER BY "
  | .ascending => " ASC"
  | .descending => " DESC"
  | .limit => " LIMIT "
  | .offset => " OFFSET "
  | .equal => " = "
  | .unequal => " <> "
  | .greater => " > "
  | .greaterEqual => " >= "
  | .less => " < "
  | .lessEqual => " <= "
  | .like => " LIKE "
  | .inList => " IN "
  | .between => " BETWEEN "
  | .isNull => " IS NULL"
  | .isNotNull => " IS NOT NULL"
  | .and => " AND "
  | .or => " OR "
  | .not => "NOT "
  | .opening => "("
  | .listComma => ", "
  | .closing => ")"

/-- A name between double quotes, with each double quote inside written twice. -/
def quoteName (name : String) : String :=
  String.ofList ('"' :: name.toList.flatMap (fun c => if c == '"' then ['"', '"'] else [c]) ++ ['"'])

inductive Piece where
  | keyword (word : Keyword)
  | name (identifier : String)
  | slot (value : Value)

/-- A slot shows as a question mark whatever value waits in it. -/
def Piece.text : Piece → String
  | .keyword word => word.text
  | .name identifier => quoteName identifier
  | .slot _ => "?"

def Piece.argument? : Piece → Option Value
  | .slot value => some value
  | _ => none

abbrev Fragment := List Piece

/-- A text with question marks, and one argument for each of them in the same order. -/
structure Statement where
  sql : String
  arguments : List Value
  deriving DecidableEq

namespace Fragment

def text (fragment : Fragment) : String := String.join (fragment.map Piece.text)

def arguments (fragment : Fragment) : List Value := fragment.filterMap Piece.argument?

def statement (fragment : Fragment) : Statement := ⟨fragment.text, fragment.arguments⟩

/-- Several fragments in order with a keyword between neighbours. -/
def separated (separator : Keyword) : List Fragment → Fragment
  | [] => []
  | [only] => only
  | first :: rest => first ++ .keyword separator :: separated separator rest

def bracketed (fragment : Fragment) : Fragment := .keyword .opening :: fragment ++ [.keyword .closing]

end Fragment

end Relmap
