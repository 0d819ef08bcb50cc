/-! Why a database does not carry out a statement. -/

namespace Relmap.Catalog

inductive Refusal where
  | malformed
  | reservedName (name : String)
  | nameTaken (name : String)
  | noSuchTable (name : String)
  | noSuchColumn (name : String)
  | duplicateColumn (name : String)
  | tooManyColumns (name : String)
  | severalKeys (table : String)
  | autoIncrementKey
  | severalReferences (table : String)
  | keyAdded
  | uniqueAdded
  | nullAdded
  | timeAdded
  | referenceAdded
  | numberTooLong
  | valueCount (table : String)
  | nullValue (column : String)
  | notAnInteger
  | noNumberLeft
  | repeatedValue (table : String)
  /-- No key of the table to which a column refers has the column that is meant. -/
  | noSuchKey (table referred : String)
  | noSuchRow
  deriving DecidableEq

def Refusal.message : Refusal → String
  | .malformed => "syntax error"
  | .reservedName name => "object name reserved for internal use: " ++ name
  | .nameTaken name => name ++ " already exists"
  | .noSuchTable name => "no such table: " ++ name
  | .noSuchColumn name => "no such column: " ++ name
  | .duplicateColumn name => "duplicate column name: " ++ name
  | .tooManyColumns name => "too many columns on " ++ name
  | .severalKeys table => "table \"" ++ table ++ "\" has more than one primary key"
  | .autoIncrementKey => "AUTOINCREMENT is only allowed on an INTEGER PRIMARY KEY"
  | .severalReferences table => "foreign key should reference only one column of table " ++ table
  | .keyAdded => "Cannot add a PRIMARY KEY column"
  | .uniqueAdded => "Cannot add a UNIQUE column"
  | .nullAdded => "Cannot add a NOT NULL column with default value NULL"
  | .timeAdded => "Cannot add a column with non-constant default"
  | .referenceAdded => "Cannot add a REFERENCES column with non-NULL default value"
  | .numberTooLong => "hex literal too big"
  | .valueCount table => "wrong number of values for table " ++ table
  | .nullValue column => "NOT NULL constraint failed: " ++ column
  | .notAnInteger => "datatype mismatch"
  | .noNumberLeft => "database or disk is full"
  | .repeatedValue table => "UNIQUE constraint failed: " ++ table
  | .noSuchKey table referred => "foreign key mismatch - \"" ++ table ++ "\" referencing \"" ++ referred ++ "\""
  | .noSuchRow => "FOREIGN KEY constraint failed"

end Relmap.Catalog
