import Relmap.Driver
import Relmap.Files

/-! Everything that can go wrong between the files of a schema and the code that is made for it. -/

namespace Relmap

inductive SchemaError where
  | unusable (path : String) (fault : FileFault)
  | directoryNotFound (path : String)
  | snapshotNotFound (path : String)
  | database (error : DriverError)
  | malformedSettings
  | unknownHint (key hint : String)
  deriving DecidableEq

def SchemaError.message : SchemaError → String
  | .unusable path fault => "IO error on '" ++ path ++ "': " ++ fault.message
  | .directoryNotFound path => "Schema directory not found: " ++ path
  | .snapshotNotFound path => "Schema snapshot not found: " ++ path
  | .database error => "Database error: " ++ error.message
  | .malformedSettings => "Invalid generator config"
  | .unknownHint key hint => "Invalid type hint '" ++ hint ++ "' for '" ++ key ++ "'"

end Relmap
