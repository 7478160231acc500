/-!
# Tables

The target of a statement, known by its name alone.  The name goes into the
statement as it stands.
-/

namespace SqlStatement

structure Table where
  name : String
  deriving DecidableEq

end SqlStatement
