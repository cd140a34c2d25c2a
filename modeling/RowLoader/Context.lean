import RowLoader.Calendar.Timestamp

/-!
Who runs an import, and when: the client, organization and user, and the time that every row of one
run is stamped with.
-/

namespace RowLoader

open RowLoader.Calendar

structure Context where
  client : Int
  org : Int
  user : Int
  now : Timestamp
deriving Repr, DecidableEq

namespace Context

def standard (now : Timestamp) : Context :=
  { client := 0, org := 0, user := 100, now }

/-- The standard context with what a caller names in place of the defaults. -/
def naming (now : Timestamp) (client org user : Option Int) : Context :=
  { client := client.getD 0, org := org.getD 0, user := user.getD 100, now }

end Context

end RowLoader
