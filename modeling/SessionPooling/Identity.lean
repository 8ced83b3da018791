import SessionPooling.Text.Record

/-! Names that the database service gives to sessions and transactions. The library
compares, orders and prints them and never looks inside. -/
namespace SessionPooling

structure SessionId where
  text : String
deriving DecidableEq

structure TransactionId where
  text : String
deriving DecidableEq

namespace SessionId

/-- The last segment of a path such as `projects/p/sessions/abc`. -/
def ofResourceName (path : String) : SessionId :=
  ⟨String.ofList (path.toList.reverse.takeWhile (· != '/')).reverse⟩

def diagnostic (id : SessionId) : String := Text.applied "SessionId" (Text.quoted id.text)

/-- Names in the order of their characters' code points, which is also the order of
their bytes in UTF-8. -/
def sort (ids : List SessionId) : List SessionId :=
  ids.mergeSort fun a b => decide (a.text ≤ b.text)

end SessionId

namespace TransactionId

def diagnostic (id : TransactionId) : String := Text.applied "TransactionId" (Text.quoted id.text)

end TransactionId
end SessionPooling
