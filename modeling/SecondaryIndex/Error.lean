import SecondaryIndex.Text.Listing
import SecondaryIndex.Text.Quoted

namespace SecondaryIndex

/-!
# What can go wrong in indexing

Maintenance, strategy choice and iteration fail for the reasons listed here.
A store and a codec bring reasons of their own, which the index only passes on.
-/

/-- Why the store refused a read or a write. -/
structure StoreFailure where
  reason : String
  deriving Repr, DecidableEq

/-- Why a value could not be written as bytes or read from them. -/
inductive CodecFailure where
  | encode (reason : String)
  | decode (reason : String)
  deriving Repr, DecidableEq

/-- Why an operation of the index failed. -/
inductive IndexError where
  | codec (failure : CodecFailure)
  | store (failure : StoreFailure)
  | inconsistent (key : Bytes)
  | criteria (reason : String)
  | unknownIndex (typeName index : String)
  | invalidName (name : String)
  | namespaceCollision (records entries : String)
  deriving Repr, DecidableEq

namespace CodecFailure

/-- The text of a codec failure. -/
def message :
    CodecFailure → String
  | .encode reason =>
      s!"encode failed: {reason}"
  | .decode reason =>
      s!"decode failed: {reason}"

end CodecFailure

namespace IndexError

/-- The text of an error. -/
def message :
    IndexError → String
  | .codec failure =>
      "codec error: " ++ failure.message
  | .store failure =>
      "store error: " ++ failure.reason
  | .inconsistent key =>
      "index and record state diverged: key " ++ Text.listBytes key ++ " has no record"
  | .criteria reason =>
      "criteria evaluation failed: " ++ reason
  | .unknownIndex typeName index =>
      s!"type {typeName} declares no index named {index}"
  | .invalidName name =>
      "name " ++ Text.quote name ++ " contains the key delimiter ':'"
  | .namespaceCollision records entries =>
      "record namespace " ++ Text.quote records ++ " collides with index namespace " ++
        Text.quote entries

end IndexError

end SecondaryIndex
