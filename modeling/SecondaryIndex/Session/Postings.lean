import SecondaryIndex.Binary.PostingList

namespace SecondaryIndex.Session.Postings

/-!
# A session with one posting list

Each step asks one thing of the current list; adding, removing and decoding
replace it.  A decoding that fails leaves it as it was.
-/

/-- What can be asked of the current list. -/
inductive Command where
  | add (key : Bytes)
  | remove (key : Bytes)
  | contains (key : Bytes)
  | size
  | encode
  | decode (bytes : Bytes)
  deriving Repr, DecidableEq

/-- What the list answers. -/
inductive Answer where
  | truth (value : Bool)
  | size (value : Nat)
  | bytes (value : Bytes)
  | same (value : Bool)
  | failed (error : Binary.ReadError)
  deriving Repr, DecidableEq

/-- The list that takes the place of the current one, if there is one, and the answer. -/
def replaceBy
    (current : PostingList)
    (changed : Option PostingList) :
    Answer × PostingList :=
  (.truth changed.isSome, changed.getD current)

/-- Carry out one command. -/
def answer
    (current : PostingList) :
    Command → Answer × PostingList
  | .add key =>
      replaceBy current (current.add? key)
  | .remove key =>
      replaceBy current (current.remove? key)
  | .contains key =>
      (.truth (current.contains key), current)
  | .size =>
      (.size current.size, current)
  | .encode =>
      (.bytes current.encode, current)
  | .decode bytes =>
      match PostingList.decode bytes with
      | .ok decoded => (.same (decoded = current), decoded)
      | .error error => (.failed error, current)

/-- Carry out commands in order; each answer comes with the list after it. -/
def run
    (current : PostingList) :
    List Command → List (Answer × PostingList)
  | [] =>
      []
  | command :: rest =>
      let answered := answer current command
      answered :: run answered.2 rest

end SecondaryIndex.Session.Postings
