import SecondaryIndex.Codec
import SecondaryIndex.Environment
import SecondaryIndex.Versioned.Transaction

namespace SecondaryIndex.Versioned

/-!
# Working inside a transaction of the store

The environment of an operation on one transaction: reads and writes go to the
transaction and never fail, the codecs of posting lists and of records are
those of the caller, and reports go nowhere.
-/

/-- The services of a transaction over a store, with the codecs of the caller. -/
def Transaction.environment
    {R C : Type}
    (store : Store)
    (postings : Codec PostingList)
    (records : Codec R) :
    Environment Transaction R C where
  get key :=
    fun transaction => (.ok (transaction.get store key), transaction)
  set key value :=
    fun transaction => (.ok (), transaction.set key value)
  delete key :=
    fun transaction => (.ok (), transaction.delete key)
  entriesFrom key :=
    fun transaction => (transaction.entriesWithin store (.atLeast key), transaction)
  encodePostings list :=
    pure (postings.encode list)
  decodePostings bytes :=
    pure (postings.decode bytes)
  encodeRecord record :=
    pure (records.encode record)
  decodeRecord bytes :=
    pure (records.decode bytes)
  report _ :=
    pure ()

end SecondaryIndex.Versioned
