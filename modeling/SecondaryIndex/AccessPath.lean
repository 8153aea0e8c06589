import SecondaryIndex.Text.Quoted

namespace SecondaryIndex

/-!
# Access paths

An access path says how the candidates of a query are found: in the partition
of the record type, with or without judging the records, or in the entries of
one index.
-/

/-- How candidate keys are produced. -/
inductive AccessPath where
  | primaryKeyScan
  | fullScan
  | indexedLookup (index : String)
  deriving Repr, DecidableEq

namespace AccessPath

/-- The description of an access path. -/
def describe :
    AccessPath → String
  | .primaryKeyScan =>
      "PrimaryKeyScan"
  | .fullScan =>
      "FullScan"
  | .indexedLookup index =>
      "IndexedLookup \x7b index: " ++ Text.quote index ++ " \x7d"

end AccessPath

end SecondaryIndex
