import SecondaryIndex.Environment
import SecondaryIndex.KeyLayout
import SecondaryIndex.Query

namespace SecondaryIndex

/-!
# Choosing an access path

The path is chosen once, before any candidate is produced.  A designated index
answers the query itself unless it has no entry although its type has records,
or unless a criterion on it needs the whole record; then the whole partition of
the type is handed to the caller.
-/

namespace Environment

variable {σ R C : Type}

/-- Whether an index has entries, or has none because its type has no records. -/
def indexAnswers
    (environment : Environment σ R C)
    (layout : KeyLayout)
    (typeName index : String) :
    Action σ Bool := do
  let records ← Action.ofExcept (layout.recordLead typeName)
  let fromRecords ← environment.entriesFrom records
  if beginsUnder records fromRecords then
    let entries ← Action.ofExcept (layout.indexLead typeName index)
    let fromEntries ← environment.entriesFrom entries
    return beginsUnder entries fromEntries
  else
    return true

/-- The path for a query through a declared index. -/
def pathThrough
    (environment : Environment σ R C)
    (layout : KeyLayout)
    (schema : Schema R C)
    (query : Query C)
    (index : String) :
    Action σ AccessPath := do
  if ← environment.indexAnswers layout schema.typeName index then
    if ← environment.needsRecord schema query.targetCriteria then
      return .fullScan
    else
      return .indexedLookup index
  else
    return .fullScan

/-- The path for a query; a designated index has to be declared. -/
def selectPath
    (environment : Environment σ R C)
    (layout : KeyLayout)
    (schema : Schema R C)
    (query : Query C) :
    Action σ AccessPath := do
  let path ←
    match query.target with
    | .primaryKey =>
        pure AccessPath.primaryKeyScan
    | .index index =>
        if (schema.index? index).isNone then
          throw (.unknownIndex schema.typeName index)
        else
          environment.pathThrough layout schema query index
  environment.log (.pathSelected schema.typeName path)
  return path

end Environment

end SecondaryIndex
