import SecondaryIndex.ResultStream
import SecondaryIndex.Scan

namespace SecondaryIndex

/-!
# Answering a query

To open a query is to choose its access path and to make ready a scan along
that path; nothing is scanned before the first record is asked for.
-/

/-- An open query: the scan that was chosen for it and the stream of its records. -/
structure QueryStream (R C : Type) where
  scan : Scan R C
  stream : ResultStream Progress

namespace QueryStream

variable {σ R C : Type}

/-- Hand out the next record. -/
def next
    (environment : Environment σ R C)
    (query : QueryStream R C) :
    StateM σ (Option Entry × QueryStream R C) := do
  let (entry, stream) ← query.stream.next environment (query.scan.pull environment)
  return (entry, { query with stream })

/-- Hand out all records that are left. -/
def drain
    (environment : Environment σ R C)
    (query : QueryStream R C) :
    StateM σ (List Entry × QueryStream R C) := do
  let (entries, stream) ← query.stream.drain environment (query.scan.producer environment)
  return (entries, { query with stream })

end QueryStream

namespace Environment

variable {σ R C : Type}

/-- Open a query. -/
def openQuery
    (environment : Environment σ R C)
    (layout : KeyLayout)
    (schema : Schema R C)
    (query : Query C) :
    Action σ (QueryStream R C) := do
  let path ← environment.selectPath layout schema query
  let scan ← Action.ofExcept (Scan.along path layout schema query)
  return ⟨scan, .start .start⟩

end Environment

end SecondaryIndex
