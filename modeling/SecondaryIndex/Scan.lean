import SecondaryIndex.PathSelection
import SecondaryIndex.Producer

namespace SecondaryIndex

/-!
# Producing candidates in batches

A scan walks the entries under one lead and turns each into candidate keys: a
record gives its own key or nothing, an index entry gives the keys it lists or
nothing.  Candidates are handed out in batches of bounded size.  Keys of an
index entry that do not fit wait for the next batch, and the walk goes on where
it stopped, so the size of a batch does not show in the row of candidates.  A
pull that fails leaves the walk at the entry that failed.
-/

/-- A query with its access path, the lead it walks under and the size of a batch. -/
structure Scan (R C : Type) where
  schema : Schema R C
  query : Query C
  path : AccessPath
  lead : Bytes
  batchSize : Nat

/-- How far a scan has come: whether it has begun and which keys wait. -/
structure Progress where
  positioned : Bool
  pending : List Bytes
  deriving Repr, DecidableEq

/-- What a walk has gathered, which keys were too many, and why it stopped, if in error. -/
structure Gathered where
  keys : List Bytes
  pending : List Bytes
  ahead : List Entry
  error : Option IndexError
  deriving Repr, DecidableEq

namespace Progress

/-- A scan that has not begun. -/
def start :
    Progress :=
  ⟨false, []⟩

end Progress

namespace Scan

variable {σ R C : Type}

/-- The scan of a query along a given path. -/
def along
    (path : AccessPath)
    (layout : KeyLayout)
    (schema : Schema R C)
    (query : Query C) :
    Except IndexError (Scan R C) := do
  let lead ←
    match path with
    | .primaryKeyScan => layout.recordLead schema.typeName
    | .fullScan => layout.recordLead schema.typeName
    | .indexedLookup index => layout.indexLead schema.typeName index
  return ⟨schema, query, path, lead, layout.batchSize⟩

/-- The part of a key behind the lead of the scan. -/
def stripped
    (scan : Scan R C)
    (key : Bytes) :
    Bytes :=
  key.drop scan.lead.length

/-- Whether a record satisfies the criteria of some fields, asked in order. -/
def fieldsMatch
    (environment : Environment σ R C)
    (scan : Scan R C)
    (key : Bytes)
    (record : R) :
    List (String × List C) → Action σ Bool
  | [] =>
      return true
  | (field, criteria) :: rest => do
      if ← environment.judge scan.schema criteria (.recordField field key record) then
        fieldsMatch environment scan key record rest
      else
        return false

/-- Whether a stored record satisfies the query; without criteria it is not even read. -/
def recordMatches
    (environment : Environment σ R C)
    (scan : Scan R C)
    (entry : Entry) :
    Action σ Bool := do
  if scan.query.hasCriteria then
    let record ← Action.ofCodec (environment.decodeRecord entry.2)
    let key := scan.stripped entry.1
    if ← environment.judge scan.schema scan.query.keyCriteria (.recordKey key record) then
      fieldsMatch environment scan key record scan.query.fieldCriteria.entries
    else
      return false
  else
    return true

/-- The candidates that one entry under the lead gives. -/
def candidates
    (environment : Environment σ R C)
    (scan : Scan R C)
    (entry : Entry) :
    Action σ (List Bytes) :=
  match scan.path with
  | .primaryKeyScan => do
      if ← scan.recordMatches environment entry then
        return [entry.1]
      else
        return []
  | .fullScan =>
      return [entry.1]
  | .indexedLookup index => do
      let value := scan.stripped entry.1
      if ← environment.judge scan.schema scan.query.targetCriteria
          (.indexEntry index value) then
        let list ← Action.ofCodec (environment.decodePostings entry.2)
        return list.keys
      else
        return []

/-- Walk on until there is no more room, no more entry under the lead, or an error. -/
def gather
    (environment : Environment σ R C)
    (scan : Scan R C)
    (room : Nat) :
    List Entry → StateM σ Gathered
  | [] =>
      return ⟨[], [], [], none⟩
  | entry :: rest => do
      if room = 0 ∨ entry.1.startsWith scan.lead = false then
        return ⟨[], [], entry :: rest, none⟩
      else
        match ← (scan.candidates environment entry).run with
        | .error error =>
            return ⟨[], [], entry :: rest, some error⟩
        | .ok found =>
            environment.report .advanced
            let later ← gather environment scan (room - found.length) rest
            return {
              keys := found.take room ++ later.keys
              pending := found.drop room ++ later.pending
              ahead := later.ahead
              error := later.error }

/-- What a batch of gathered keys is reported as. -/
def outcome
    (keys : List Bytes)
    (gathered : Gathered) :
    Except IndexError Pull :=
  match gathered.error with
  | some error =>
      .error error
  | none =>
      if (keys ++ gathered.keys).isEmpty then
        .ok .finished
      else
        .ok (.batch (keys ++ gathered.keys))

/-- Hand out the next batch: keys that wait come first, then the walk goes on. -/
def pull
    (environment : Environment σ R C)
    (scan : Scan R C)
    (progress : Progress)
    (ahead : List Entry) :
    StateM σ (Pulled Progress) := do
  let ahead ← if progress.positioned then pure ahead else environment.entriesFrom scan.lead
  let waiting := progress.pending.take scan.batchSize
  let gathered ← scan.gather environment (scan.batchSize - waiting.length) ahead
  return {
    outcome := outcome waiting gathered
    producer := ⟨true, progress.pending.drop scan.batchSize ++ gathered.pending⟩
    ahead := gathered.ahead }

/-- What remains of a scan: the start, the entries ahead and the keys that wait. -/
def remaining
    (progress : Progress)
    (ahead : List Entry) :
    Remaining where
  stages :=
    if progress.positioned then 0 else 1
  entries :=
    ahead.length
  keys :=
    progress.pending.length

/-- A walk that passes no entry gathers nothing. -/
theorem gather_passes
    (environment : Environment σ R C)
    (scan : Scan R C)
    (room : Nat)
    (ahead : List Entry)
    (state : σ) :
    let gathered := (scan.gather environment room ahead state).1
    gathered.ahead.length < ahead.length ∨
      gathered.ahead = ahead ∧ gathered.keys = [] ∧ gathered.pending = [] := by
  induction ahead generalizing room state with
  | nil =>
      exact .inr ⟨rfl, rfl, rfl⟩
  | cons entry rest inductionHypothesis =>
      by_cases stops : room = 0 ∨ entry.1.startsWith scan.lead = false
      · simp only [gather, if_pos stops]
        exact .inr ⟨rfl, rfl, rfl⟩
      · rcases answer : scan.candidates environment entry state with ⟨found, later⟩
        simp only [gather, if_neg stops, ExceptT.run, bind, StateT.bind, answer]
        rcases found with error | found
        · exact .inr ⟨rfl, rfl, rfl⟩
        · left
          have shorter :=
            inductionHypothesis (room - found.length) (environment.report .advanced later).2
          show
            (scan.gather environment (room - found.length) rest
              (environment.report .advanced later).2).1.ahead.length < rest.length + 1
          rcases shorter with shorter | ⟨same, -, -⟩
          · omega
          · rw [same]
            omega

/-- A pull of a scan that has begun walks on from the entries ahead. -/
theorem pull_positioned
    (environment : Environment σ R C)
    (scan : Scan R C)
    (pending : List Bytes)
    (ahead : List Entry)
    (state : σ) :
    let waiting := pending.take scan.batchSize
    let gathered := scan.gather environment (scan.batchSize - waiting.length) ahead state
    scan.pull environment ⟨true, pending⟩ ahead state =
      (⟨outcome waiting gathered.1,
        ⟨true, pending.drop scan.batchSize ++ gathered.1.pending⟩,
        gathered.1.ahead⟩, gathered.2) :=
  rfl

/-- After a pull, a scan has begun. -/
theorem positioned_pull
    (environment : Environment σ R C)
    (scan : Scan R C)
    (progress : Progress)
    (ahead : List Entry)
    (state : σ) :
    (scan.pull environment progress ahead state).1.producer.positioned = true := by
  rcases progress with ⟨positioned, pending⟩
  cases positioned <;> rfl

/-- A scan is a producer that comes to an end. -/
def producer
    (environment : Environment σ R C)
    (scan : Scan R C) :
    FiniteProducer σ Progress where
  pull :=
    scan.pull environment
  remaining :=
    remaining
  advances := by
    intro progress ahead state key keys batch
    have begun := scan.positioned_pull environment progress ahead state
    rcases progress with ⟨positioned, pending⟩
    cases positioned with
    | false =>
        left
        simp [remaining, Remaining.withKeys, begun]
    | true =>
        right
        refine ⟨by simp [remaining, Remaining.withKeys, begun], ?_⟩
        rw [pull_positioned] at batch ⊢
        rcases scan.gather_passes environment
            (scan.batchSize - (pending.take scan.batchSize).length) ahead state with
          shorter | ⟨same, noKeys, noPending⟩
        · exact .inl shorter
        · right
          refine ⟨by simp only [remaining, Remaining.withKeys, same], ?_⟩
          simp only [outcome, noKeys, List.append_nil] at batch
          split at batch
          · cases batch
          · split at batch
            · cases batch
            · have handed : pending.take scan.batchSize = key :: keys := by
                simpa using batch
              have lengths := congrArg List.length handed
              simp only [List.length_take, List.length_cons] at lengths
              simp only [remaining, Remaining.withKeys, noPending, List.append_nil,
                List.length_drop]
              omega

end Scan

end SecondaryIndex
