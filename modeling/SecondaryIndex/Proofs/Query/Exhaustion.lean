import SecondaryIndex.Proofs.Query.CandidateRow
import SecondaryIndex.QueryStream

namespace SecondaryIndex

/-!
# What an exhausted query has handed out

A stream hands out the records of its row of candidates, one candidate after
another, and ends at the first that has no record, or where the row ends.  What
it hands out is therefore told from the row and the view alone; neither the
batches nor the moment at which the scan is driven on show in it.
-/

open Versioned

/-- Look candidate keys up in a view one after another, up to the first that has no record. -/
def resolved
    (view : Bytes → Option Bytes) :
    List Bytes → List Entry × Option IndexError
  | [] =>
      ([], none)
  | key :: rest =>
      match view key with
      | none => ([], some (.inconsistent key))
      | some value => ((key, value) :: (resolved view rest).1, (resolved view rest).2)

/-- Candidates that all have records are handed out with their records. -/
theorem resolved_of_present
    {view : Bytes → Option Bytes}
    {entries : List Entry}
    (present : ∀ entry ∈ entries, view entry.1 = some entry.2) :
    resolved view (entries.map Prod.fst) = (entries, none) := by
  induction entries with
  | nil =>
      rfl
  | cons entry rest inductionHypothesis =>
      have restPresent : ∀ other ∈ rest, view other.1 = some other.2 := by
        intro other member
        exact present other (List.mem_cons_of_mem _ member)
      rw [List.map_cons, resolved, present entry List.mem_cons_self,
        inductionHypothesis restPresent]

/-- The entries and the error, if any, with which the row of candidates may be exhausted. -/
structure CandidateRow.Yields
    (view : Bytes → Option Bytes)
    (row : CandidateRow)
    (entries : List Entry)
    (failure : Option IndexError) :
    Prop where
  /-- A row without failure is handed out whole. -/
  whole : row.failure = none → (entries, failure) = resolved view row.keys
  /-- A row with a failure may end earlier, but never goes on behind it. -/
  begins : entries <+: (resolved view row.keys).1
  fails : row.failure.isSome → failure.isSome

namespace CandidateRow.Yields

variable
  {view : Bytes → Option Bytes}
  {row : CandidateRow}
  {entries : List Entry}
  {failure : Option IndexError}

/-- A row that begins with a key yields the record of the key first. -/
theorem cons
    {entry : Entry}
    (present : view entry.1 = some entry.2)
    (rest : row.Yields view entries failure) :
    (row.prepend [entry.1]).Yields view (entry :: entries) failure := by
  have shape :
      resolved view (row.prepend [entry.1]).keys =
        (entry :: (resolved view row.keys).1, (resolved view row.keys).2) := by
    show resolved view (entry.1 :: row.keys) = _
    rw [resolved, present]
  constructor
  · intro sound
    rw [shape, ← rest.whole sound]
  · rw [shape]
    exact (List.prefix_cons_inj entry).2 rest.begins
  · exact rest.fails

/-- A row whose first key has no record yields nothing. -/
theorem missing
    {key : Bytes}
    {others : List Bytes}
    (first : row.keys = key :: others)
    (absent : view key = none) :
    row.Yields view [] (some (.inconsistent key)) := by
  constructor
  · intro _
    rw [first, resolved, absent]
  · exact List.nil_prefix
  · exact fun _ => rfl

/-- A row with a failure may be given up. -/
theorem failed
    {error : IndexError}
    (isSome : row.failure = some error) :
    row.Yields view [] (some error) := by
  constructor
  · intro isNone
    rw [isNone] at isSome
    cases isSome
  · exact List.nil_prefix
  · exact fun _ => rfl

theorem empty :
    CandidateRow.Yields view ⟨[], none⟩ [] none := by
  constructor
  · exact fun _ => rfl
  · exact List.nil_prefix
  · exact nofun

end CandidateRow.Yields

namespace ResultStream

/-- What a stream does with what its producer hands out. -/
def handOn
    {σ π R C : Type}
    (environment : Environment σ R C)
    (pulled : Pulled π)
    (stream : ResultStream π) :
    StateM σ (Option Entry × ResultStream π) :=
  let moved : ResultStream π :=
    { stream with producer := pulled.producer, cursor := some pulled.ahead }
  match pulled.outcome with
  | .ok (.batch (key :: rest)) =>
      ({ moved with queued := rest } : ResultStream π).resolve environment key
  | .ok _ =>
      return (none, { moved with exhausted := true })
  | .error error =>
      moved.fail environment error

section Drain

variable
  {σ π R C : Type}
  {environment : Environment σ R C}
  {pull : Producer σ π}
  {producer : FiniteProducer σ π}
  {stream later : ResultStream π}
  {before after : σ}

/-- A stream that has ended hands out nothing more. -/
theorem next_of_ended
    (ended : stream.ended = true) :
    stream.next environment pull before = ((none, stream), before) := by
  rw [next, if_pos ended]
  rfl

/-- A stream looks up the keys that are queued first. -/
theorem next_of_queued
    {key : Bytes}
    {rest : List Bytes}
    (goesOn : stream.ended = false)
    (queued : stream.queued = key :: rest) :
    stream.next environment pull before =
      ({ stream with queued := rest } : ResultStream π).resolve environment key before := by
  rw [next, goesOn, queued]
  rfl

/-- A stream without queued keys goes by what its producer hands out. -/
theorem next_of_pull
    {ahead : List Entry}
    {pulled : Pulled π}
    (goesOn : stream.ended = false)
    (queued : stream.queued = [])
    (cursor : stream.cursor = some ahead)
    (pulls : pull stream.producer ahead before = (pulled, after)) :
    stream.next environment pull before =
      stream.handOn environment pulled after := by
  obtain ⟨producer, _, _, exhausted, failure⟩ := stream
  cases queued
  cases cursor
  rw [next, goesOn]
  show
    handOn environment (pull producer ahead before).1
        ⟨producer, some ahead, [], exhausted, failure⟩ (pull producer ahead before).2 = _
  rw [pulls]

theorem drain_of_none
    (stops : stream.next environment producer.pull before = ((none, later), after)) :
    stream.drain environment producer before = (([], later), after) := by
  rw [drain]
  split
  next =>
    rw [stops]
  next handed =>
    rw [stops] at handed
    cases handed

theorem drain_of_some
    {entry : Entry}
    (hands : stream.next environment producer.pull before = ((some entry, later), after)) :
    stream.drain environment producer before =
      ((entry :: (later.drain environment producer after).1.1,
        (later.drain environment producer after).1.2),
        (later.drain environment producer after).2) := by
  rw [drain]
  split
  next handed =>
    rw [hands] at handed
    cases handed
  next other handed =>
    have same : other = entry := by
      rw [hands] at handed
      cases handed
      rfl
    rw [same, hands]

end Drain

/-- A stream that has not ended and drives its producer over some entries. -/
structure RunsOver
    {π : Type}
    (stream : ResultStream π)
    (ahead : List Entry) :
    Prop where
  sound : stream.failure = none
  goesOn : stream.exhausted = false
  cursor : stream.cursor = some ahead

variable
  {R C : Type}
  (store : Store)
  (postings : Codec PostingList)
  (records : Codec R)
  (scan : Scan R C)
  (transaction : Transaction)

/-- What is left of the row for a stream: the keys that are queued, and what the scan has left. -/
def left
    (stream : ResultStream Progress)
    (ahead : List Entry) :
    CandidateRow :=
  (scan.left store postings records transaction stream.producer ahead).prepend stream.queued

/-- What becomes of a stream whose row is given by a step of it. -/
inductive Advances
    (left : CandidateRow) :
    Option Entry × ResultStream Progress → Prop where
  | hands
      (entry : Entry)
      (later : ResultStream Progress)
      (ahead : List Entry)
      (runs : later.RunsOver ahead)
      (present : transaction.get store entry.1 = some entry.2)
      (shape :
        left = (later.left store postings records scan transaction ahead).prepend [entry.1]) :
      Advances left (some entry, later)
  | stops
      (later : ResultStream Progress)
      (yields : left.Yields (transaction.get store) [] later.failure) :
      Advances left (none, later)

variable
  {stream : ResultStream Progress}
  {ahead : List Entry}

/-- A key that is looked up comes first in what a stream has left. -/
theorem resolve_advances
    (key : Bytes)
    (runs : stream.RunsOver ahead) :
    ∃ result,
      stream.resolve (Transaction.environment (C := C) store postings records) key transaction =
          (result, transaction) ∧
        Advances store postings records scan transaction
          ((stream.left store postings records scan transaction ahead).prepend [key]) result := by
  rcases content : transaction.get store key with none | value
  · refine ⟨(none, { stream with failure := some (.inconsistent key) }), ?_, ?_⟩
    · simp only [resolve, Transaction.environment, bind, StateT.bind, content]
      rfl
    · exact .stops _ (.missing rfl content)
  · refine ⟨(some (key, value), stream), ?_, ?_⟩
    · simp only [resolve, Transaction.environment, bind, StateT.bind, content]
      rfl
    · exact .hands (key, value) stream ahead runs content rfl

/-- One step of a stream takes one candidate off its row, or ends where the row does. -/
theorem next_advances
    (runs : stream.RunsOver ahead)
    (batch : 0 < scan.batchSize) :
    ∃ result,
      stream.next (Transaction.environment (C := C) store postings records)
            (scan.pull (Transaction.environment store postings records)) transaction =
          (result, transaction) ∧
        Advances store postings records scan transaction
          (stream.left store postings records scan transaction ahead) result := by
  have goesOn : stream.ended = false := by
    rw [ended, runs.sound, runs.goesOn]
    rfl
  rcases queued : stream.queued with nil | ⟨key, rest⟩
  · have onlyScan :
        stream.left store postings records scan transaction ahead =
          scan.left store postings records transaction stream.producer ahead := by
      rw [left, queued]
      rfl
    obtain ⟨⟨result, producer, further⟩, pulls, takes⟩ :=
      pull_left store postings records scan transaction stream.producer ahead batch
    rw [onlyScan, next_of_pull goesOn queued runs.cursor pulls]
    rw [Pulled.Takes] at takes
    rcases result with error | (keys | finished)
    · exact ⟨_, rfl, .stops _ (.failed takes)⟩
    · obtain ⟨someKeys, taken, rest⟩ := takes
      rcases keys with nil | ⟨key, others⟩
      · exact absurd rfl someKeys
      · have shape :
            scan.left store postings records transaction stream.producer ahead =
              (({ stream with producer, cursor := some further, queued := others } :
                ResultStream Progress).left store postings records scan transaction
                  further).prepend [key] := by
          simp only [left, CandidateRow.prepend, rest, List.singleton_append]
          rw [← List.cons_append, taken, List.take_append_drop]
        rw [shape]
        exact resolve_advances store postings records scan transaction key
          ⟨runs.sound, runs.goesOn, rfl⟩
    · refine ⟨_, rfl, .stops _ ?_⟩
      rw [takes, runs.sound]
      exact .empty
  · have shape :
        stream.left store postings records scan transaction ahead =
          (({ stream with queued := rest } : ResultStream Progress).left store postings records
            scan transaction ahead).prepend [key] := by
      rw [left, queued]
      rfl
    rw [shape, next_of_queued goesOn queued]
    exact resolve_advances store postings records scan transaction key
      ⟨runs.sound, runs.goesOn, runs.cursor⟩

/-- A stream that runs is exhausted with what its row yields, and changes nothing. -/
theorem drain_yields
    (runs : stream.RunsOver ahead)
    (batch : 0 < scan.batchSize) :
    ∃ entries last,
      stream.drain (Transaction.environment (C := C) store postings records)
            (scan.producer (Transaction.environment store postings records)) transaction =
          ((entries, last), transaction) ∧
        (stream.left store postings records scan transaction ahead).Yields
          (transaction.get store) entries last.failure := by
  generalize size : (stream.left store postings records scan transaction ahead).keys.length = count
  induction count using Nat.strongRecOn generalizing stream ahead with
  | ind count inductionHypothesis =>
      obtain ⟨result, step, advances⟩ :=
        next_advances store postings records scan transaction runs batch
      cases advances with
      | hands entry later further laterRuns present shape =>
          have shorter :
              (later.left store postings records scan transaction further).keys.length <
                count := by
            rw [← size, shape]
            simp [CandidateRow.prepend]
          obtain ⟨entries, last, drained, yields⟩ :=
            inductionHypothesis _ shorter laterRuns rfl
          refine ⟨entry :: entries, last, ?_, ?_⟩
          · rw [drain_of_some step, drained]
          · rw [shape]
            exact yields.cons present
      | stops later yields =>
          exact ⟨[], later, drain_of_none step, yields⟩

end ResultStream

section Query

variable {σ R C : Type}

/-- Hand out all records that are left, and tell the error that has ended the query, if any. -/
def QueryStream.exhaust
    (environment : Environment σ R C)
    (query : QueryStream R C) :
    StateM σ (List Entry × Option IndexError) := do
  let (entries, last) ← query.drain environment
  return (entries, last.stream.failure)

/-- A query is exhausted with what its stream hands out to its end. -/
theorem QueryStream.exhaust_of_drain
    {environment : Environment σ R C}
    {scan : Scan R C}
    {stream last : ResultStream Progress}
    {before after : σ}
    {entries : List Entry}
    (drained : stream.drain environment (scan.producer environment) before = ((entries, last), after)) :
    QueryStream.exhaust environment ⟨scan, stream⟩ before = ((entries, last.failure), after) := by
  show
    (((stream.drain environment (scan.producer environment) before).1.1,
      (stream.drain environment (scan.producer environment) before).1.2.failure),
      (stream.drain environment (scan.producer environment) before).2) = _
  rw [drained]

/-- Exhaust the scan of a query along a given path. -/
def Environment.runAlong
    (environment : Environment σ R C)
    (path : AccessPath)
    (layout : KeyLayout)
    (schema : Schema R C)
    (query : Query C) :
    Action σ (List Entry × Option IndexError) := do
  let scan ← Action.ofExcept (Scan.along path layout schema query)
  QueryStream.exhaust environment ⟨scan, .start .start⟩

/-- Open a query and exhaust it. -/
def Environment.runQuery
    (environment : Environment σ R C)
    (layout : KeyLayout)
    (schema : Schema R C)
    (query : Query C) :
    Action σ (List Entry × Option IndexError) := do
  let opened ← environment.openQuery layout schema query
  opened.exhaust environment

/-- Along one path, all queries on types of one name are scanned under one lead. -/
theorem along_congr
    (path : AccessPath)
    (layout : KeyLayout)
    (typeName : String) :
    ∃ lead : Except IndexError Bytes,
      ∀ (schema : Schema R C) query size,
        schema.typeName = typeName →
          Scan.along path { layout with batchSize := size } schema query =
            lead.map fun lead => ⟨schema, query, path, lead, size⟩ := by
  cases path with
  | primaryKeyScan | fullScan =>
      refine ⟨layout.recordLead typeName, ?_⟩
      rintro schema query size rfl
      simp only [Scan.along, KeyLayout.recordLead]
      cases KeyLayout.checkedName schema.typeName <;> rfl
  | indexedLookup index =>
      refine ⟨layout.indexLead typeName index, ?_⟩
      rintro schema query size rfl
      simp only [Scan.along, KeyLayout.indexLead]
      rcases KeyLayout.checkedName schema.typeName with error | type
      · rfl
      · cases KeyLayout.checkedName index <;> rfl

/-- A query is exhausted along the path that is selected for it. -/
theorem Environment.runQuery_eq
    (environment : Environment σ R C)
    (layout : KeyLayout)
    (schema : Schema R C)
    (query : Query C) :
    environment.runQuery layout schema query =
      (do
        let path ← environment.selectPath layout schema query
        environment.runAlong path layout schema query) := by
  simp [runQuery, openQuery, runAlong]

variable
  (store : Store)
  (postings : Codec PostingList)
  (records : Codec R)
  (transaction : Transaction)
  {path : AccessPath}
  {layout : KeyLayout}
  {schema : Schema R C}
  {query : Query C}

/-- A stream that has handed out nothing is exhausted with what its row yields. -/
theorem exhaust_yields
    (scan : Scan R C)
    (batch : 0 < scan.batchSize)
    (ahead : List Entry) :
    ∃ entries failure,
      QueryStream.exhaust (Transaction.environment store postings records)
            ⟨scan, { ResultStream.start .start with cursor := some ahead }⟩ transaction =
          ((entries, failure), transaction) ∧
        (CandidateRow.ofEntries (scan.found postings records)
          (transaction.entriesUnder store scan.lead)).Yields (transaction.get store) entries
            failure := by
  have runs :
      ({ ResultStream.start .start with cursor := some ahead } :
        ResultStream Progress).RunsOver ahead :=
    ⟨rfl, rfl, rfl⟩
  obtain ⟨entries, last, drained, yields⟩ :=
    ResultStream.drain_yields store postings records scan transaction runs batch
  exact ⟨entries, last.failure, QueryStream.exhaust_of_drain drained, yields⟩

/-- Along a path, a query yields what the row of the entries under the lead of the scan yields. -/
theorem outcome_runAlong
    {scan : Scan R C}
    (isScan : Scan.along path layout schema query = .ok scan)
    (batch : 0 < scan.batchSize) :
    ∃ entries failure,
      outcome
          ((Transaction.environment store postings records).runAlong path layout schema query)
          transaction =
        (.ok (entries, failure), transaction) ∧
      (CandidateRow.ofEntries (scan.found postings records)
        (transaction.entriesUnder store scan.lead)).Yields (transaction.get store) entries
          failure := by
  obtain ⟨entries, failure, exhausted, yields⟩ :=
    exhaust_yields store postings records transaction scan batch []
  refine ⟨entries, failure, ?_, yields⟩
  rw [Environment.runAlong, isScan]
  exact congrArg (fun ends => (Except.ok ends.1, ends.2)) exhausted

end Query

end SecondaryIndex
