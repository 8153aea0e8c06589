import SecondaryIndex.Proofs.Query.PartitionScan

namespace SecondaryIndex

/-!
# The size of a batch does not show

A scan that meets no failure hands its row of candidates out in chunks of the size
of a batch and then comes to an end for good.  The records that a stream takes from
the scan are therefore the same for every size.  Where the scan does fail, every
size comes upon a failure, and only the moment may differ.
-/

open Versioned

/-- The chunks of a row of keys; the last one may be shorter than the others. -/
structure Chunks
    (size : Nat)
    (keys : List Bytes)
    (chunks : List (List Bytes)) :
    Prop where
  joined : chunks.flatten = keys
  nonempty : ∀ chunk ∈ chunks, chunk ≠ []
  bounded : ∀ chunk ∈ chunks, chunk.length ≤ size
  full : ∀ chunk ∈ chunks.dropLast, chunk.length = size
  /-- The number of chunks is the number of keys over the size, rounded up. -/
  number : chunks.length = (keys.length + size - 1) / size

namespace Chunks

variable
  {size : Nat}
  {keys : List Bytes}
  {chunks : List (List Bytes)}

theorem nil
    (positive : 0 < size) :
    Chunks size [] [] where
  joined :=
    rfl
  nonempty :=
    nofun
  bounded :=
    nofun
  full :=
    nofun
  number := by
    rw [List.length_nil, List.length_nil, Nat.zero_add]
    exact (Nat.div_eq_of_lt (Nat.sub_lt positive Nat.one_pos)).symm

/-- The first keys are a chunk in front of the chunks of the others. -/
theorem cons
    (positive : 0 < size)
    (someKey : keys ≠ [])
    (others : Chunks size (keys.drop size) chunks) :
    Chunks size keys (keys.take size :: chunks) where
  joined := by
    rw [List.flatten_cons, others.joined, List.take_append_drop]
  nonempty := by
    rw [List.forall_mem_cons]
    refine ⟨?_, others.nonempty⟩
    intro isNil
    rcases List.take_eq_nil_iff.1 isNil with noSize | noKey
    · exact Nat.ne_of_gt positive noSize
    · exact someKey noKey
  bounded := by
    rw [List.forall_mem_cons]
    exact ⟨List.length_take_le size keys, others.bounded⟩
  full := by
    cases chunks with
    | nil =>
        exact nofun
    | cons next rest =>
        rw [List.dropLast_cons_cons, List.forall_mem_cons]
        refine ⟨?_, others.full⟩
        -- The next chunk has keys behind the first ones, so these are as many as there may be.
        have behind : keys.drop size ≠ [] := by
          intro noMore
          have joined := others.joined
          rw [noMore, List.flatten_cons, List.append_eq_nil_iff] at joined
          exact others.nonempty next List.mem_cons_self joined.1
        have more : size < keys.length := by
          simpa using behind
        exact List.length_take_of_le (Nat.le_of_lt more)
  number := by
    have some : 0 < keys.length := List.length_pos_iff.2 someKey
    rw [List.length_cons, others.number, List.length_drop]
    by_cases more : size < keys.length
    · have shape : keys.length + size - 1 = keys.length - size + size - 1 + size := by
        omega
      rw [shape, Nat.add_div_right _ positive]
    · have noMore : keys.length - size + size - 1 = size - 1 := by
        omega
      have shape : keys.length + size - 1 = keys.length - 1 + size := by
        omega
      rw [noMore, shape, Nat.add_div_right _ positive, Nat.div_eq_of_lt (by omega),
        Nat.div_eq_of_lt (by omega)]

end Chunks

/-- Pull some number of times, whatever comes of each pull, and keep the outcomes. -/
def Scan.pulls
    {σ R C : Type}
    (environment : Environment σ R C)
    (scan : Scan R C) :
    Nat → Progress → List Entry → StateM σ (List (Except IndexError Pull))
  | 0, _, _ =>
      return []
  | count + 1, progress, ahead => do
      let pulled ← scan.pull environment progress ahead
      let later ← pulls environment scan count pulled.producer pulled.ahead
      return pulled.outcome :: later

section Pulls

variable
  {R C : Type}
  (store : Store)
  (postings : Codec PostingList)
  (records : Codec R)
  (scan : Scan R C)
  (transaction : Transaction)

/-- One more pull comes first. -/
theorem pulls_succ
    {pulled : Pulled Progress}
    {progress : Progress}
    {ahead : List Entry}
    {outcomes : List (Except IndexError Pull)}
    {count : Nat}
    (first :
      scan.pull (Transaction.environment store postings records) progress ahead transaction =
        (pulled, transaction))
    (later :
      scan.pulls (Transaction.environment store postings records) count pulled.producer
          pulled.ahead transaction =
        (outcomes, transaction)) :
    scan.pulls (Transaction.environment store postings records) (count + 1) progress ahead
        transaction =
      (pulled.outcome :: outcomes, transaction) := by
  rw [Scan.pulls]
  show
    (let (pulled, middle) :=
      scan.pull (Transaction.environment store postings records) progress ahead transaction
    let (outcomes, after) :=
      scan.pulls (Transaction.environment store postings records) count pulled.producer
        pulled.ahead middle
    (pulled.outcome :: outcomes, after)) = _
  rw [first]
  dsimp only
  rw [later]

/-- What a number of pulls come to: one chunk each as long as there are chunks, then the end. -/
def handedOut
    (chunks : List (List Bytes))
    (count : Nat) :
    List (Except IndexError Pull) :=
  (List.range count).map fun turn =>
    match chunks[turn]? with
    | some chunk => .ok (.batch chunk)
    | none => .ok .finished

/-- The first chunk is handed out before the others. -/
theorem handedOut_cons
    (chunk : List Bytes)
    (chunks : List (List Bytes))
    (count : Nat) :
    handedOut (chunk :: chunks) (count + 1) = .ok (.batch chunk) :: handedOut chunks count := by
  simp [handedOut, List.range_succ_eq_map, Function.comp_def]

theorem handedOut_nil
    (count : Nat) :
    handedOut [] (count + 1) = .ok .finished :: handedOut [] count := by
  simp [handedOut, List.range_succ_eq_map, Function.comp_def]

/-- A scan that has nothing left goes on saying so. -/
theorem pulls_of_nothing_left
    {progress : Progress}
    {ahead : List Entry}
    (count : Nat)
    (nothing : scan.left store postings records transaction progress ahead = ⟨[], none⟩) :
    scan.pulls (Transaction.environment store postings records) count progress ahead transaction =
      (handedOut [] count, transaction) := by
  induction count generalizing progress ahead with
  | zero =>
      rfl
  | succ count inductionHypothesis =>
      obtain ⟨producer, further, pulls, leaves⟩ :=
        pull_of_sound store postings records scan transaction progress ahead nothing
      rw [List.drop_nil] at leaves
      have later := inductionHypothesis leaves
      rw [pulls_succ store postings records scan transaction pulls later, List.take_nil,
        handedOut_nil]
      rfl

/-- A scan hands out what it has left in chunks, and then comes to an end for good. -/
theorem pulls_of_sound
    (batch : 0 < scan.batchSize)
    (keys : List Bytes) :
    ∃ chunks,
      Chunks scan.batchSize keys chunks ∧
        ∀ progress ahead count,
          scan.left store postings records transaction progress ahead = ⟨keys, none⟩ →
            scan.pulls (Transaction.environment store postings records) count progress ahead
                transaction =
              (handedOut chunks count, transaction) := by
  generalize size : keys.length = length
  induction length using Nat.strongRecOn generalizing keys with
  | ind length inductionHypothesis =>
      by_cases noKey : keys = []
      · subst noKey
        refine ⟨[], .nil batch, ?_⟩
        intro progress ahead count sound
        exact pulls_of_nothing_left store postings records scan transaction count sound
      · have some : 0 < keys.length := List.length_pos_iff.2 noKey
        have fewer : (keys.drop scan.batchSize).length < length := by
          rw [List.length_drop]
          omega
        obtain ⟨chunks, areChunks, handed⟩ := inductionHypothesis _ fewer _ rfl
        have areChunksToo := areChunks.cons batch noKey
        refine ⟨_, areChunksToo, ?_⟩
        intro progress ahead count sound
        cases count with
        | zero =>
            rfl
        | succ count =>
            obtain ⟨producer, further, pulls, leaves⟩ :=
              pull_of_sound store postings records scan transaction progress ahead sound
            have later := handed producer further count leaves
            have isBatch :
                Pull.ofKeys (keys.take scan.batchSize) = .batch (keys.take scan.batchSize) := by
              have someTaken := areChunksToo.nonempty _ List.mem_cons_self
              rw [Pull.ofKeys, if_neg (by simpa using someTaken)]
            rw [pulls_succ store postings records scan transaction pulls later, isBatch,
              handedOut_cons]

end Pulls

/-- Two exhaustions of a row hand out the same, or both fail, one of them perhaps earlier. -/
structure Indistinct
    (first second : List Entry × Option IndexError) :
    Prop where
  fails : first.2.isSome ↔ second.2.isSome
  same : first.2 = none → second.2 = none → first.1 = second.1
  begins : first.2.isSome → second.2.isSome → first.1 <+: second.1 ∨ second.1 <+: first.1

/-- What a row may yield differs only in the moment of a failure. -/
theorem CandidateRow.Yields.indistinct
    {view : Bytes → Option Bytes}
    {row : CandidateRow}
    {entries others : List Entry}
    {failure other : Option IndexError}
    (yields : row.Yields view entries failure)
    (yieldsToo : row.Yields view others other) :
    Indistinct (entries, failure) (others, other) := by
  cases failed : row.failure with
  | none =>
      obtain ⟨rfl, rfl⟩ := Prod.mk.inj ((yields.whole failed).trans (yieldsToo.whole failed).symm)
      exact ⟨Iff.rfl, fun _ _ => rfl, fun _ _ => .inl (List.prefix_refl entries)⟩
  | some error =>
      have fails : failure.isSome := yields.fails (by rw [failed]; rfl)
      have failsToo : other.isSome := yieldsToo.fails (by rw [failed]; rfl)
      refine ⟨iff_of_true fails failsToo, ?_, ?_⟩
      · intro sound _
        rw [show failure = none from sound] at fails
        cases fails
      · intro _ _
        exact List.prefix_or_prefix_of_prefix yields.begins yieldsToo.begins

/-- A scan differs from one with another size of a batch in that size only. -/
theorem along_withBatchSize
    {R C : Type}
    (path : AccessPath)
    (layout : KeyLayout)
    (schema : Schema R C)
    (query : Query C)
    (size : Nat) :
    Scan.along path { layout with batchSize := size } schema query =
      (Scan.along path layout schema query).map fun scan => { scan with batchSize := size } := by
  obtain ⟨lead, isScan⟩ := along_congr path layout schema.typeName
  have isScanToo :
      Scan.along path layout schema query =
        lead.map fun lead => ⟨schema, query, path, lead, layout.batchSize⟩ :=
    isScan schema query layout.batchSize rfl
  rw [isScan schema query size rfl, isScanToo]
  cases lead <;> rfl

/--
The size of a batch does not show.  A scan none of whose entries fails hands out
what they give in chunks of that size, and then the word that there are no more, as
often as it is asked, wherever its cursor stood at first.  A stream over a scan of
any size hands out the same records, or fails like one of any other size.
-/
theorem batch_size_invisible
    {R C : Type}
    (store : Store)
    (transaction : Transaction)
    (postings : Codec PostingList)
    (records : Codec R)
    {layout : KeyLayout}
    {path : AccessPath}
    {schema : Schema R C}
    {query : Query C}
    {scan : Scan R C}
    (isScan : Scan.along path layout schema query = .ok scan) :
    (∀ size,
      Scan.along path { layout with batchSize := size } schema query =
        .ok { scan with batchSize := size }) ∧
    (∀ gives : Entry → List Bytes,
      (∀ entry ∈ transaction.entriesUnder store scan.lead,
        outcome (scan.candidates (Transaction.environment store postings records) entry)
            transaction =
          (.ok (gives entry), transaction)) →
      ∀ size,
        1 ≤ size →
          ∃ chunks,
            Chunks size ((transaction.entriesUnder store scan.lead).flatMap gives) chunks ∧
              ∀ ahead count,
                { scan with batchSize := size }.pulls
                    (Transaction.environment store postings records) count .start ahead
                    transaction =
                  (handedOut chunks count, transaction)) ∧
    ∀ size other,
      1 ≤ size →
        1 ≤ other →
          ∀ ahead further,
            ∃ first second,
              QueryStream.exhaust (Transaction.environment store postings records)
                    ⟨{ scan with batchSize := size },
                      { ResultStream.start .start with cursor := some ahead }⟩ transaction =
                  (first, transaction) ∧
              QueryStream.exhaust (Transaction.environment store postings records)
                    ⟨{ scan with batchSize := other },
                      { ResultStream.start .start with cursor := some further }⟩ transaction =
                  (second, transaction) ∧
              Indistinct first second := by
  refine ⟨?_, ?_, ?_⟩
  · intro size
    rw [along_withBatchSize, isScan]
    rfl
  · intro gives succeeds size batch
    have found :
        ∀ entry ∈ transaction.entriesUnder store scan.lead,
          scan.found postings records entry = .ok (gives entry) := by
      intro entry member
      have same := outcome_candidates store postings records scan transaction entry
      rw [succeeds entry member] at same
      exact (Prod.mk.inj same).1.symm
    obtain ⟨chunks, areChunks, handed⟩ :=
      pulls_of_sound store postings records { scan with batchSize := size } transaction batch
        ((transaction.entriesUnder store scan.lead).flatMap gives)
    refine ⟨chunks, areChunks, ?_⟩
    intro ahead count
    exact handed .start ahead count (CandidateRow.ofEntries_of_ok found)
  · intro size other batch batchToo ahead further
    obtain ⟨entries, failure, ends, yields⟩ :=
      exhaust_yields store postings records transaction { scan with batchSize := size } batch ahead
    obtain ⟨others, otherFailure, endsToo, yieldsToo⟩ :=
      exhaust_yields store postings records transaction { scan with batchSize := other } batchToo
        further
    exact ⟨_, _, ends, endsToo, yields.indistinct yieldsToo⟩

/-- A transaction with an entry that lists more keys than a batch of two may have. -/
def spilling :
    Transaction :=
  let lead := Bytes.ofText "_khIndex:note:initial:"
  (Transaction.set ⟨0, .empty⟩ (lead ++ [7])
    (PostingList.ofKeys [[1], [2], [3]]).encode).set (lead ++ [8]) (PostingList.ofKeys [[4]]).encode

/-- The keys of an entry that spills over are handed out in chunks with those of the next. -/
theorem chunks_of_spilling_entry :
    ∃ scan chunks,
      Scan.along (.indexedLookup "initial") .standard notes .all = .ok scan ∧
        Chunks 2 [[1], [2], [3], [4]] chunks ∧
          { scan with batchSize := 2 }.pulls
              (Transaction.environment .empty PostingList.codec
                (Binary.codec Binary.writeBytes Binary.readBytes.read))
              3 .start [] spilling =
            (handedOut chunks 3, spilling) := by
  let lead := Bytes.ofText "_khIndex:note:initial:"
  let scan : Scan Bytes (Criterion Bytes) :=
    ⟨notes, .all, .indexedLookup "initial", lead, KeyLayout.standard.batchSize⟩
  let gives : Entry → List Bytes := fun entry =>
    if entry.1 = lead ++ [7] then [[1], [2], [3]] else [[4]]
  have isScan : Scan.along (.indexedLookup "initial") .standard notes .all = .ok scan := by
    rfl
  have entries :
      spilling.entriesUnder .empty scan.lead =
        [(lead ++ [7], (PostingList.ofKeys [[1], [2], [3]]).encode),
          (lead ++ [8], (PostingList.ofKeys [[4]]).encode)] := by
    decide +kernel
  have succeeds :
      ∀ entry ∈ spilling.entriesUnder .empty scan.lead,
        outcome
            (scan.candidates
              (Transaction.environment .empty PostingList.codec
                (Binary.codec Binary.writeBytes Binary.readBytes.read))
              entry)
            spilling =
          (.ok (gives entry), spilling) := by
    rw [entries, List.forall_mem_cons, List.forall_mem_singleton]
    exact ⟨rfl, rfl⟩
  have keys :
      (spilling.entriesUnder .empty scan.lead).flatMap gives = [[1], [2], [3], [4]] := by
    rw [entries]
    rfl
  obtain ⟨-, inChunks, -⟩ :=
    batch_size_invisible .empty spilling PostingList.codec
      (Binary.codec Binary.writeBytes Binary.readBytes.read) isScan
  obtain ⟨chunks, areChunks, handed⟩ := inChunks gives succeeds 2 (by decide)
  rw [keys] at areChunks
  exact ⟨scan, chunks, isScan, areChunks, handed [] 3⟩

end SecondaryIndex
