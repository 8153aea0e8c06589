import SecondaryIndex.Binary.PostingList
import SecondaryIndex.Criterion
import SecondaryIndex.Proofs.KeyLayout
import SecondaryIndex.Proofs.Query.Exhaustion
import SecondaryIndex.Proofs.TextOrder
import SecondaryIndex.Proofs.Versioned.Listing

namespace SecondaryIndex

/-!
# Scans of all records of a type

A full scan hands out every record of the type as it is stored.  A scan by
primary key hands out those that the query accepts, and fails exactly if some
record cannot be judged.  Nothing is assumed of what is stored, so this holds
where records do not decode and where there are keys of other types beside them.
-/

open Versioned

namespace Query

variable
  {R C : Type}
  (query : Query C)

/-- What a query asks of a record, one criterion at a time. -/
def singleQuestions
    (key : Bytes)
    (record : R) :
    List (Question R C) :=
  (query.questions key record).flatMap Question.singly

/-- Fields are asked about in the order of the bytes of their names. -/
theorem fields_ascend :
    query.fieldCriteria.entries.Pairwise fun first second =>
      Bytes.ofText first.1 < Bytes.ofText second.1 :=
  query.fieldCriteria.ascending.imp Bytes.ofText_lt

end Query

namespace Schema

variable
  {R C : Type}
  (schema : Schema R C)
  (records : Codec R)

/-- Whether a stored record decodes and is accepted, where its key without the lead is judged. -/
def Selects
    (ask : Bytes → R → List (Question R C))
    (lead : Bytes)
    (entry : Entry) :
    Prop :=
  ∃ record,
    records.decode entry.2 = .ok record ∧ schema.Accepts (ask (entry.1.drop lead.length) record)

/-- Whether a stored record does not decode, or judging it fails before it is refused. -/
def CannotJudge
    (ask : Bytes → R → List (Question R C))
    (lead : Bytes)
    (entry : Entry) :
    Prop :=
  (∃ failure, records.decode entry.2 = .error failure) ∨
    ∃ record,
      records.decode entry.2 = .ok record ∧
        schema.FailsOn (ask (entry.1.drop lead.length) record)

end Schema

/-- What the two scans of all records of a type hand out, when it is asked as given. -/
structure ScansExactly
    {R C : Type}
    (store : Store)
    (transaction : Transaction)
    (postings : Codec PostingList)
    (records : Codec R)
    (layout : KeyLayout)
    (schema : Schema R C)
    (query : Query C)
    (ask : Bytes → R → List (Question R C))
    (lead : Bytes)
    (listing : List Entry) :
    Prop where
  isLead : layout.recordLead schema.typeName = .ok lead
  ascending : Ascending listing
  lists :
    ∀ key value,
      (key, value) ∈ listing ↔ key.startsWith lead ∧ transaction.get store key = some value
  full :
    outcome
        ((Transaction.environment store postings records).runAlong .fullScan layout schema query)
        transaction =
      (.ok (listing, none), transaction)
  byPrimaryKey :
    ∃ entries failure,
      outcome
          ((Transaction.environment store postings records).runAlong .primaryKeyScan layout schema
            query)
          transaction =
        (.ok (entries, failure), transaction) ∧
      (query.Asks →
        failure = none →
          entries.Sublist listing ∧
            ∀ entry,
              entry ∈ entries ↔ entry ∈ listing ∧ schema.Selects records ask lead entry) ∧
      (¬ query.Asks → entries = listing) ∧
      (failure.isSome ↔
        query.Asks ∧ ∃ entry ∈ listing, schema.CannotJudge records ask lead entry)

section Verdict

variable
  {R C : Type}
  {postings : Codec PostingList}
  {records : Codec R}
  (scan : Scan R C)
  {ask : Bytes → R → List (Question R C)}
  {entry : Entry}

/-- A record is accepted exactly if it is selected, where something is asked. -/
theorem verdict_eq_true_iff
    (asks : scan.query.Asks)
    (same :
      ∀ key record,
        scan.schema.judgeAll (ask key record) =
          scan.schema.judgeAll (scan.query.questions key record)) :
    scan.verdict records entry = .ok true ↔
      scan.schema.Selects records ask scan.lead entry := by
  rw [Scan.verdict, if_pos (Query.hasCriteria_iff.2 asks), Schema.Selects]
  rcases records.decode entry.2 with failure | record
  · simp
  · simp [← same, Schema.judgeAll_eq_true_iff, Scan.stripped]

/-- Judging a record fails exactly if it cannot be judged, where something is asked. -/
theorem verdict_error_iff
    (asks : scan.query.Asks)
    (same :
      ∀ key record,
        scan.schema.judgeAll (ask key record) =
          scan.schema.judgeAll (scan.query.questions key record)) :
    (∃ error, scan.verdict records entry = .error error) ↔
      scan.schema.CannotJudge records ask scan.lead entry := by
  rw [Scan.verdict, if_pos (Query.hasCriteria_iff.2 asks), Schema.CannotJudge]
  rcases records.decode entry.2 with failure | record
  · simp
  · simp [← same, Schema.judgeAll_error_iff, Scan.stripped]

/-- Where nothing is asked, every record is accepted, whether it decodes or not. -/
theorem verdict_of_not_asks
    (asksNothing : ¬ scan.query.Asks) :
    scan.verdict records entry = .ok true := by
  have noCriteria : ¬ scan.query.hasCriteria = true := by
    rwa [Query.hasCriteria_iff]
  rw [Scan.verdict, if_neg noCriteria]

/-- What a scan by primary key yields, told from how it judges each record. -/
theorem yields_primaryKeyScan
    {view : Bytes → Option Bytes}
    {listing entries : List Entry}
    {failure : Option IndexError}
    (isPath : scan.path = .primaryKeyScan)
    (present : ∀ entry ∈ listing, view entry.1 = some entry.2)
    (yields :
      (CandidateRow.ofEntries (scan.found postings records) listing).Yields view entries failure) :
    (failure.isSome ↔
      ∃ entry ∈ listing, ∃ error, scan.verdict records entry = .error error) ∧
    (failure = none →
      entries = listing.filter fun entry => scan.verdict records entry = .ok true) := by
  have found (entry : Entry) :
      scan.found postings records entry =
        (scan.verdict records entry).map fun accepted => if accepted then [entry.1] else [] := by
    cases verdict : scan.verdict records entry <;>
      · simp only [Scan.found, isPath, verdict]
        rfl
  by_cases fails : ∃ entry ∈ listing, ∃ error, scan.verdict records entry = .error error
  · have failed : failure.isSome := by
      apply yields.fails
      obtain ⟨entry, member, error, judged⟩ := fails
      refine CandidateRow.failure_ofEntries.2 ⟨entry, member, error, ?_⟩
      rw [found, judged]
      rfl
    refine ⟨iff_of_true failed fails, ?_⟩
    intro isNone
    rw [isNone] at failed
    cases failed
  · have kept :
        ∀ entry ∈ listing,
          scan.found postings records entry =
            .ok (if decide (scan.verdict records entry = .ok true) then [entry.1] else []) := by
      intro entry member
      rw [found]
      rcases judged : scan.verdict records entry with error | accepted
      · exact absurd ⟨entry, member, error, judged⟩ fails
      · cases accepted <;> rfl
    rw [CandidateRow.ofEntries_of_kept kept] at yields
    have whole := yields.whole rfl
    rw [resolved_of_present fun entry member => present entry (List.mem_of_mem_filter member)]
      at whole
    obtain ⟨rfl, rfl⟩ := Prod.mk.inj whole
    exact ⟨iff_of_false (by simp) fails, fun _ => rfl⟩

end Verdict

section Scans

variable
  {R C : Type}
  {store : Store}
  {transaction : Transaction}
  {postings : Codec PostingList}
  {records : Codec R}
  {layout : KeyLayout}
  {schema : Schema R C}
  {query : Query C}
  {lead : Bytes}

theorem along_of_recordLead
    {path : AccessPath}
    (isLead : layout.recordLead schema.typeName = .ok lead)
    (overRecords : path = .primaryKeyScan ∨ path = .fullScan) :
    Scan.along path layout schema query = .ok ⟨schema, query, path, lead, layout.batchSize⟩ := by
  rcases overRecords with rfl | rfl <;> rw [Scan.along, isLead] <;> rfl

/-- A listed entry is found in the view. -/
theorem present_of_mem_entriesUnder
    {entry : Entry}
    (member : entry ∈ transaction.entriesUnder store lead) :
    transaction.get store entry.1 = some entry.2 :=
  (Transaction.mem_entriesUnder.1 member).2

/-- A full scan hands out the records as they are listed. -/
theorem outcome_fullScan
    (isLead : layout.recordLead schema.typeName = .ok lead)
    (batch : 1 ≤ layout.batchSize) :
    outcome
        ((Transaction.environment store postings records).runAlong .fullScan layout schema query)
        transaction =
      (.ok (transaction.entriesUnder store lead, none), transaction) := by
  obtain ⟨entries, failure, ends, yields⟩ :=
    outcome_runAlong store postings records transaction
      (along_of_recordLead isLead (.inr rfl) : Scan.along .fullScan layout schema query = _) batch
  have everyKey :
      CandidateRow.ofEntries
          (Scan.found postings records ⟨schema, query, .fullScan, lead, layout.batchSize⟩)
          (transaction.entriesUnder store lead) =
        ⟨((transaction.entriesUnder store lead).filter fun _ => true).map Prod.fst, none⟩ :=
    CandidateRow.ofEntries_of_kept fun _ _ => rfl
  rw [List.filter_true] at everyKey
  rw [everyKey] at yields
  have whole := yields.whole rfl
  rw [resolved_of_present fun _ => present_of_mem_entriesUnder] at whole
  rw [ends, whole]

variable
  (store transaction postings records query)

/-- A scan by primary key hands out the selected records, unless one cannot be judged. -/
theorem outcome_primaryKeyScan
    {ask : Bytes → R → List (Question R C)}
    (isLead : layout.recordLead schema.typeName = .ok lead)
    (batch : 1 ≤ layout.batchSize)
    (same :
      ∀ key record, schema.judgeAll (ask key record) = schema.judgeAll (query.questions key record)) :
    ∃ entries failure,
      outcome
          ((Transaction.environment store postings records).runAlong .primaryKeyScan layout schema
            query)
          transaction =
        (.ok (entries, failure), transaction) ∧
      (query.Asks →
        failure = none →
          entries.Sublist (transaction.entriesUnder store lead) ∧
            ∀ entry,
              entry ∈ entries ↔
                entry ∈ transaction.entriesUnder store lead ∧
                  schema.Selects records ask lead entry) ∧
      (¬ query.Asks → entries = transaction.entriesUnder store lead) ∧
      (failure.isSome ↔
        query.Asks ∧
          ∃ entry ∈ transaction.entriesUnder store lead,
            schema.CannotJudge records ask lead entry) := by
  obtain ⟨entries, failure, ends, yields⟩ :=
    outcome_runAlong store postings records transaction
      (along_of_recordLead isLead (.inl rfl) : Scan.along .primaryKeyScan layout schema query = _)
      batch
  let scan : Scan R C := ⟨schema, query, .primaryKeyScan, lead, layout.batchSize⟩
  obtain ⟨failsOrNot, kept⟩ :=
    yields_primaryKeyScan scan rfl (fun _ => present_of_mem_entriesUnder) yields
  refine ⟨entries, failure, ends, ?_, ?_, ?_⟩
  · intro asks sound
    rw [kept sound]
    refine ⟨List.filter_sublist, ?_⟩
    intro entry
    rw [List.mem_filter, decide_eq_true_iff, verdict_eq_true_iff scan asks same]
  · intro asksNothing
    have accepted (entry : Entry) : scan.verdict records entry = .ok true :=
      verdict_of_not_asks scan asksNothing
    have sound : failure = none := by
      rw [← Option.not_isSome_iff_eq_none, failsOrNot]
      simp [accepted]
    rw [kept sound]
    simp [accepted, scan]
  · rw [failsOrNot]
    by_cases asks : query.Asks
    · simp [verdict_error_iff scan asks same, asks, scan]
    · simp [verdict_of_not_asks scan asks, asks]

end Scans

/--
A full scan hands out the records of its type as they are stored.  A scan by
primary key hands out those that the query accepts, and fails exactly if it asks
something and some record cannot be judged; a schema that judges criteria in
order may be thought of as being asked one criterion at a time.
-/
theorem partition_scans_exact
    {R C : Type}
    (store : Store)
    (transaction : Transaction)
    (postings : Codec PostingList)
    (records : Codec R)
    (layout : KeyLayout)
    (schema : Schema R C)
    (query : Query C)
    (free : delimiter ∉ Bytes.ofText schema.typeName)
    (batch : 1 ≤ layout.batchSize) :
    ∃ lead listing,
      ScansExactly store transaction postings records layout schema query query.questions lead
        listing ∧
      (schema.JudgesInOrder →
        ScansExactly store transaction postings records layout schema query query.singleQuestions
          lead listing) ∧
      query.fieldCriteria.entries.Pairwise fun first second =>
        Bytes.ofText first.1 < Bytes.ofText second.1 := by
  have isLead := layout.recordLead_of_free free
  have exactly
      (ask : Bytes → R → List (Question R C))
      (same :
        ∀ key record,
          schema.judgeAll (ask key record) = schema.judgeAll (query.questions key record)) :
      ScansExactly store transaction postings records layout schema query ask _
        (transaction.entriesUnder store _) :=
    { isLead
      ascending := transaction.entriesUnder_ascending store _
      lists := fun _ _ => Transaction.mem_entriesUnder
      full := outcome_fullScan isLead batch
      byPrimaryKey :=
        outcome_primaryKeyScan store transaction postings records query isLead batch same }
  refine ⟨_, _, exactly query.questions fun _ _ => rfl, ?_, query.fields_ascend⟩
  intro inOrder
  exact exactly query.singleQuestions fun _ _ => inOrder.judgeAll_flatMap_singly _

/-- Byte strings of which criteria judge the key. -/
def notes :
    Schema Bytes (Criterion Bytes) where
  typeName :=
    "note"
  indexes :=
    []
  accepts criteria candidate :=
    Criterion.testAll candidate.value candidate.record? criteria
  needsRecord :=
    Criterion.anyMatchFunction

/-- A transaction with a note and a key of notes whose value does not decode. -/
def partlyCorrupt :
    Transaction :=
  let lead := Bytes.ofText "kh_note:"
  (Transaction.set ⟨0, .empty⟩ (lead ++ [1]) (Binary.writeBytes [7])).set (lead ++ [2]) []

/-- Notes are judged by one criterion after another. -/
theorem notes_judgesInOrder :
    notes.JudgesInOrder := by
  have judges (criteria : List (Criterion Bytes)) (candidate : Candidate Bytes) :
      notes.accepts criteria candidate =
        (Except.ok candidate.value).bind fun value =>
          Criterion.testAll value candidate.record? criteria :=
    rfl
  exact Schema.judgesInOrder_of_testAll judges

/-- The scan by primary key of a transaction with a corrupt record fails. -/
theorem partition_scan_fails_on_corrupt :
    delimiter ∉ Bytes.ofText notes.typeName ∧
      1 ≤ KeyLayout.standard.batchSize ∧
        notes.JudgesInOrder ∧
          ∃ entries failure,
            outcome
                ((Transaction.environment .empty PostingList.codec
                  (Binary.codec Binary.writeBytes Binary.readBytes.read)).runAlong .primaryKeyScan
                  .standard notes (Query.all.whereKey (.compare .less [2])))
                partlyCorrupt =
              (.ok (entries, failure), partlyCorrupt) ∧
            failure.isSome := by
  have free : delimiter ∉ Bytes.ofText notes.typeName := by
    decide
  have batch : 1 ≤ KeyLayout.standard.batchSize := by
    decide
  obtain ⟨lead, listing, exactly, singly, -⟩ :=
    partition_scans_exact .empty partlyCorrupt PostingList.codec
      (Binary.codec Binary.writeBytes Binary.readBytes.read) .standard notes
      (Query.all.whereKey (.compare .less [2])) free batch
  obtain ⟨entries, failure, ends, -, -, fails⟩ := (singly notes_judgesInOrder).byPrimaryKey
  refine ⟨free, batch, notes_judgesInOrder, entries, failure, ends, ?_⟩
  have isLead : Bytes.ofText "kh_note:" = lead := by
    have fixed : KeyLayout.standard.recordLead notes.typeName = .ok (Bytes.ofText "kh_note:") := by
      rfl
    exact Except.ok.inj (fixed.symm.trans exactly.isLead)
  have asks : (Query.all.whereKey (.compare .less [2]) : Query (Criterion Bytes)).Asks :=
    .inl (List.cons_ne_nil _ _)
  refine fails.2 ⟨asks, (Bytes.ofText "kh_note:" ++ [2], []), ?_, .inl ?_⟩
  · refine (exactly.lists _ _).2 ⟨?_, ?_⟩
    · rw [isLead]
      exact Bytes.startsWith_append _ _
    · decide
  · exact ⟨_, rfl⟩

end SecondaryIndex
