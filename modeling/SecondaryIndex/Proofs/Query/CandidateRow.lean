import Mathlib.Data.List.Basic
import SecondaryIndex.Proofs.Outcome
import SecondaryIndex.Proofs.Query.Judgement
import SecondaryIndex.Scan
import SecondaryIndex.Versioned.Access

namespace SecondaryIndex

/-!
# The row of candidates

In a transaction, what a scan makes of an entry depends on the entry alone.  The
entries under its lead therefore make one row of candidate keys, which ends
early at the first entry that fails.  A pull takes the next batch off this row,
whatever the alignment of the entries with the batches; it fails only if the row
ends in a failure.
-/

open Versioned

/-- Candidate keys in the order in which they come up, and the failure that ends them, if any. -/
structure CandidateRow where
  keys : List Bytes
  failure : Option IndexError
  deriving Repr, DecidableEq

namespace CandidateRow

/-- The candidates that entries give one after another, up to the first that fails. -/
def ofEntries
    (found : Entry → Except IndexError (List Bytes)) :
    List Entry → CandidateRow
  | [] =>
      ⟨[], none⟩
  | entry :: rest =>
      match found entry with
      | .error error => ⟨[], some error⟩
      | .ok keys => ⟨keys ++ (ofEntries found rest).keys, (ofEntries found rest).failure⟩

/-- The row with some keys in front of it. -/
def prepend
    (keys : List Bytes)
    (row : CandidateRow) :
    CandidateRow :=
  ⟨keys ++ row.keys, row.failure⟩

variable
  {found : Entry → Except IndexError (List Bytes)}
  {entries : List Entry}

/-- If no entry fails, the row holds what they all give. -/
theorem ofEntries_of_ok
    {keys : Entry → List Bytes}
    (succeeds : ∀ entry ∈ entries, found entry = .ok (keys entry)) :
    ofEntries found entries = ⟨entries.flatMap keys, none⟩ := by
  induction entries with
  | nil =>
      rfl
  | cons entry rest inductionHypothesis =>
      have restSucceeds : ∀ other ∈ rest, found other = .ok (keys other) := by
        intro other member
        exact succeeds other (List.mem_cons_of_mem _ member)
      rw [ofEntries, succeeds entry List.mem_cons_self]
      simp [inductionHypothesis restSucceeds]

/-- If entries are kept or passed over, the row holds the keys of those that are kept. -/
theorem ofEntries_of_kept
    {keeps : Entry → Bool}
    (succeeds :
      ∀ entry ∈ entries, found entry = .ok (if keeps entry then [entry.1] else [])) :
    ofEntries found entries = ⟨(entries.filter keeps).map Prod.fst, none⟩ := by
  rw [ofEntries_of_ok succeeds]
  congr 1
  induction entries with
  | nil =>
      rfl
  | cons entry rest inductionHypothesis =>
      have restKept :=
        inductionHypothesis fun other member => succeeds other (List.mem_cons_of_mem _ member)
      rw [List.flatMap_cons, restKept]
      cases kept : keeps entry <;> simp [kept]

/-- The row ends in a failure exactly if one of the entries fails. -/
theorem failure_ofEntries :
    (ofEntries found entries).failure.isSome ↔
      ∃ entry ∈ entries, ∃ error, found entry = .error error := by
  induction entries with
  | nil =>
      simp [ofEntries]
  | cons entry rest inductionHypothesis =>
      rw [ofEntries, List.exists_mem_cons_iff, ← inductionHypothesis]
      rcases found entry with error | keys <;> simp

end CandidateRow

namespace Scan

variable
  {R C : Type}
  (store : Store)
  (postings : Codec PostingList)
  (records : Codec R)
  (scan : Scan R C)

/-- How a record is judged under the query; it is not read if nothing is asked of it. -/
def verdict
    (entry : Entry) :
    Except IndexError Bool :=
  if scan.query.hasCriteria then
    match records.decode entry.2 with
    | .error failure => .error (.codec failure)
    | .ok record => scan.schema.judgeAll (scan.query.questions (scan.stripped entry.1) record)
  else
    .ok true

/-- The candidates that an entry under the lead gives in a transaction. -/
def found
    (entry : Entry) :
    Except IndexError (List Bytes) :=
  match scan.path with
  | .primaryKeyScan =>
      match scan.verdict records entry with
      | .error error => .error error
      | .ok accepted => .ok (if accepted then [entry.1] else [])
  | .fullScan =>
      .ok [entry.1]
  | .indexedLookup index =>
      match scan.schema.accepts scan.query.targetCriteria
          (.indexEntry index (scan.stripped entry.1)) with
      | .error error => .error error
      | .ok false => .ok []
      | .ok true =>
          match postings.decode entry.2 with
          | .error failure => .error (.codec failure)
          | .ok list => .ok list.keys

/-- The row of the entries that lie ahead under the lead. -/
def row
    (ahead : List Entry) :
    CandidateRow :=
  CandidateRow.ofEntries (scan.found postings records)
    (ahead.takeWhile fun entry => entry.1.startsWith scan.lead)

/-- What is left of the row: the keys that wait, and what lies ahead of the cursor. -/
def left
    (transaction : Transaction)
    (progress : Progress)
    (ahead : List Entry) :
    CandidateRow :=
  CandidateRow.prepend progress.pending
    (scan.row postings records
      (if progress.positioned then
        ahead
      else
        transaction.entriesWithin store (.atLeast scan.lead)))

end Scan

section Candidates

variable
  {R C : Type}
  (store : Store)
  (postings : Codec PostingList)
  (records : Codec R)
  (scan : Scan R C)
  (transaction : Transaction)

/-- A question in a transaction is answered by the schema and changes nothing. -/
theorem outcome_judge
    (schema : Schema R C)
    (question : Question R C) :
    outcome
        ((Transaction.environment store postings records).judge schema question.criteria
          question.candidate)
        transaction =
      (schema.reply question, transaction) :=
  rfl

theorem outcome_fieldsMatch
    (key : Bytes)
    (record : R)
    (fields : List (String × List C)) :
    outcome
        (scan.fieldsMatch (Transaction.environment store postings records) key record fields)
        transaction =
      (scan.schema.judgeAll (fields.map fun field => ⟨field.2, .recordField field.1 key record⟩),
        transaction) := by
  induction fields with
  | nil =>
      rfl
  | cons field rest inductionHypothesis =>
      have judged :=
        outcome_judge store postings records transaction scan.schema
          ⟨field.2, .recordField field.1 key record⟩
      rw [Scan.fieldsMatch, outcome_bind, judged, List.map_cons, Schema.judgeAll]
      rcases scan.schema.reply ⟨field.2, .recordField field.1 key record⟩ with
        error | (accepted | accepted)
      · rfl
      · rfl
      · exact inductionHypothesis

/-- Judging a record in a transaction changes nothing. -/
theorem outcome_recordMatches
    (entry : Entry) :
    outcome (scan.recordMatches (Transaction.environment store postings records) entry)
        transaction =
      (scan.verdict records entry, transaction) := by
  rw [Scan.recordMatches, Scan.verdict]
  split
  · rcases decoded : records.decode entry.2 with failure | record
    · rw [outcome_bind]
      simp only [Transaction.environment, decoded]
      rfl
    · have judged :=
        outcome_judge store postings records transaction scan.schema
          ⟨scan.query.keyCriteria, .recordKey (scan.stripped entry.1) record⟩
      have read :
          outcome
              (Action.ofCodec
                ((Transaction.environment (C := C) store postings records).decodeRecord entry.2))
              transaction =
            (.ok record, transaction) :=
        outcome_ofCodec_ok.2 ⟨decoded, rfl⟩
      rw [outcome_bind, read]
      dsimp only
      rw [outcome_bind, judged, Query.questions, Schema.judgeAll]
      rcases scan.schema.reply
          ⟨scan.query.keyCriteria, .recordKey (scan.stripped entry.1) record⟩ with
        error | (accepted | accepted)
      · rfl
      · rfl
      · exact outcome_fieldsMatch ..
  · rfl

/-- What a scan makes of an entry depends on the entry alone, and changes nothing. -/
theorem outcome_candidates
    (entry : Entry) :
    outcome (scan.candidates (Transaction.environment store postings records) entry) transaction =
      (scan.found postings records entry, transaction) := by
  rw [Scan.candidates, Scan.found]
  rcases scan.path with _ | _ | index
  · dsimp only
    rw [outcome_bind, outcome_recordMatches]
    rcases scan.verdict records entry with error | (accepted | accepted) <;> rfl
  · rfl
  · have judged :=
      outcome_judge store postings records transaction scan.schema
        ⟨scan.query.targetCriteria, .indexEntry index (scan.stripped entry.1)⟩
    dsimp only
    rw [outcome_bind, judged, Schema.reply]
    rcases scan.schema.accepts scan.query.targetCriteria
        (.indexEntry index (scan.stripped entry.1)) with
      error | (accepted | accepted)
    · rfl
    · rfl
    · dsimp only
      rw [if_pos rfl, outcome_bind]
      rcases decoded : postings.decode entry.2 with failure | list
      · simp only [Transaction.environment, decoded]
        rfl
      · simp only [Transaction.environment, decoded]
        rfl

end Candidates

/-- What a walk without error has gathered, and what it leaves, make up the row. -/
structure Gathered.Splits
    (gathered : Gathered)
    (row rest : CandidateRow)
    (room : Nat) :
    Prop where
  row : row = (rest.prepend gathered.pending).prepend gathered.keys
  bounded : gathered.keys.length ≤ room
  full : gathered.keys.length < room → gathered.pending = [] ∧ rest = ⟨[], none⟩

/-- A walk that goes on behind an entry takes of its keys as many as there is room for. -/
theorem Gathered.Splits.after
    {later : Gathered}
    {row rest : CandidateRow}
    {room : Nat}
    (keys : List Bytes)
    (splits : later.Splits row rest (room - keys.length)) :
    Gathered.Splits
      ⟨keys.take room ++ later.keys, keys.drop room ++ later.pending, later.ahead, later.error⟩
      (row.prepend keys) rest room where
  row := by
    rw [splits.row]
    by_cases fits : keys.length ≤ room
    · simp [CandidateRow.prepend, List.take_of_length_le fits, List.drop_of_length_le fits]
    · have noMore : later.keys = [] := by
        have bounded := splits.bounded
        apply List.eq_nil_of_length_eq_zero
        omega
      simp only [CandidateRow.prepend, noMore, List.nil_append, List.append_nil]
      rw [List.append_assoc, ← List.append_assoc (keys.take room), List.take_append_drop]
  bounded := by
    have bounded := splits.bounded
    simp only [List.length_append, List.length_take]
    omega
  full := by
    intro someRoom
    simp only [List.length_append, List.length_take] at someRoom
    obtain ⟨noPending, ended⟩ := splits.full (by omega)
    refine ⟨?_, ended⟩
    rw [noPending, List.append_nil]
    exact List.drop_of_length_le (by omega)

/-- Keys that wait are handed out before those that are gathered behind them. -/
theorem Gathered.Splits.handed
    {gathered : Gathered}
    {row rest : CandidateRow}
    {pending : List Bytes}
    {size : Nat}
    (splits : gathered.Splits row rest (size - (pending.take size).length)) :
    pending.take size ++ gathered.keys = (row.prepend pending).keys.take size ∧
      rest.prepend (pending.drop size ++ gathered.pending) =
        ⟨(row.prepend pending).keys.drop size, row.failure⟩ ∧
      ((row.prepend pending).keys.length < size → row.failure = none) := by
  have bounded := splits.bounded
  have full := splits.full
  rw [List.length_take] at bounded full
  rw [splits.row]
  by_cases fits : pending.length < size
  · have all : pending.take size = pending := List.take_of_length_le (Nat.le_of_lt fits)
    have none : pending.drop size = [] := List.drop_of_length_le (Nat.le_of_lt fits)
    rw [all, none]
    by_cases noRoom : (pending ++ gathered.keys).length = size
    · have shape :
          ((rest.prepend gathered.pending).prepend gathered.keys).prepend pending =
            (rest.prepend gathered.pending).prepend (pending ++ gathered.keys) := by
        simp [CandidateRow.prepend]
      rw [shape]
      refine ⟨(List.take_left' noRoom).symm, ?_, ?_⟩
      · simp only [CandidateRow.prepend, List.drop_left' noRoom, List.nil_append]
      · intro few
        simp only [CandidateRow.prepend, List.length_append] at few noRoom
        omega
    · rw [List.length_append] at noRoom
      obtain ⟨noPending, ended⟩ := full (by omega)
      have short : (pending ++ gathered.keys).length ≤ size := by
        rw [List.length_append]
        omega
      subst ended
      simp [CandidateRow.prepend, noPending, List.take_of_length_le short,
        List.drop_of_length_le short]
  · have noKeys : gathered.keys = [] := by
      apply List.eq_nil_of_length_eq_zero
      omega
    have enough : size ≤ pending.length := Nat.not_lt.1 fits
    refine ⟨?_, ?_, ?_⟩
    · rw [noKeys, List.append_nil]
      exact (List.take_append_of_le_length enough).symm
    · simp [CandidateRow.prepend, noKeys, List.drop_append_of_le_length enough]
    · intro few
      simp only [CandidateRow.prepend, List.length_append] at few
      omega

section Pull

variable
  {R C : Type}
  (store : Store)
  (postings : Codec PostingList)
  (records : Codec R)
  (scan : Scan R C)
  (transaction : Transaction)

section Walk

variable
  {store postings records scan transaction}
  {room : Nat}

/-- A walk stops at once if there is no room, or no entry under the lead. -/
theorem gather_stops
    {ahead : List Entry}
    (stops : room = 0 ∨ (ahead.takeWhile fun entry => entry.1.startsWith scan.lead) = []) :
    scan.gather (Transaction.environment store postings records) room ahead transaction =
      (⟨[], [], ahead, none⟩, transaction) := by
  cases ahead with
  | nil =>
      rfl
  | cons entry rest =>
      have stopsHere : room = 0 ∨ entry.1.startsWith scan.lead = false := by
        refine stops.imp_right ?_
        intro noEntry
        rw [List.takeWhile_cons] at noEntry
        cases under : entry.1.startsWith scan.lead with
        | false =>
            rfl
        | true =>
            rw [under] at noEntry
            cases noEntry
      simp only [Scan.gather, if_pos stopsHere]
      rfl

/-- A walk on from an entry under the lead goes by what the entry gives. -/
theorem gather_cons
    {entry : Entry}
    {rest : List Entry}
    (someRoom : room ≠ 0)
    (under : entry.1.startsWith scan.lead = true) :
    scan.gather (Transaction.environment store postings records) room (entry :: rest) transaction =
      match scan.found postings records entry with
      | .error error => (⟨[], [], entry :: rest, some error⟩, transaction)
      | .ok keys =>
          let (later, after) :=
            scan.gather (Transaction.environment store postings records) (room - keys.length) rest
              transaction
          (⟨keys.take room ++ later.keys, keys.drop room ++ later.pending, later.ahead,
            later.error⟩, after) := by
  have goesOn : ¬ (room = 0 ∨ entry.1.startsWith scan.lead = false) := by
    simp [someRoom, under]
  have answer :
      scan.candidates (Transaction.environment store postings records) entry transaction =
        (scan.found postings records entry, transaction) :=
    outcome_candidates store postings records scan transaction entry
  simp only [Scan.gather, if_neg goesOn, ExceptT.run, bind, StateT.bind, answer]
  cases scan.found postings records entry <;> rfl

end Walk

/-- A walk changes nothing; it fails if the row does, or else it takes its part off the row. -/
theorem gather_row
    (room : Nat)
    (ahead : List Entry) :
    ∃ gathered,
      scan.gather (Transaction.environment store postings records) room ahead transaction =
          (gathered, transaction) ∧
        match gathered.error with
        | some error => (scan.row postings records ahead).failure = some error
        | none =>
            gathered.Splits (scan.row postings records ahead)
              (scan.row postings records gathered.ahead) room := by
  induction ahead generalizing room with
  | nil =>
      exact ⟨_, rfl, rfl, Nat.zero_le _, fun _ => ⟨rfl, rfl⟩⟩
  | cons entry rest inductionHypothesis =>
      by_cases stops :
        room = 0 ∨ ((entry :: rest).takeWhile fun entry => entry.1.startsWith scan.lead) = []
      · refine ⟨_, gather_stops stops, rfl, Nat.zero_le _, ?_⟩
        intro someRoom
        rcases stops with noRoom | noEntry
        · exact absurd noRoom (Nat.ne_of_gt someRoom)
        · refine ⟨rfl, ?_⟩
          rw [Scan.row, noEntry]
          rfl
      · obtain ⟨someRoom, someEntry⟩ := not_or.1 stops
        have under : entry.1.startsWith scan.lead = true := by
          by_contra notUnder
          exact someEntry (List.takeWhile_cons_of_neg notUnder)
        have shape :
            scan.row postings records (entry :: rest) =
              match scan.found postings records entry with
              | .error error => ⟨[], some error⟩
              | .ok keys => (scan.row postings records rest).prepend keys := by
          rw [Scan.row, List.takeWhile_cons, under]
          rfl
        rw [shape, gather_cons someRoom under]
        rcases scan.found postings records entry with error | keys
        · exact ⟨_, rfl, rfl⟩
        · obtain ⟨later, walked, restSplits⟩ := inductionHypothesis (room - keys.length)
          dsimp only
          rw [walked]
          refine ⟨_, rfl, ?_⟩
          dsimp only
          rcases failed : later.error with none | error
          · rw [failed] at restSplits
            have splits := restSplits.after keys
            rw [failed] at splits
            exact splits
          · rw [failed] at restSplits
            exact restSplits

/-- What is reported of the keys that there are for a batch. -/
def Pull.ofKeys
    (keys : List Bytes) :
    Pull :=
  if keys.isEmpty then .finished else .batch keys

/-- A pull changes nothing; it fails if the row does, or else it takes a batch off the row. -/
theorem pull_row
    {left : CandidateRow}
    (progress : Progress)
    (ahead : List Entry)
    (isLeft : scan.left store postings records transaction progress ahead = left) :
    ∃ pulled,
      scan.pull (Transaction.environment store postings records) progress ahead transaction =
          (pulled, transaction) ∧
        ((∃ error, pulled.outcome = .error error ∧ left.failure = some error) ∨
          pulled.outcome = .ok (.ofKeys (left.keys.take scan.batchSize)) ∧
            scan.left store postings records transaction pulled.producer pulled.ahead =
              ⟨left.keys.drop scan.batchSize, left.failure⟩ ∧
            (left.keys.length < scan.batchSize → left.failure = none)) := by
  subst isLeft
  obtain ⟨positioned, pending⟩ := progress
  obtain ⟨gathered, walked, splits⟩ :=
    gather_row store postings records scan transaction
      (scan.batchSize - (pending.take scan.batchSize).length)
      (if positioned then ahead else transaction.entriesWithin store (.atLeast scan.lead))
  refine
    ⟨⟨Scan.outcome (pending.take scan.batchSize) gathered,
      ⟨true, pending.drop scan.batchSize ++ gathered.pending⟩, gathered.ahead⟩, ?_, ?_⟩
  · have pulls :
        scan.pull (Transaction.environment store postings records) ⟨positioned, pending⟩ ahead
            transaction =
          (let (gathered, after) :=
            scan.gather (Transaction.environment store postings records)
              (scan.batchSize - (pending.take scan.batchSize).length)
              (if positioned then ahead else transaction.entriesWithin store (.atLeast scan.lead))
              transaction
          (⟨Scan.outcome (pending.take scan.batchSize) gathered,
            ⟨true, pending.drop scan.batchSize ++ gathered.pending⟩, gathered.ahead⟩, after)) := by
      cases positioned <;> rfl
    rw [pulls, walked]
  · rcases failed : gathered.error with none | error
    · right
      rw [failed] at splits
      obtain ⟨handed, leaves, stops⟩ := splits.handed
      have left :
          scan.left store postings records transaction ⟨positioned, pending⟩ ahead =
            (scan.row postings records
              (if positioned then ahead
                else transaction.entriesWithin store (.atLeast scan.lead))).prepend pending := rfl
      rw [left, ← handed]
      refine ⟨?_, leaves, stops⟩
      simp only [Scan.outcome, failed, Pull.ofKeys]
      split <;> rfl
    · left
      rw [failed] at splits
      refine ⟨error, ?_, splits⟩
      simp only [Scan.outcome, failed]

/-- What a pull hands out, and what it leaves of the row. -/
def Pulled.Takes
    (size : Nat)
    (left rest : CandidateRow)
    (pulled : Pulled Progress) :
    Prop :=
  match pulled.outcome with
  | .error error =>
      left.failure = some error
  | .ok .finished =>
      left = ⟨[], none⟩
  | .ok (.batch keys) =>
      keys ≠ [] ∧ keys = left.keys.take size ∧ rest = ⟨left.keys.drop size, left.failure⟩

/-- A pull takes the next batch off what is left of the row. -/
theorem pull_left
    (progress : Progress)
    (ahead : List Entry)
    (batch : 0 < scan.batchSize) :
    ∃ pulled,
      scan.pull (Transaction.environment store postings records) progress ahead transaction =
          (pulled, transaction) ∧
        pulled.Takes scan.batchSize
          (scan.left store postings records transaction progress ahead)
          (scan.left store postings records transaction pulled.producer pulled.ahead) := by
  obtain ⟨pulled, pulls, takes⟩ :=
    pull_row store postings records scan transaction progress ahead rfl
  refine ⟨pulled, pulls, ?_⟩
  rw [Pulled.Takes]
  rcases takes with ⟨error, fails, failed⟩ | ⟨hands, leaves, stops⟩
  · simp only [fails]
    exact failed
  · rw [hands, Pull.ofKeys]
    rcases shape :
        (scan.left store postings records transaction progress ahead).keys.take
          scan.batchSize with
      nil | ⟨key, keys⟩
    · have noKeys := (List.take_eq_nil_iff.1 shape).resolve_left (Nat.ne_of_gt batch)
      refine congrArg₂ CandidateRow.mk noKeys (stops ?_)
      rw [noKeys]
      exact batch
    · exact ⟨List.cons_ne_nil _ _, rfl, leaves⟩

/-- As long as the row has no failure, a pull hands out the next keys, or none if there are none. -/
theorem pull_of_sound
    {keys : List Bytes}
    (progress : Progress)
    (ahead : List Entry)
    (sound : scan.left store postings records transaction progress ahead = ⟨keys, none⟩) :
    ∃ producer further,
      scan.pull (Transaction.environment store postings records) progress ahead transaction =
          (⟨.ok (.ofKeys (keys.take scan.batchSize)), producer, further⟩, transaction) ∧
        scan.left store postings records transaction producer further =
          ⟨keys.drop scan.batchSize, none⟩ := by
  obtain ⟨⟨result, producer, further⟩, pulls, takes⟩ :=
    pull_row store postings records scan transaction progress ahead sound
  rcases takes with ⟨error, -, failed⟩ | ⟨hands, leaves, -⟩
  · cases failed
  · cases hands
    exact ⟨producer, further, pulls, leaves⟩

end Pull

end SecondaryIndex
