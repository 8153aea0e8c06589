import SecondaryIndex.Proofs.KeyLayout
import SecondaryIndex.Proofs.Query.Exhaustion

namespace SecondaryIndex

/-!
# Scans of the entries of an index

An indexed lookup is selected for the target of a query and judges the criteria
of the target only.  Its scan takes the candidates from the entries of the index,
so what it hands out depends on no other part of the query.
-/

open Versioned

section Selection

variable
  {R C : Type}
  {store : Store}
  {postings : Codec PostingList}
  {records : Codec R}
  {layout : KeyLayout}
  {schema : Schema R C}
  {query other : Query C}
  {transaction : Transaction}

/-- The path depends on the target and its criteria, and on no other part of the query. -/
theorem selectPath_congr
    {σ : Type}
    (environment : Environment σ R C)
    (sameTarget : query.target = other.target)
    (sameCriteria : query.targetCriteria = other.targetCriteria) :
    environment.selectPath layout schema query = environment.selectPath layout schema other := by
  simp only [Environment.selectPath, Environment.pathThrough, sameTarget, sameCriteria]

/-- A query in key order is answered by a scan by primary key. -/
theorem selectPath_primaryKey
    (inKeyOrder : query.target = .primaryKey) :
    outcome ((Transaction.environment store postings records).selectPath layout schema query)
        transaction =
      (.ok .primaryKeyScan, transaction) := by
  rw [Environment.selectPath, inKeyOrder]
  rfl

/-- An index only answers under a type name without delimiter; asking it changes nothing. -/
theorem indexAnswers_ok
    {typeName index : String}
    {answers : Bool}
    {after : Transaction}
    (success :
      outcome ((Transaction.environment (C := C) store postings records).indexAnswers layout
          typeName index) transaction =
        (.ok answers, after)) :
    delimiter ∉ Bytes.ofText typeName ∧ after = transaction := by
  obtain ⟨lead, middle, leading, rest⟩ := outcome_bind_ok.1 success
  obtain ⟨isLead, rfl⟩ := Prod.mk.inj leading
  refine ⟨?_, ?_⟩
  · intro held
    rw [KeyLayout.recordLead, KeyLayout.checkedName_of_held held] at isLead
    cases isLead
  · obtain ⟨fromRecords, _, listed, rest⟩ := outcome_bind_ok.1 rest
    cases listed
    split at rest
    · obtain ⟨entryLead, _, leading, rest⟩ := outcome_bind_ok.1 rest
      obtain ⟨-, rfl⟩ := Prod.mk.inj leading
      obtain ⟨fromEntries, _, listed, rest⟩ := outcome_bind_ok.1 rest
      cases listed
      cases rest
      rfl
    · cases rest
      rfl

/-- An indexed lookup is only selected for its own target, under a type name without delimiter. -/
theorem selectPath_indexedLookup
    {index : String}
    (selected :
      (outcome ((Transaction.environment store postings records).selectPath layout schema query)
        transaction).1 =
        .ok (.indexedLookup index)) :
    outcome ((Transaction.environment store postings records).selectPath layout schema query)
        transaction =
      (.ok (.indexedLookup index), transaction) ∧
    query.target = .index index ∧ delimiter ∉ Bytes.ofText schema.typeName := by
  rcases ends :
      outcome ((Transaction.environment store postings records).selectPath layout schema query)
        transaction with
    ⟨result, after⟩
  rw [ends] at selected
  cases selected
  rw [Environment.selectPath] at ends
  cases target : query.target with
  | primaryKey =>
      rw [target] at ends
      cases ends
  | index name =>
      rw [target] at ends
      dsimp only at ends
      split at ends
      · cases ends
      · obtain ⟨path, _, chosen, rest⟩ := outcome_bind_ok.1 ends
        obtain ⟨_, _, logged, answered⟩ := outcome_bind_ok.1 rest
        cases logged
        cases answered
        obtain ⟨answers, _, asked, through⟩ := outcome_bind_ok.1 chosen
        obtain ⟨free, rfl⟩ := indexAnswers_ok asked
        cases answers with
        | false =>
            cases through
        | true =>
            obtain ⟨needs, _, inspected, through⟩ := outcome_bind_ok.1 through
            cases inspected
            split at through
            · cases through
            · cases through
              exact ⟨rfl, rfl, free⟩

end Selection

/-- The candidates that an index entry under the lead gives. -/
def Schema.lookUp
    {R C : Type}
    (schema : Schema R C)
    (postings : Codec PostingList)
    (index : String)
    (criteria : List C)
    (lead : Bytes)
    (entry : Entry) :
    Except IndexError (List Bytes) :=
  match schema.accepts criteria (.indexEntry index (entry.1.drop lead.length)) with
  | .error error => .error error
  | .ok false => .ok []
  | .ok true =>
      match postings.decode entry.2 with
      | .error failure => .error (.codec failure)
      | .ok list => .ok list.keys

/-- The candidates that an index entry gives, each with the value of the entry. -/
def Schema.labelled
    {R C : Type}
    (schema : Schema R C)
    (postings : Codec PostingList)
    (index : String)
    (criteria : List C)
    (lead : Bytes)
    (entry : Entry) :
    List (Bytes × Bytes) :=
  ((schema.lookUp postings index criteria lead entry).toOption.getD []).map fun key =>
    (entry.1.drop lead.length, key)

/-- An indexed lookup asks of a query no more than the criteria of its target. -/
theorem found_indexedLookup
    {R C : Type}
    (postings : Codec PostingList)
    (records : Codec R)
    (schema : Schema R C)
    (query : Query C)
    (index : String)
    (lead : Bytes)
    (size : Nat) :
    Scan.found postings records ⟨schema, query, .indexedLookup index, lead, size⟩ =
      schema.lookUp postings index query.targetCriteria lead :=
  rfl

/-- Whether exactly one index of a name is declared. -/
def Schema.DeclaresOnce
    {R C : Type}
    (schema : Schema R C)
    (index : String) :
    Prop :=
  (schema.indexes.countP fun declared => declared.name = index) = 1

theorem Schema.DeclaresOnce.unique
    {R C : Type}
    {schema : Schema R C}
    {index : String}
    {first second : DeclaredIndex R}
    (once : schema.DeclaresOnce index)
    (isDeclared : first ∈ schema.indexes)
    (named : first.name = index)
    (isDeclaredToo : second ∈ schema.indexes)
    (namedToo : second.name = index) :
    first = second := by
  rw [DeclaresOnce, List.countP_eq_length_filter] at once
  obtain ⟨only, all⟩ := List.length_eq_one_iff.1 once
  have isOnly (declared : DeclaredIndex R) (member : declared ∈ schema.indexes)
      (isNamed : declared.name = index) : declared = only := by
    rw [← List.mem_singleton, ← all]
    exact List.mem_filter.2 ⟨member, decide_eq_true isNamed⟩
  rw [isOnly first isDeclared named, isOnly second isDeclaredToo namedToo]

/-- An indexed lookup hands out the candidates of its entries with their records. -/
theorem outcome_indexedLookup
    {R C : Type}
    {store : Store}
    {postings : Codec PostingList}
    {records : Codec R}
    {transaction : Transaction}
    {layout : KeyLayout}
    {schema : Schema R C}
    {query : Query C}
    {index : String}
    {lead : Bytes}
    {entries : List Entry}
    {size : Nat}
    (isLead : layout.indexLead schema.typeName index = .ok lead)
    (batch : 1 ≤ size)
    (row :
      CandidateRow.ofEntries (schema.lookUp postings index query.targetCriteria lead)
          (transaction.entriesUnder store lead) =
        ⟨entries.map Prod.fst, none⟩)
    (stored : ∀ entry ∈ entries, transaction.get store entry.1 = some entry.2) :
    outcome
        ((Transaction.environment store postings records).runAlong (.indexedLookup index)
          { layout with batchSize := size } schema query)
        transaction =
      (.ok (entries, none), transaction) := by
  have isScan :
      Scan.along (.indexedLookup index) { layout with batchSize := size } schema query =
        .ok ⟨schema, query, .indexedLookup index, lead, size⟩ := by
    have sameLead :
        { layout with batchSize := size }.indexLead schema.typeName index = .ok lead :=
      isLead
    rw [Scan.along, sameLead]
    rfl
  obtain ⟨handed, failure, ends, yields⟩ :=
    outcome_runAlong store postings records transaction isScan batch
  rw [found_indexedLookup, row] at yields
  have whole := yields.whole rfl
  rw [resolved_of_present stored] at whole
  rw [ends, whole]

end SecondaryIndex
