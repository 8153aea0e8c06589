import SecondaryIndex.Proofs.KeySeparation
import SecondaryIndex.Proofs.Query.Locality

namespace SecondaryIndex

/-!
# Which path is selected

The path of a query is selected by seeking the leads of its type and of its index,
with one cursor and wherever the cursor stands.  Each time the cursor comes to stand
under the lead exactly if the view has something there.  So the path is settled by
the view, and differs between two views only where one of them has nothing under one
of the leads.
-/

open Versioned

namespace Versioned

/-- Only one row of entries lists what a map has within a bound. -/
theorem Lists.unique
    {view : Bytes → Option Bytes}
    {bound : Bound}
    {first second : List Entry}
    (isFirst : Lists view bound first)
    (isSecond : Lists view bound second) :
    first = second := by
  induction first generalizing bound second with
  | nil =>
      have sameHead : none = second.head? := isFirst.firstIn.unique isSecond.firstIn
      exact (List.head?_eq_none_iff.1 sameHead.symm).symm
  | cons head rest inductionHypothesis =>
      have sameHead : some head = second.head? := isFirst.firstIn.unique isSecond.firstIn
      cases second with
      | nil =>
          cases sameHead
      | cons other others =>
          cases sameHead
          rw [inductionHypothesis isFirst.tail isSecond.tail]

namespace Cursor

variable
  {store : Store}
  {transaction : Transaction}
  {lead : Bytes}

/-- The entries that a cursor still comes to: the one that it stands on, and those behind. -/
def ahead
    (store : Store)
    (transaction : Transaction)
    (cursor : Cursor) :
    List Entry :=
  match cursor.current with
  | some entry => entry :: transaction.entriesWithin store (.above entry.1)
  | none => []

/-- A cursor that has been positioned comes to the entries from the key on. -/
theorem ahead_seek
    (store : Store)
    (transaction : Transaction)
    (key : Bytes) :
    (seek store transaction key).ahead store transaction =
      transaction.entriesWithin store (.atLeast key) := by
  have lists := transaction.lists_entriesWithin store (.atLeast key)
  rw [ahead, seek, Transaction.firstWithin_eq_head?]
  cases listing : transaction.entriesWithin store (.atLeast key) with
  | nil =>
      rfl
  | cons entry rest =>
      rw [listing] at lists
      have behind := transaction.lists_entriesWithin store (.above entry.1)
      exact congrArg (List.cons entry) (behind.unique lists.tail)

/-- Whether entries begin under a lead is told from where the cursor stands. -/
theorem beginsUnder_ahead
    (cursor : Cursor) :
    beginsUnder lead (cursor.ahead store transaction) = cursor.validFor lead := by
  rw [ahead, validFor]
  cases cursor.current <;> rfl

/-- A cursor that seeks a lead comes to stand under it exactly if the view has something there. -/
theorem validFor_seek_iff :
    (seek store transaction lead).validFor lead ↔
      ∃ key, key.startsWith lead ∧ (transaction.get store key).isSome := by
  have isFirst := seek_firstIn store transaction lead
  rw [validFor]
  cases stands : (seek store transaction lead).current with
  | none =>
      rw [stands] at isFirst
      refine iff_of_false Bool.false_ne_true ?_
      rintro ⟨key, under, present⟩
      rw [isFirst key (Bytes.le_of_startsWith under)] at present
      cases present
  | some entry =>
      rw [stands] at isFirst
      obtain ⟨behind, stored, least⟩ := isFirst
      rw [Option.any_some]
      constructor
      · intro under
        exact ⟨entry.1, under, by rw [stored]; rfl⟩
      · rintro ⟨key, under, present⟩
        rcases Std.lt_trichotomy entry.1 key with before | rfl | after
        · exact Bytes.startsWith_of_between behind before under
        · exact under
        · rw [least key (Bytes.le_of_startsWith under) after] at present
          cases present

end Cursor

/-- The services of a transaction, with a cursor that is sent to the entries. -/
def Transaction.seeking
    {R C : Type}
    (store : Store)
    (postings : Codec PostingList)
    (records : Codec R) :
    Environment (Transaction × Cursor) R C :=
  { (Transaction.environment store postings records).beside Cursor with
    entriesFrom := fun key state =>
      let cursor := Cursor.seek store state.1 key
      (cursor.ahead store state.1, (state.1, cursor)) }

end Versioned

section Shadows

variable
  {σ τ R C : Type}
  {environment : Environment (σ × τ) R C}
  {plain : Environment σ R C}
  {layout : KeyLayout}

/-- Where entries are listed as in a plain environment, an index answers as it does there. -/
theorem indexAnswers_shadows
    (lists :
      ∀ key,
        Shadows (liftM (environment.entriesFrom key) : Action (σ × τ) (List Entry))
          (liftM (plain.entriesFrom key) : Action σ (List Entry)))
    (typeName index : String) :
    Shadows (environment.indexAnswers layout typeName index)
      (plain.indexAnswers layout typeName index) := by
  refine .bind (.ofExcept _) fun records => .bind (lists records) fun fromRecords => ?_
  split
  · exact .bind (.ofExcept _) fun entries => .bind (lists entries) fun _ => .pure _
  · exact .pure _

/-- Where entries are listed as in a plain environment, the path is selected as it is there. -/
theorem selectPath_shadows
    (lists :
      ∀ key,
        Shadows (liftM (environment.entriesFrom key) : Action (σ × τ) (List Entry))
          (liftM (plain.entriesFrom key) : Action σ (List Entry)))
    (reports :
      ∀ event,
        Shadows (liftM (environment.report event) : Action (σ × τ) Unit)
          (liftM (plain.report event) : Action σ Unit))
    (schema : Schema R C)
    (query : Query C) :
    Shadows (environment.selectPath layout schema query)
      (plain.selectPath layout schema query) := by
  have logged (path : AccessPath) :
      Shadows
        (do
          environment.log (.pathSelected schema.typeName path)
          return path)
        (do
          plain.log (.pathSelected schema.typeName path)
          return path) :=
    .bind (reports _) fun _ => .pure path
  rw [Environment.selectPath, Environment.selectPath]
  cases query.target with
  | primaryKey =>
      exact .bind (.pure _) logged
  | index name =>
      dsimp only
      split
      · exact .bind (.ofExcept (.error _)) logged
      · refine .bind (.bind (indexAnswers_shadows lists _ _) fun answers => ?_) logged
        cases answers with
        | false =>
            exact .pure _
        | true =>
            refine .bind (.bind (reports _) fun _ => .pure _) fun needs => ?_
            cases needs <;> exact .pure _

end Shadows

/-- Whether a map has something under a lead, which has to be one. -/
def HasUnder
    (lead : Except IndexError Bytes)
    (view : Bytes → Option Bytes) :
    Prop :=
  ∃ bytes key, lead = .ok bytes ∧ key.startsWith bytes ∧ (view key).isSome

/-- Whether a map has something under the lead of a type. -/
def KeyLayout.HasRecords
    (layout : KeyLayout)
    (view : Bytes → Option Bytes)
    (typeName : String) :
    Prop :=
  HasUnder (layout.recordLead typeName) view

/-- Whether a map has something under the lead of an index. -/
def KeyLayout.HasEntries
    (layout : KeyLayout)
    (view : Bytes → Option Bytes)
    (typeName index : String) :
    Prop :=
  HasUnder (layout.indexLead typeName index) view

namespace Schema

variable
  {R C : Type}
  {layout : KeyLayout}
  {schema : Schema R C}
  {query : Query C}
  {view : Bytes → Option Bytes}
  {index : String}

/-- Whether an index of a name is declared. -/
def Declares
    (schema : Schema R C)
    (index : String) :
    Prop :=
  ∃ declared ∈ schema.indexes, declared.name = index

theorem index?_eq_none_iff :
    schema.index? index = none ↔ ¬ schema.Declares index := by
  simp [index?, Declares, List.find?_eq_none]

/--
Whether a query through an index is left to a scan of all records: for its criteria,
or because the index has no entry although the type has records.
-/
def LeavesToScan
    (layout : KeyLayout)
    (schema : Schema R C)
    (query : Query C)
    (view : Bytes → Option Bytes)
    (index : String) :
    Prop :=
  schema.needsRecord (query.fieldCriteria.findD index []) = true ∨
    layout.HasRecords view schema.typeName ∧ ¬ layout.HasEntries view schema.typeName index

/-- What is chosen for a query where a map is seen. -/
structure Chooses
    (layout : KeyLayout)
    (schema : Schema R C)
    (query : Query C)
    (view : Bytes → Option Bytes)
    (result : Except IndexError AccessPath) :
    Prop where
  unknown :
    ∀ error,
      result = .error error ↔
        ∃ index,
          query.target = .index index ∧
            ¬ schema.Declares index ∧ error = .unknownIndex schema.typeName index
  inKeyOrder : result = .ok .primaryKeyScan ↔ query.target = .primaryKey
  inFull :
    result = .ok .fullScan ↔
      ∃ index,
        query.target = .index index ∧
          schema.Declares index ∧ schema.LeavesToScan layout query view index
  lookedUp :
    ∀ index,
      result = .ok (.indexedLookup index) ↔
        query.target = .index index ∧
          schema.Declares index ∧ ¬ schema.LeavesToScan layout query view index

namespace Chooses

variable {result other : Except IndexError AccessPath}

/-- Where a map is seen, there is only one choice. -/
theorem unique
    (chooses : schema.Chooses layout query view result)
    (choosesToo : schema.Chooses layout query view other) :
    result = other := by
  rcases result with error | (_ | _ | index)
  · exact ((choosesToo.unknown error).2 ((chooses.unknown error).1 rfl)).symm
  · exact (choosesToo.inKeyOrder.2 (chooses.inKeyOrder.1 rfl)).symm
  · exact (choosesToo.inFull.2 (chooses.inFull.1 rfl)).symm
  · exact ((choosesToo.lookedUp index).2 ((chooses.lookedUp index).1 rfl)).symm

theorem of_primaryKey
    (target : query.target = .primaryKey) :
    schema.Chooses layout query view (.ok .primaryKeyScan) := by
  constructor <;> simp [target]

theorem of_undeclared
    (target : query.target = .index index)
    (undeclared : ¬ schema.Declares index) :
    schema.Chooses layout query view (.error (.unknownIndex schema.typeName index)) := by
  constructor <;> simp_all [eq_comm]

/-- A query through a declared index is answered by the index, unless it is left to a scan. -/
theorem of_declared
    {path : AccessPath}
    (target : query.target = .index index)
    (declared : schema.Declares index)
    (path_full : schema.LeavesToScan layout query view index → path = .fullScan)
    (path_lookup : ¬ schema.LeavesToScan layout query view index → path = .indexedLookup index) :
    schema.Chooses layout query view (.ok path) := by
  by_cases left : schema.LeavesToScan layout query view index
  · cases path_full left
    constructor <;> simp_all
  · cases path_lookup left
    constructor <;> simp_all [eq_comm]

end Chooses

end Schema

section Choice

variable
  {R C : Type}
  {store : Store}
  {transaction : Transaction}
  {postings : Codec PostingList}
  {records : Codec R}
  {layout : KeyLayout}
  {schema : Schema R C}
  {query : Query C}

/-- Entries begin under a lead exactly if the view has something there. -/
theorem beginsUnder_iff
    {lead : Bytes} :
    beginsUnder lead (transaction.entriesWithin store (.atLeast lead)) = true ↔
      HasUnder (.ok lead) (transaction.get store) := by
  rw [← Cursor.ahead_seek, Cursor.beginsUnder_ahead, Cursor.validFor_seek_iff]
  simp [HasUnder]

/-- An index does not answer exactly if it has no entry although the type has records. -/
theorem indexAnswers_iff
    {typeName index : String}
    (free : delimiter ∉ Bytes.ofText typeName)
    (indexFree : delimiter ∉ Bytes.ofText index) :
    ∃ answers,
      outcome
          ((Transaction.environment (C := C) store postings records).indexAnswers layout typeName
            index)
          transaction =
        (.ok answers, transaction) ∧
      (answers = true ↔
        ¬ (layout.HasRecords (transaction.get store) typeName ∧
          ¬ layout.HasEntries (transaction.get store) typeName index)) := by
  obtain ⟨recordLead, isRecordLead, -⟩ := layout.builds.records free
  obtain ⟨indexLead, isIndexLead, -⟩ := layout.builds.entries free indexFree
  refine ⟨_, outcome_indexAnswers isRecordLead isIndexLead, ?_⟩
  rw [KeyLayout.HasRecords, KeyLayout.HasEntries, isRecordLead, isIndexLead, ← beginsUnder_iff,
    ← beginsUnder_iff]
  simp only [Bool.or_eq_true, Bool.not_eq_true', ← Bool.not_eq_true]
  tauto

/-- A query goes through its index if the index answers and no criterion on it needs a record. -/
theorem outcome_pathThrough
    {index : String}
    {answers : Bool}
    (asked :
      outcome
          ((Transaction.environment (C := C) store postings records).indexAnswers layout
            schema.typeName index)
          transaction =
        (.ok answers, transaction)) :
    outcome
        ((Transaction.environment store postings records).pathThrough layout schema query index)
        transaction =
      (.ok
        (if answers = true ∧ schema.needsRecord query.targetCriteria = false then
          .indexedLookup index
        else
          .fullScan),
        transaction) := by
  have inspected :
      outcome
          ((Transaction.environment store postings records).needsRecord schema
            query.targetCriteria)
          transaction =
        (.ok (schema.needsRecord query.targetCriteria), transaction) :=
    rfl
  rw [Environment.pathThrough, outcome_bind, asked]
  cases answers with
  | false =>
      rfl
  | true =>
      dsimp only
      rw [if_pos rfl, outcome_bind, inspected]
      cases schema.needsRecord query.targetCriteria <;> rfl

/-- A path is chosen by what the view has under the leads, and the transaction is left alone. -/
theorem selectPath_chooses
    (store : Store)
    (transaction : Transaction)
    (postings : Codec PostingList)
    (records : Codec R)
    (layout : KeyLayout)
    (query : Query C)
    (free : delimiter ∉ Bytes.ofText schema.typeName)
    (indexesFree : ∀ declared ∈ schema.indexes, delimiter ∉ Bytes.ofText declared.name) :
    ∃ result,
      outcome ((Transaction.environment store postings records).selectPath layout schema query)
          transaction =
        (result, transaction) ∧
      schema.Chooses layout query (transaction.get store) result := by
  cases target : query.target with
  | primaryKey =>
      exact ⟨_, selectPath_primaryKey target, .of_primaryKey target⟩
  | index index =>
      rw [Environment.selectPath, target]
      dsimp only
      by_cases declares : schema.Declares index
      · have freeToo : delimiter ∉ Bytes.ofText index := by
          obtain ⟨declared, isDeclared, rfl⟩ := declares
          exact indexesFree declared isDeclared
        obtain ⟨answers, asked, answers_iff⟩ := indexAnswers_iff free freeToo
        have criteria : query.targetCriteria = query.fieldCriteria.findD index [] := by
          rw [Query.targetCriteria, target]
        have stays :
            answers = true ∧ schema.needsRecord query.targetCriteria = false ↔
              ¬ schema.LeavesToScan layout query (transaction.get store) index := by
          rw [answers_iff, criteria, ← Bool.not_eq_true, Schema.LeavesToScan, not_or, and_comm]
        rw [if_neg (by simp [Schema.index?_eq_none_iff, declares]), outcome_bind,
          outcome_pathThrough asked]
        refine ⟨_, rfl, .of_declared target declares ?_ ?_⟩
        · intro leaves
          exact if_neg fun answered => stays.1 answered leaves
        · intro answered
          exact if_pos (stays.2 answered)
      · rw [if_pos (by simp [Schema.index?_eq_none_iff, declares])]
        exact ⟨_, rfl, .of_undeclared target declares⟩

/-- The cursor may stand anywhere: where it is sent, the same path is chosen. -/
theorem selectPath_seeking
    (store : Store)
    (transaction : Transaction)
    (postings : Codec PostingList)
    (records : Codec R)
    (layout : KeyLayout)
    (schema : Schema R C)
    (query : Query C)
    (cursor : Cursor) :
    ∃ after,
      outcome ((Transaction.seeking store postings records).selectPath layout schema query)
          (transaction, cursor) =
        ((outcome ((Transaction.environment store postings records).selectPath layout schema query)
            transaction).1,
          ((outcome
              ((Transaction.environment store postings records).selectPath layout schema query)
              transaction).2,
            after)) := by
  refine selectPath_shadows ?_ ?_ schema query transaction cursor
  · intro key state other
    have listed :
        (.ok ((Cursor.seek store state key).ahead store state) : Except IndexError (List Entry)) =
          .ok (state.entriesWithin store (.atLeast key)) := by
      rw [Cursor.ahead_seek]
    exact
      ⟨Cursor.seek store state key,
        congrArg (fun entries => (entries, (state, Cursor.seek store state key))) listed⟩
  · exact fun event state other => ⟨other, rfl⟩

end Choice

end SecondaryIndex
