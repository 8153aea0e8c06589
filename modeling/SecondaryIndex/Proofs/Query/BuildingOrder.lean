import SecondaryIndex.Proofs.OrderedMap
import SecondaryIndex.Proofs.Query.IndexScan
import SecondaryIndex.Proofs.Query.MatchFunctions
import SecondaryIndex.Proofs.Versioned.Listing

namespace SecondaryIndex

/-!
# The order in which a query is built

A query is built clause by clause.  Of the clauses that designate an index the last
one counts; a criterion is asked of its key or field wherever it stands among the
others.  So the order of the clauses shows only in the order in which criteria are
evaluated, and with it in the failures that are come upon.
-/

open Versioned

namespace Query

/-- One step in building a query. -/
inductive Clause (C : Type) where
  | through (index : String)
  | whereKey (criterion : C)
  | whereField (field : String) (criterion : C)
  deriving Repr, DecidableEq

variable {C : Type}

namespace Clause

/-- Add a clause to a query. -/
def add
    (query : Query C) :
    Clause C → Query C
  | .through index =>
      query.through index
  | .whereKey criterion =>
      query.whereKey criterion
  | .whereField field criterion =>
      query.whereField field criterion

/-- The index that a clause designates. -/
def index? :
    Clause C → Option String
  | .through index =>
      some index
  | _ =>
      none

/-- The index that is designated last. -/
def lastIndex :
    List (Clause C) → Option String
  | [] =>
      none
  | clause :: rest =>
      (lastIndex rest).or clause.index?

end Clause

/-- The query that clauses build in their order. -/
def ofClauses
    (clauses : List (Clause C)) :
    Query C :=
  clauses.foldl Clause.add all

/-- Queries for the same target that ask the same of the key and of each field. -/
structure Alike
    (first second : Query C) :
    Prop where
  target : first.target = second.target
  onKey : ∀ criterion, criterion ∈ first.keyCriteria ↔ criterion ∈ second.keyCriteria
  onField :
    ∀ field criterion,
      criterion ∈ first.fieldCriteria.findD field [] ↔
        criterion ∈ second.fieldCriteria.findD field []

section Clauses

variable
  {query : Query C}
  {clause : Clause C}
  {clauses : List (Clause C)}
  {criterion : C}
  {field : String}

theorem target_add :
    (clause.add query).target = clause.index?.elim query.target .index := by
  cases clause <;> rfl

theorem mem_keyCriteria_add :
    criterion ∈ (clause.add query).keyCriteria ↔
      criterion ∈ query.keyCriteria ∨ .whereKey criterion = clause := by
  cases clause <;> simp [Clause.add, through, whereKey, whereField]

theorem mem_fieldCriteria_add :
    criterion ∈ (clause.add query).fieldCriteria.findD field [] ↔
      criterion ∈ query.fieldCriteria.findD field [] ∨ .whereField field criterion = clause := by
  cases clause with
  | through index | whereKey other =>
      simp [Clause.add, through, whereKey]
  | whereField name other =>
      by_cases same : field = name
      · subst same
        simp [Clause.add, whereField, OrderedMap.findD_insert]
      · simp [Clause.add, whereField, OrderedMap.findD_insert, same]

/-- The target of a query is what the last clause about it says. -/
theorem target_foldl
    (query : Query C)
    (clauses : List (Clause C)) :
    (clauses.foldl Clause.add query).target =
      (Clause.lastIndex clauses).elim query.target .index := by
  induction clauses generalizing query with
  | nil =>
      rfl
  | cons clause rest inductionHypothesis =>
      rw [List.foldl_cons, inductionHypothesis, target_add, Clause.lastIndex]
      cases Clause.lastIndex rest <;> rfl

/-- What clauses ask of the key is asked wherever they stand. -/
theorem mem_keyCriteria_foldl :
    criterion ∈ (clauses.foldl Clause.add query).keyCriteria ↔
      criterion ∈ query.keyCriteria ∨ .whereKey criterion ∈ clauses := by
  induction clauses generalizing query with
  | nil =>
      simp
  | cons clause rest inductionHypothesis =>
      rw [List.foldl_cons, inductionHypothesis, mem_keyCriteria_add, List.mem_cons, or_assoc]

/-- What clauses ask of a field is asked wherever they stand. -/
theorem mem_fieldCriteria_foldl :
    criterion ∈ (clauses.foldl Clause.add query).fieldCriteria.findD field [] ↔
      criterion ∈ query.fieldCriteria.findD field [] ∨ .whereField field criterion ∈ clauses := by
  induction clauses generalizing query with
  | nil =>
      simp
  | cons clause rest inductionHypothesis =>
      rw [List.foldl_cons, inductionHypothesis, mem_fieldCriteria_add, List.mem_cons, or_assoc]

/-- The order of the clauses does not matter, as long as the last index stays the last. -/
theorem alike_of_perm
    {first second : List (Clause C)}
    (permuted : first.Perm second)
    (sameIndex : Clause.lastIndex first = Clause.lastIndex second) :
    (ofClauses first).Alike (ofClauses second) where
  target := by
    rw [ofClauses, ofClauses, target_foldl, target_foldl, sameIndex]
  onKey criterion := by
    rw [ofClauses, ofClauses, mem_keyCriteria_foldl, mem_keyCriteria_foldl, permuted.mem_iff]
  onField field criterion := by
    rw [ofClauses, ofClauses, mem_fieldCriteria_foldl, mem_fieldCriteria_foldl, permuted.mem_iff]

end Clauses

section Asking

variable
  {R : Type}
  {query first second : Query C}

theorem asks_iff :
    query.Asks ↔
      (∃ criterion, criterion ∈ query.keyCriteria) ∨
        ∃ field criterion, criterion ∈ query.fieldCriteria.findD field [] := by
  constructor
  · rintro (someKey | ⟨⟨field, criteria⟩, listed, some⟩)
    · exact .inl (List.exists_mem_of_ne_nil _ someKey)
    · obtain ⟨criterion, member⟩ := List.exists_mem_of_ne_nil _ some
      exact .inr ⟨field, criterion, OrderedMap.mem_findD_nil_iff.2 ⟨criteria, listed, member⟩⟩
  · rintro (⟨criterion, member⟩ | ⟨field, criterion, asked⟩)
    · exact .inl (List.ne_nil_of_mem member)
    · obtain ⟨criteria, listed, member⟩ := OrderedMap.mem_findD_nil_iff.1 asked
      exact .inr ⟨(field, criteria), listed, List.ne_nil_of_mem member⟩

/-- What all questions of a query ask, criterion by criterion. -/
theorem forall_questions_iff
    {holds : C → Candidate R → Prop}
    {key : Bytes}
    {record : R} :
    (∀ question ∈ query.questions key record, ∀ criterion ∈ question.criteria,
        holds criterion question.candidate) ↔
      (∀ criterion ∈ query.keyCriteria, holds criterion (.recordKey key record)) ∧
        ∀ field, ∀ criterion ∈ query.fieldCriteria.findD field [],
          holds criterion (.recordField field key record) := by
  rw [questions, List.forall_mem_cons, List.forall_mem_map]
  refine and_congr_right fun _ => ?_
  constructor
  · intro all field criterion asked
    obtain ⟨criteria, listed, member⟩ := OrderedMap.mem_findD_nil_iff.1 asked
    exact all (field, criteria) listed criterion member
  · intro all field listed criterion member
    exact all field.1 criterion (OrderedMap.mem_findD_nil_iff.2 ⟨field.2, listed, member⟩)

namespace Alike

variable (alike : first.Alike second)

include alike

theorem mem_targetCriteria
    (criterion : C) :
    criterion ∈ first.targetCriteria ↔ criterion ∈ second.targetCriteria := by
  rw [targetCriteria, targetCriteria, ← alike.target]
  cases first.target with
  | primaryKey =>
      exact alike.onKey criterion
  | index name =>
      exact alike.onField name criterion

theorem hasCriteria :
    first.hasCriteria = second.hasCriteria := by
  rw [Bool.eq_iff_iff, hasCriteria_iff, hasCriteria_iff, asks_iff, asks_iff]
  simp only [alike.onKey, alike.onField]

end Alike

end Asking

end Query

section Faithfulness

variable
  {R C : Type}
  {satisfies : C → Candidate R → Prop}
  {needs : C → Prop}

/--
What is promised of a schema: if it comes to an answer, a candidate is accepted exactly if
it satisfies every criterion, and criteria need a record exactly if one of them does.
-/
structure Schema.Faithful
    (schema : Schema R C)
    (satisfies : C → Candidate R → Prop)
    (needs : C → Prop) :
    Prop where
  accepts :
    ∀ criteria candidate accepted,
      schema.accepts criteria candidate = .ok accepted →
        (accepted = true ↔ ∀ criterion ∈ criteria, satisfies criterion candidate)
  needsRecord :
    ∀ criteria, schema.needsRecord criteria = true ↔ ∃ criterion ∈ criteria, needs criterion

/-- If criteria come to an answer, they are met exactly if each of them is. -/
theorem Criterion.testAll_iff
    {value : Bytes}
    {record : Option R}
    {criteria : List (Criterion R)}
    {accepted : Bool}
    (tested : testAll value record criteria = .ok accepted) :
    accepted = true ↔ ∀ criterion ∈ criteria, criterion.test value record = .ok true := by
  induction criteria with
  | nil =>
      cases tested
      simp
  | cons criterion rest inductionHypothesis =>
      rw [testAll] at tested
      rw [List.forall_mem_cons]
      rcases first : criterion.test value record with error | (_ | _) <;> rw [first] at tested
      · cases tested
      · cases tested
        simp
      · rw [inductionHypothesis tested]
        simp

/-- A schema that reads a value and then tests all criteria on it is faithful. -/
theorem Schema.faithful_of_testAll
    {schema : Schema R (Criterion R)}
    {read : Candidate R → Except IndexError Bytes}
    (inspects : schema.needsRecord = Criterion.anyMatchFunction)
    (judges :
      ∀ criteria candidate,
        schema.accepts criteria candidate =
          (read candidate).bind fun value =>
            Criterion.testAll value candidate.record? criteria) :
    schema.Faithful
      (fun criterion candidate =>
        ∃ value,
          read candidate = .ok value ∧ criterion.test value candidate.record? = .ok true)
      fun criterion => criterion.isMatchFunction = true where
  accepts criteria candidate accepted judged := by
    rw [judges] at judged
    cases isRead : read candidate with
    | error error =>
        rw [isRead] at judged
        cases judged
    | ok value =>
        rw [isRead] at judged
        simpa using Criterion.testAll_iff judged
  needsRecord criteria := by
    rw [inspects, Criterion.anyMatchFunction, List.any_eq_true]

variable {schema : Schema R C}

/-- If a faithful schema comes to an answer, a record is accepted exactly if it satisfies all. -/
theorem Schema.Faithful.judgeAll_iff
    (faithful : schema.Faithful satisfies needs)
    {questions : List (Question R C)}
    {accepted : Bool}
    (judged : schema.judgeAll questions = .ok accepted) :
    accepted = true ↔
      ∀ question ∈ questions, ∀ criterion ∈ question.criteria,
        satisfies criterion question.candidate := by
  induction questions with
  | nil =>
      cases judged
      simp
  | cons question rest inductionHypothesis =>
      rw [Schema.judgeAll] at judged
      rw [List.forall_mem_cons]
      rcases first : schema.reply question with error | answer
      · rw [first] at judged
        cases judged
      · have answer_iff := faithful.accepts question.criteria question.candidate answer first
        rw [first] at judged
        rw [← answer_iff]
        cases answer with
        | false =>
            cases judged
            simp
        | true =>
            rw [inductionHypothesis judged]
            simp

end Faithfulness

section Scans

variable
  {R C : Type}
  {postings : Codec PostingList}
  {records : Codec R}
  {schema : Schema R C}
  {satisfies : C → Candidate R → Prop}
  {needs : C → Prop}
  {first second : Query C}
  {path : AccessPath}
  {lead : Bytes}
  {size other : Nat}
  {entry : Entry}
  {found foundToo : Entry → Except IndexError (List Bytes)}

/-- Alike queries judge a record alike, if both come to a verdict. -/
theorem verdict_eq_of_alike
    (faithful : schema.Faithful satisfies needs)
    (alike : first.Alike second)
    {accepted acceptedToo : Bool}
    (judged :
      Scan.verdict records ⟨schema, first, path, lead, size⟩ entry = .ok accepted)
    (judgedToo :
      Scan.verdict records ⟨schema, second, path, lead, other⟩ entry = .ok acceptedToo) :
    accepted = acceptedToo := by
  rw [Scan.verdict] at judged judgedToo
  dsimp only [Scan.stripped] at judged judgedToo
  rw [← alike.hasCriteria] at judgedToo
  split at judged
  next asks =>
    rw [if_pos asks] at judgedToo
    cases decoded : records.decode entry.2 with
    | error failure =>
        rw [decoded] at judged
        cases judged
    | ok record =>
        rw [decoded] at judged judgedToo
        rw [Bool.eq_iff_iff, faithful.judgeAll_iff judged, faithful.judgeAll_iff judgedToo,
          Query.forall_questions_iff, Query.forall_questions_iff]
        simp only [alike.onKey, alike.onField]
  next asksNothing =>
    rw [if_neg asksNothing] at judgedToo
    exact Except.ok.inj (judged.symm.trans judgedToo)

/-- Alike queries make the same candidates of an entry, if neither fails at it. -/
theorem found_eq_of_alike
    (faithful : schema.Faithful satisfies needs)
    (alike : first.Alike second)
    {keys others : List Bytes}
    (gives :
      Scan.found postings records ⟨schema, first, path, lead, size⟩ entry = .ok keys)
    (givesToo :
      Scan.found postings records ⟨schema, second, path, lead, other⟩ entry = .ok others) :
    keys = others := by
  rw [Scan.found] at gives givesToo
  cases path with
  | primaryKeyScan =>
      dsimp only at gives givesToo
      split at gives
      · cases gives
      next accepted judged =>
        split at givesToo
        · cases givesToo
        next acceptedToo judgedToo =>
          cases verdict_eq_of_alike faithful alike judged judgedToo
          exact Except.ok.inj (gives.symm.trans givesToo)
  | fullScan =>
      exact Except.ok.inj (gives.symm.trans givesToo)
  | indexedLookup index =>
      dsimp only [Scan.stripped] at gives givesToo
      cases judged :
          schema.accepts first.targetCriteria (.indexEntry index (entry.1.drop lead.length)) with
      | error error =>
          rw [judged] at gives
          cases gives
      | ok accepted =>
          cases judgedToo :
              schema.accepts second.targetCriteria
                (.indexEntry index (entry.1.drop lead.length)) with
          | error error =>
              rw [judgedToo] at givesToo
              cases givesToo
          | ok acceptedToo =>
              have same : accepted = acceptedToo := by
                rw [Bool.eq_iff_iff, faithful.accepts _ _ _ judged,
                  faithful.accepts _ _ _ judgedToo]
                simp only [alike.mem_targetCriteria]
              rw [judged] at gives
              rw [judgedToo, ← same] at givesToo
              exact Except.ok.inj (gives.symm.trans givesToo)

/-- Rows without failure are the same if their entries give the same wherever they succeed. -/
theorem CandidateRow.ofEntries_eq
    (agree :
      ∀ entry keys others,
        found entry = .ok keys → foundToo entry = .ok others → keys = others)
    {entries : List Entry}
    (sound : (ofEntries found entries).failure = none)
    (soundToo : (ofEntries foundToo entries).failure = none) :
    ofEntries found entries = ofEntries foundToo entries := by
  induction entries with
  | nil =>
      rfl
  | cons entry rest inductionHypothesis =>
      rw [ofEntries] at sound soundToo
      rw [ofEntries, ofEntries]
      rcases gives : found entry with error | keys
      · rw [gives] at sound
        cases sound
      · rcases givesToo : foundToo entry with error | others
        · rw [givesToo] at soundToo
          cases soundToo
        · rw [gives] at sound
          rw [givesToo] at soundToo
          dsimp only at sound soundToo ⊢
          rw [agree entry keys others gives givesToo, inductionHypothesis sound soundToo]

/-- A row that is exhausted without failure is handed out whole. -/
theorem CandidateRow.Yields.resolved_of_sound
    {view : Bytes → Option Bytes}
    {row : CandidateRow}
    {entries : List Entry}
    (yields : row.Yields view entries none) :
    row.failure = none ∧ (entries, none) = resolved view row.keys := by
  have sound : row.failure = none := by
    cases failed : row.failure with
    | none =>
        rfl
    | some error =>
        have fails := yields.fails (by rw [failed]; rfl)
        cases fails
  exact ⟨sound, yields.whole sound⟩

end Scans

section Queries

variable
  {R C : Type}
  {store : Store}
  {transaction : Transaction}
  {postings : Codec PostingList}
  {records : Codec R}
  {schema : Schema R C}
  {satisfies : C → Candidate R → Prop}
  {needs : C → Prop}
  {first second : Query C}
  (faithful : schema.Faithful satisfies needs)
  (alike : first.Alike second)
  (layout : KeyLayout)
  {size other : Nat}

include faithful alike

/-- The path is the same for alike queries, whatever the size of a batch. -/
theorem selectPath_eq_of_alike
    (store : Store)
    (postings : Codec PostingList)
    (records : Codec R)
    (size other : Nat) :
    (Transaction.environment store postings records).selectPath
        { layout with batchSize := size } schema first =
      (Transaction.environment store postings records).selectPath
        { layout with batchSize := other } schema second := by
  have sameNeeds :
      schema.needsRecord first.targetCriteria = schema.needsRecord second.targetCriteria := by
    rw [Bool.eq_iff_iff, faithful.needsRecord, faithful.needsRecord]
    simp only [alike.mem_targetCriteria]
  have inspected :
      (Transaction.environment store postings records).needsRecord schema first.targetCriteria =
        (Transaction.environment store postings records).needsRecord schema
          second.targetCriteria := by
    rw [Environment.needsRecord, Environment.needsRecord, sameNeeds]
    rfl
  rw [Environment.selectPath, Environment.selectPath, alike.target]
  simp only [Environment.pathThrough, inspected]
  rfl

/-- Along one path, alike queries that are exhausted without failure hand out the same. -/
theorem runAlong_eq_of_alike
    {path : AccessPath}
    {after last : Transaction}
    {entries others : List Entry}
    (batch : 1 ≤ size)
    (batchToo : 1 ≤ other)
    (ends :
      outcome
          ((Transaction.environment store postings records).runAlong path
            { layout with batchSize := size } schema first)
          transaction =
        (.ok (entries, none), after))
    (endsToo :
      outcome
          ((Transaction.environment store postings records).runAlong path
            { layout with batchSize := other } schema second)
          transaction =
        (.ok (others, none), last)) :
    entries = others := by
  obtain ⟨lead, isScan⟩ := along_congr path layout schema.typeName
  cases lead with
  | error error =>
      rw [Environment.runAlong, isScan schema first size rfl] at ends
      cases ends
  | ok lead =>
      obtain ⟨_, _, drained, yields⟩ :=
        outcome_runAlong store postings records transaction (isScan schema first size rfl)
          batch
      obtain ⟨_, _, drainedToo, yieldsToo⟩ :=
        outcome_runAlong store postings records transaction (isScan schema second other rfl)
          batchToo
      cases ends.symm.trans drained
      cases endsToo.symm.trans drainedToo
      obtain ⟨sound, whole⟩ := yields.resolved_of_sound
      obtain ⟨soundToo, wholeToo⟩ := yieldsToo.resolved_of_sound
      have sameRow :=
        CandidateRow.ofEntries_eq
          (fun _ _ _ gives givesToo => found_eq_of_alike faithful alike gives givesToo)
          sound soundToo
      rw [sameRow] at whole
      exact (Prod.mk.inj (whole.trans wholeToo.symm)).1

end Queries

/--
The order in which a query is built does not show.  Clauses in any two orders that
end with the same index make queries for which the same path is selected, whatever
the size of a batch.  If both are exhausted without failure, they hand out the same
records in the same order.
-/
theorem building_order_invisible
    {R C : Type}
    (store : Store)
    (transaction : Transaction)
    (postings : Codec PostingList)
    (records : Codec R)
    (layout : KeyLayout)
    {schema : Schema R C}
    {satisfies : C → Candidate R → Prop}
    {needs : C → Prop}
    (faithful : schema.Faithful satisfies needs)
    {first second : List (Query.Clause C)}
    (permuted : first.Perm second)
    (sameIndex : Query.Clause.lastIndex first = Query.Clause.lastIndex second)
    {size other : Nat}
    (batch : 1 ≤ size)
    (batchToo : 1 ≤ other) :
    outcome
        ((Transaction.environment store postings records).selectPath
          { layout with batchSize := size } schema (.ofClauses first))
        transaction =
      outcome
        ((Transaction.environment store postings records).selectPath
          { layout with batchSize := other } schema (.ofClauses second))
        transaction ∧
    ∀ entries others after last,
      outcome
            ((Transaction.environment store postings records).runQuery
              { layout with batchSize := size } schema (.ofClauses first))
            transaction =
          (.ok (entries, none), after) →
        outcome
              ((Transaction.environment store postings records).runQuery
                { layout with batchSize := other } schema (.ofClauses second))
              transaction =
            (.ok (others, none), last) →
          entries = others := by
  have alike := Query.alike_of_perm permuted sameIndex
  have samePath :=
    selectPath_eq_of_alike faithful alike layout store postings records size other
  refine ⟨by rw [samePath], ?_⟩
  intro entries others after last ends endsToo
  rw [Environment.runQuery_eq] at ends endsToo
  obtain ⟨path, middle, selected, drained⟩ := outcome_bind_ok.1 ends
  obtain ⟨pathToo, middleToo, selectedToo, drainedToo⟩ := outcome_bind_ok.1 endsToo
  rw [samePath] at selected
  cases selected.symm.trans selectedToo
  exact runAlong_eq_of_alike faithful alike layout batch batchToo drained drainedToo

/-- The schema of members is faithful to the tests of criteria. -/
theorem Member.schema_faithful
    (typeName : String)
    (indexes : List (String × Field)) :
    (schema typeName indexes).Faithful
      (fun criterion candidate =>
        ∃ value,
          valueAsked indexes candidate = .ok value ∧
            criterion.test value candidate.record? = .ok true)
      fun criterion => criterion.isMatchFunction = true :=
  Schema.faithful_of_testAll rfl (accepts_eq_bind indexes)

/-- A range of ages through the index of ages, with the clause about the index in front. -/
def agedThrough :
    List (Query.Clause (Criterion Member)) :=
  [.through "age", .whereField "age" (.compare .greater (Binary.bigEndian 4 30)),
    .whereField "age" (.compare .less (Binary.bigEndian 4 40))]

/-- The same range with the clause about the index in the middle. -/
def agedAround :
    List (Query.Clause (Criterion Member)) :=
  [.whereField "age" (.compare .less (Binary.bigEndian 4 40)), .through "age",
    .whereField "age" (.compare .greater (Binary.bigEndian 4 30))]

/-- A range of ages is looked up alike in both orders. -/
theorem lookup_built_in_both_orders :
    let environment : Environment Transaction Member (Criterion Member) :=
      Transaction.environment .empty PostingList.codec Member.codec
    let schema := Member.schema "member" [("age", .age)]
    let single : KeyLayout := { KeyLayout.standard with batchSize := 1 }
    let triple : KeyLayout := { KeyLayout.standard with batchSize := 3 }
    outcome (environment.selectPath single schema (.ofClauses agedThrough)) listedByAge =
        outcome (environment.selectPath triple schema (.ofClauses agedAround)) listedByAge ∧
      ∃ entries others,
        outcome (environment.runQuery single schema (.ofClauses agedThrough)) listedByAge =
            (.ok (entries, none), listedByAge) ∧
          outcome (environment.runQuery triple schema (.ofClauses agedAround)) listedByAge =
              (.ok (others, none), listedByAge) ∧
            entries = others := by
  intro environment schema single triple
  have permuted : agedThrough.Perm agedAround := by
    show (agedThrough.take 2 ++ agedThrough.drop 2).Perm (agedThrough.drop 2 ++ agedThrough.take 2)
    exact List.perm_append_comm
  obtain ⟨samePath, sameEntries⟩ :=
    building_order_invisible .empty listedByAge PostingList.codec Member.codec .standard
      (Member.schema_faithful "member" [("age", .age)]) permuted rfl (Nat.le_refl 1)
      (Nat.le_add_left 1 2)
  let ada : Entry :=
    (Bytes.ofText "kh_member:" ++ [1], Member.encode ⟨"ada", none, 36, 0, [], [], true⟩)
  let lead := Bytes.ofText "_khIndex:member:age:"
  have stored : ∀ entry ∈ [ada], listedByAge.get .empty entry.1 = some entry.2 := by
    decide +kernel
  have chosen :
      (outcome (environment.selectPath single schema (.ofClauses agedThrough)) listedByAge).1 =
        .ok (.indexedLookup "age") := by
    decide +kernel
  have chosenToo := (congrArg Prod.fst samePath).symm.trans chosen
  have drains
      (size : Nat)
      (positive : 1 ≤ size)
      (clauses : List (Query.Clause (Criterion Member)))
      (selected :
        (outcome
          (environment.selectPath { KeyLayout.standard with batchSize := size } schema
            (.ofClauses clauses))
          listedByAge).1 =
          .ok (.indexedLookup "age"))
      (row :
        CandidateRow.ofEntries
            (schema.lookUp PostingList.codec "age" (Query.ofClauses clauses).targetCriteria lead)
            (listedByAge.entriesUnder .empty lead) =
          ⟨[ada.1], none⟩) :
      outcome
          (environment.runQuery { KeyLayout.standard with batchSize := size } schema
            (.ofClauses clauses))
          listedByAge =
        (.ok ([ada], none), listedByAge) := by
    rw [Environment.runQuery_eq, outcome_bind, (selectPath_indexedLookup selected).1]
    exact outcome_indexedLookup rfl positive row stored
  have first := drains 1 (Nat.le_refl 1) agedThrough chosen (by decide +kernel)
  have second := drains 3 (Nat.le_add_left 1 2) agedAround chosenToo (by decide +kernel)
  exact ⟨samePath, _, _, first, second, sameEntries _ _ _ _ first second⟩

end SecondaryIndex
