import SecondaryIndex.Proofs.Query.PartitionScan
import SecondaryIndex.Proofs.Records.Evaluation
import SecondaryIndex.Proofs.Records.IndexedLookup

namespace SecondaryIndex

/-!
# Both access paths hand out the same records

A query for values of one index can be answered from its entries or by a scan of
all records.  The scan judges the value that the index gives each record, and an
absent value as the empty one; the entries have the values that are there.  So
the two hand out the same records, except for those without a value.
-/

open Versioned

namespace Query

variable {C : Type}

/-- The query with criteria on one field. -/
def onField
    (field : String)
    (criteria : List C) :
    Query C :=
  criteria.foldl (fun query criterion => query.whereField field criterion) .all

/-- One more criterion on the only field that is asked about. -/
theorem whereField_entries
    {query : Query C}
    {field : String}
    {criteria : List C}
    (only : query.fieldCriteria.entries = [(field, criteria)])
    (criterion : C) :
    (query.whereField field criterion).fieldCriteria.entries =
      [(field, criteria ++ [criterion])] := by
  simp [whereField, OrderedMap.insert, OrderedMap.insertEntry, OrderedMap.findD,
    OrderedMap.find?, only]

/-- Criteria that are added on the only field come behind those that are there. -/
theorem foldl_whereField_entries
    {query : Query C}
    {field : String}
    {earlier : List C}
    (only : query.fieldCriteria.entries = [(field, earlier)])
    (criteria : List C) :
    (criteria.foldl (fun query criterion => query.whereField field criterion)
        query).fieldCriteria.entries =
      [(field, earlier ++ criteria)] := by
  induction criteria generalizing query earlier with
  | nil =>
      simpa using only
  | cons criterion rest inductionHypothesis =>
      rw [List.foldl_cons, inductionHypothesis (whereField_entries only criterion)]
      simp

theorem onField_entries
    {field : String}
    {criteria : List C}
    (someCriteria : criteria ≠ []) :
    (onField field criteria).fieldCriteria.entries = [(field, criteria)] := by
  cases criteria with
  | nil =>
      exact absurd rfl someCriteria
  | cons criterion rest =>
      have first :
          ((all : Query C).whereField field criterion).fieldCriteria.entries =
            [(field, [criterion])] :=
        rfl
      exact foldl_whereField_entries first rest

/-- Criteria on fields leave the target and the key criteria alone. -/
theorem onField_others
    (field : String)
    (criteria : List C) :
    (onField field criteria).target = .primaryKey ∧ (onField field criteria).keyCriteria = [] := by
  suffices kept :
      ∀ query : Query C,
        (criteria.foldl (fun query criterion => query.whereField field criterion) query).target =
            query.target ∧
          (criteria.foldl (fun query criterion => query.whereField field criterion)
              query).keyCriteria =
            query.keyCriteria from
    kept .all
  induction criteria with
  | nil =>
      exact fun _ => ⟨rfl, rfl⟩
  | cons criterion rest inductionHypothesis =>
      intro query
      exact inductionHypothesis (query.whereField field criterion)

/-- The criteria on the field are those on the target of a query through the index of that name. -/
theorem targetCriteria_onField
    {index : String}
    {criteria : List C}
    (someCriteria : criteria ≠ []) :
    ((onField index criteria).through index).targetCriteria = criteria := by
  have only : (onField index criteria).fieldCriteria.entries = [(index, criteria)] :=
    onField_entries someCriteria
  simp [targetCriteria, through, OrderedMap.findD, OrderedMap.find?, only]

end Query

/--
Criteria are judged on values: on the value of an index entry, and on the value
that the declared index of a field gives a record, or on the empty one.
-/
structure Schema.JudgesByValue
    {R C : Type}
    (schema : Schema R C)
    (reading : C → Criterion R) :
    Prop where
  ofNone : ∀ key record, schema.accepts [] (.recordKey key record) = .ok true
  ofField :
    ∀ {field : String} {declared : DeclaredIndex R},
      schema.index? field = some declared →
        ∀ criteria key record,
          schema.accepts criteria (.recordField field key record) =
            (declared.valueOf record).bind fun value? =>
              Criterion.testAll (value?.getD []) (some record) (criteria.map reading)
  ofEntry :
    ∀ index criteria value,
      schema.accepts criteria (.indexEntry index value) =
        Criterion.testAll value none (criteria.map reading)

namespace Records

variable
  {ι : Type}
  {catalog : Catalog ι}
  {type : ι}
  {index : String}
  {reading : (catalog.types type).Criterion → Criterion (catalog.types type).Record}
  {criteria : List (catalog.types type).Criterion}
  {accepted : Bytes → Bool}
  {store : Store}
  {transaction : Transaction}
  {lead : Bytes}

/-- The declared index of a name is the first one, and the only one where there is one. -/
theorem index?_of_declaresOnce
    (once : (catalog.types type).schema.DeclaresOnce index) :
    ∃ declared,
      (catalog.types type).schema.index? index = some declared ∧
        declared ∈ (catalog.types type).schema.indexes ∧ declared.name = index := by
  have some :
      0 < (catalog.types type).schema.indexes.countP fun declared => declared.name = index := by
    rw [once]
    exact Nat.zero_lt_one
  obtain ⟨declared, isDeclared, named⟩ := List.countP_pos_iff.1 some
  cases found : (catalog.types type).schema.index? index with
  | none =>
      exact absurd named (List.find?_eq_none.1 found declared isDeclared)
  | some first =>
      exact ⟨first, rfl, List.mem_of_find?_eq_some found, by simpa using List.find?_some found⟩

/-- A scan for criteria on one field selects a record by the value that the index gives it. -/
theorem judgeAll_onField
    {declared : DeclaredIndex (catalog.types type).Record}
    {value? : Option Bytes}
    {record : (catalog.types type).Record}
    (judges : (catalog.types type).schema.JudgesByValue reading)
    (someCriteria : criteria ≠ [])
    (tests :
      ∀ value record?,
        Criterion.testAll value record? (criteria.map reading) = .ok (accepted value))
    (isIndex : (catalog.types type).schema.index? index = some declared)
    (valued : declared.valueOf record = .ok value?)
    (key : Bytes) :
    (catalog.types type).schema.judgeAll ((Query.onField index criteria).questions key record) =
      .ok (accepted (value?.getD [])) := by
  have judged :
      (catalog.types type).schema.accepts criteria (.recordField index key record) =
        .ok (accepted (value?.getD [])) := by
    rw [judges.ofField isIndex, valued]
    exact tests _ _
  rw [Query.questions, (Query.onField_others index criteria).2, Query.onField_entries someCriteria]
  simp only [List.map_cons, List.map_nil, Schema.judgeAll, Schema.reply, judges.ofNone, judged]
  cases accepted (value?.getD []) <;> rfl

/-- Whatever lies under the lead of a type is a record that has a value, or none, in an index. -/
theorem gives_of_mem_entriesUnder
    {declared : DeclaredIndex (catalog.types type).Record}
    {entry : Entry}
    (indexed : catalog.Indexed (transaction.get store))
    (evaluable : catalog.Evaluable (transaction.get store))
    (isLead : catalog.layout.recordLead (catalog.types type).schema.typeName = .ok lead)
    (isDeclared : declared ∈ (catalog.types type).schema.indexes)
    (named : declared.name = index)
    (member : entry ∈ transaction.entriesUnder store lead) :
    ∃ record value?,
      (catalog.types type).codec.decode entry.2 = .ok record ∧
        declared.valueOf record = .ok value? ∧
          catalog.Gives (transaction.get store) type index value? entry.1 := by
  obtain ⟨isUnder, stored⟩ := Transaction.mem_entriesUnder.1 member
  obtain ⟨primary, shape⟩ := Bytes.startsWith_iff.1 isUnder
  have isKey : catalog.recordKey type primary = .ok entry.1 := by
    rw [shape]
    exact KeyLayout.recordKey_of_recordLead isLead primary
  obtain ⟨record, -, decoded⟩ := indexed.readable isKey stored
  have reads : Reads (catalog.types type).codec (transaction.get store entry.1) (some record) := by
    rw [stored]
    exact decoded
  obtain ⟨value?, valued⟩ := evaluable isKey reads declared isDeclared
  exact
    ⟨record, value?, decoded, valued, primary, entry.2, record, declared, isKey, stored, decoded,
      isDeclared, named, valued⟩

/--
A scan for criteria on one field hands out the records whose value, or the empty
one, is accepted.
-/
theorem outcome_onField_scan
    (indexed : catalog.Indexed (transaction.get store))
    (evaluable : catalog.Evaluable (transaction.get store))
    (judges : (catalog.types type).schema.JudgesByValue reading)
    (once : (catalog.types type).schema.DeclaresOnce index)
    (someCriteria : criteria ≠ [])
    (tests :
      ∀ value record?,
        Criterion.testAll value record? (criteria.map reading) = .ok (accepted value))
    (free : delimiter ∉ Bytes.ofText (catalog.types type).schema.typeName)
    (size : Nat)
    (batch : 1 ≤ size) :
    ∃ entries,
      outcome
          ((catalog.environment store type).runAlong .primaryKeyScan
            { catalog.layout with batchSize := size } (catalog.types type).schema
            (Query.onField index criteria))
          transaction =
        (.ok (entries, none), transaction) ∧
      (entries.map Prod.fst).Nodup ∧
      (∀ entry ∈ entries, transaction.get store entry.1 = some entry.2) ∧
      ∀ key,
        key ∈ entries.map Prod.fst ↔
          ∃ value?,
            catalog.Gives (transaction.get store) type index value? key ∧
              accepted (value?.getD []) = true := by
  obtain ⟨declared, isIndex, isDeclared, named⟩ := index?_of_declaresOnce once
  have isLead :
      { catalog.layout with batchSize := size }.recordLead
          (catalog.types type).schema.typeName =
        .ok _ :=
    KeyLayout.recordLead_of_free free
  have given :
      ∀ entry ∈ transaction.entriesUnder store _,
        ∃ record value?,
          (catalog.types type).codec.decode entry.2 = .ok record ∧
            declared.valueOf record = .ok value? ∧
              catalog.Gives (transaction.get store) type index value? entry.1 :=
    fun _ => gives_of_mem_entriesUnder indexed evaluable isLead isDeclared named
  obtain ⟨entries, failure, ends, sound, -, fails⟩ :=
    outcome_primaryKeyScan store transaction catalog.postings (catalog.types type).codec
      (Query.onField index criteria) isLead batch fun _ _ => rfl
  have asks : (Query.onField index criteria).Asks := by
    refine .inr ⟨(index, criteria), ?_, someCriteria⟩
    rw [Query.onField_entries someCriteria]
    exact List.mem_singleton_self _
  have noFailure : failure = none := by
    rw [← Option.not_isSome_iff_eq_none, fails]
    rintro ⟨-, entry, member, ⟨error, notDecoded⟩ | ⟨other, decodedToo, failsOn⟩⟩
    · obtain ⟨record, value?, decoded, -⟩ := given entry member
      cases decoded.symm.trans notDecoded
    · obtain ⟨record, value?, decoded, valued, -⟩ := given entry member
      cases decoded.symm.trans decodedToo
      obtain ⟨error, failed⟩ := Schema.judgeAll_error_iff.2 failsOn
      rw [judgeAll_onField judges someCriteria tests isIndex valued] at failed
      cases failed
  obtain ⟨sublist, members⟩ := sound asks noFailure
  have isScanned {entry : Entry} (member : entry ∈ entries) := (members entry).1 member
  subst noFailure
  refine ⟨entries, ends, ?_, ?_, ?_⟩
  · refine (sublist.map Prod.fst).nodup ?_
    exact List.pairwise_map.2 ((transaction.entriesUnder_ascending store _).imp Std.ne_of_lt)
  · intro entry member
    exact present_of_mem_entriesUnder (isScanned member).1
  · intro key
    rw [List.mem_map]
    constructor
    · rintro ⟨entry, member, rfl⟩
      obtain ⟨under, record, decodedToo, accepts⟩ := isScanned member
      obtain ⟨_, value?, decoded, valued, gives⟩ := given entry under
      cases decoded.symm.trans decodedToo
      rw [← Schema.judgeAll_eq_true_iff,
        judgeAll_onField judges someCriteria tests isIndex valued] at accepts
      exact ⟨value?, gives, Except.ok.inj accepts⟩
    · rintro ⟨value?, gives, isAccepted⟩
      obtain ⟨primary, bytes, _, _, isKey, stored, -⟩ := id gives
      cases (KeyLayout.recordKey_of_recordLead isLead primary).symm.trans isKey
      have under := Transaction.mem_entriesUnder.2 ⟨Bytes.startsWith_append _ primary, stored⟩
      obtain ⟨record, other?, decoded, valued, givesToo⟩ := given _ under
      cases gives.unique once givesToo
      refine ⟨_, (members _).2 ⟨under, record, decoded, ?_⟩, rfl⟩
      rw [← Schema.judgeAll_eq_true_iff,
        judgeAll_onField judges someCriteria tests isIndex valued, isAccepted]

/--
The records that are looked up in an index are those that a scan hands out for the
same criteria, except for the records without a value, which the scan judges as if
they had the empty one.  Neither fails, and neither hands out a record twice,
whatever the sizes of their batches.  This holds in the view of every open
transaction in which no operation has failed.  Under a name with the delimiter
there is no index to look into, and opening the lookup is refused.
-/
theorem paths_agree
    {ι : Type}
    {catalog : Catalog ι}
    {steps : List (RecordStep catalog)}
    {number : Nat}
    {transaction : Transaction}
    (lawful : catalog.Lawful)
    (bounded : (recordRun steps).published.length ≤ lastStamp)
    (isOpen : (recordRun steps).transaction? number = some transaction)
    (unbroken : number ∉ (recordRun steps).broken)
    (type : ι)
    (reading : (catalog.types type).Criterion → Criterion (catalog.types type).Record)
    (judges : (catalog.types type).schema.JudgesByValue reading)
    (index : String)
    (once : (catalog.types type).schema.DeclaresOnce index)
    (criteria : List (catalog.types type).Criterion)
    (someCriteria : criteria ≠ [])
    (onValue : Criterion.anyMatchFunction (criteria.map reading) = false)
    (size other : Nat)
    (batch : 1 ≤ size)
    (otherBatch : 1 ≤ other)
    (selected :
      (outcome
        ((catalog.environment (recordRun steps).store type).selectPath
          { catalog.layout with batchSize := size } (catalog.types type).schema
          ((Query.onField index criteria).through index))
        transaction).1 =
        .ok (.indexedLookup index)) :
    (delimiter ∈ Bytes.ofText index →
      outcome
          ((catalog.environment (recordRun steps).store type).openQuery
            { catalog.layout with batchSize := size } (catalog.types type).schema
            ((Query.onField index criteria).through index))
          transaction =
        (.error (.invalidName index), transaction)) ∧
    (delimiter ∉ Bytes.ofText index →
      ∃ looked scanned,
        outcome
            ((catalog.environment (recordRun steps).store type).runQuery
              { catalog.layout with batchSize := size } (catalog.types type).schema
              ((Query.onField index criteria).through index))
            transaction =
          (.ok (looked, none), transaction) ∧
        outcome
            ((catalog.environment (recordRun steps).store type).runQuery
              { catalog.layout with batchSize := other } (catalog.types type).schema
              (Query.onField index criteria))
            transaction =
          (.ok (scanned, none), transaction) ∧
        (looked.map Prod.fst).Nodup ∧
        (scanned.map Prod.fst).Nodup ∧
        (∀ entry ∈ looked ++ scanned,
          transaction.get (recordRun steps).store entry.1 = some entry.2) ∧
        ∀ key,
          key ∈ looked.map Prod.fst ↔
            key ∈ scanned.map Prod.fst ∧
              ¬ catalog.Gives (transaction.get (recordRun steps).store) type index none key) := by
  have consistent : Consistent catalog (recordRun steps) :=
    Consistent.start.steps lawful bounded
  have evaluated : Kept catalog.Evaluable (recordRun steps) :=
    Kept.steps lawful.keeps_evaluable (.start lawful.keeps_evaluable.empty) bounded
  have indexed := (consistent.views isOpen unbroken).indexed lawful
  have evaluable : catalog.Evaluable (transaction.get (recordRun steps).store) :=
    evaluated.views isOpen unbroken
  refine ⟨openQuery_of_held selected, ?_⟩
  intro indexFree
  obtain ⟨-, -, free⟩ := selectPath_indexedLookup selected
  choose accepted tests using Criterion.testAll_of_no_matchFunction onValue
  obtain ⟨scanned, scans, scannedNodup, scannedStored, isScanned⟩ :=
    outcome_onField_scan indexed evaluable judges once someCriteria tests free other otherBatch
  have judged (value : Bytes) :
      (catalog.types type).schema.accepts
          ((Query.onField index criteria).through index).targetCriteria (.indexEntry index value) =
        .ok (accepted value) := by
    rw [Query.targetCriteria_onField someCriteria, judges.ofEntry]
    exact tests value none
  obtain ⟨listing, looked, looksUp, looks⟩ :=
    runQuery_of_indexed indexed batch selected
      (fun value _ _ _ fails => nomatch (judged value).symm.trans fails) indexFree
  refine ⟨looked, scanned, looks _ rfl rfl, ?_, looksUp.nodup once, scannedNodup, ?_, ?_⟩
  · rw [Environment.runQuery_eq, outcome_bind,
      selectPath_primaryKey (Query.onField_others index criteria).1]
    exact scans
  · intro entry member
    rcases List.mem_append.1 member with isLooked | isScannedToo
    · exact looksUp.stored entry isLooked
    · exact scannedStored entry isScannedToo
  · intro key
    have isLooked :
        key ∈ looked.map Prod.fst ↔
          ∃ value,
            catalog.Gives (transaction.get (recordRun steps).store) type index (some value) key ∧
              accepted value = true := by
      rw [looksUp.keys]
      simp [looksUp.lists, judged, Catalog.Carries, Catalog.Gives]
    rw [isLooked, isScanned]
    constructor
    · rintro ⟨value, gives, isAccepted⟩
      refine ⟨⟨some value, gives, isAccepted⟩, ?_⟩
      intro givesNone
      cases gives.unique once givesNone
    · rintro ⟨⟨value?, gives, isAccepted⟩, givesSome⟩
      cases value? with
      | none =>
          exact absurd gives givesSome
      | some value =>
          exact ⟨value, gives, isAccepted⟩

theorem judgedInitials_judgesByValue :
    (judgedInitials.types ()).schema.JudgesByValue id where
  ofNone _ _ :=
    rfl
  ofField {field declared} isIndex criteria key record := by
    have isInitial : declared ∈ (judgedInitials.types ()).schema.indexes :=
      List.mem_of_find?_eq_some isIndex
    cases List.mem_singleton.1 isInitial
    have sameCriteria : criteria.map id = criteria := List.map_id criteria
    cases record <;> exact (congrArg (Criterion.testAll _ _) sameCriteria).symm
  ofEntry index criteria value :=
    (congrArg (Criterion.testAll value none) (List.map_id criteria)).symm

/-- A query for values below one that the record without a value would meet as well. -/
def belowEight :
    List (Criterion Bytes) :=
  [.compare .less [8]]

/-- The lookup hands out no record without a value; the scan of the same view ends without error. -/
theorem paths_agree_on_initials :
    ∃ transaction looked scanned,
      (recordRun threeInserts).transaction? 0 = some transaction ∧
      outcome
          ((judgedInitials.environment (recordRun threeInserts).store ()).runQuery
            { judgedInitials.layout with batchSize := 1 } (judgedInitials.types ()).schema
            ((Query.onField "initial" belowEight).through "initial"))
          transaction =
        (.ok (looked, none), transaction) ∧
      outcome
          ((judgedInitials.environment (recordRun threeInserts).store ()).runQuery
            { judgedInitials.layout with batchSize := 2 } (judgedInitials.types ()).schema
            (Query.onField "initial" belowEight))
          transaction =
        (.ok (scanned, none), transaction) ∧
      Bytes.ofText "kh_note:" ++ [3] ∉ looked.map Prod.fst := by
  have bounded : (recordRun threeInserts).published.length ≤ lastStamp := by
    have none : (recordRun threeInserts).published.length = 0 := by
      decide +kernel
    rw [none]
    decide
  have isOpen : ((recordRun threeInserts).transaction? 0).isSome := by
    decide +kernel
  obtain ⟨transaction, isOpen⟩ := Option.isSome_iff_exists.1 isOpen
  have unbroken : 0 ∉ (recordRun threeInserts).broken := by
    decide +kernel
  have selects :
      ((recordRun threeInserts).transaction? 0).map (fun transaction =>
        (outcome
          ((judgedInitials.environment (recordRun threeInserts).store ()).selectPath
            { judgedInitials.layout with batchSize := 1 } (judgedInitials.types ()).schema
            ((Query.onField "initial" belowEight).through "initial"))
          transaction).1) =
        some (.ok (.indexedLookup "initial")) := by
    decide +kernel
  have stored :
      ((recordRun threeInserts).transaction? 0).map (fun transaction =>
        transaction.get (recordRun threeInserts).store (Bytes.ofText "kh_note:" ++ [3])) =
        some (some (Binary.writeBytes [])) := by
    decide +kernel
  rw [isOpen] at selects stored
  obtain ⟨looked, scanned, looks, scans, -, -, -, agree⟩ :=
    (paths_agree judgedInitials_lawful bounded isOpen unbroken () id judgedInitials_judgesByValue
      "initial" rfl belowEight (List.cons_ne_nil _ _) rfl 1 2 (Nat.le_refl 1) (by decide)
      (Option.some.inj selects)).2 (by decide)
  refine ⟨transaction, looked, scanned, isOpen, looks, scans, ?_⟩
  intro isLooked
  apply ((agree _).1 isLooked).2
  exact
    ⟨[3], Binary.writeBytes [], [], _, rfl, Option.some.inj stored, rfl, List.mem_singleton_self _,
      rfl, rfl⟩

end Records

end SecondaryIndex
