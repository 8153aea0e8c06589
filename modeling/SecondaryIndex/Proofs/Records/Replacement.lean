import SecondaryIndex.Proofs.Records.World

namespace SecondaryIndex.Records

/-!
# What an operation does

An operation that meets what it expects replaces what is stored for one record,
and then takes the old record out of its entries and lists the new one.  An
operation that does not meet what it expects does nothing.
-/

open Versioned

/-- Taking an old record out of its entries and listing a new one, where there are such. -/
def replacements
    {type : RecordType}
    (old new : Option type.Record) :
    List (EntryUpdate type.Record) :=
  old.elim [] (type.schema.updates .remove) ++ new.elim [] (type.schema.updates .add)

/-- Whether what is stored for a record, or for none, reads as given. -/
def Reads
    {R : Type}
    (records : Codec R)
    (content : Option Bytes)
    (record? : Option R) :
    Prop :=
  match content, record? with
  | none, none =>
      True
  | some bytes, some record =>
      records.decode bytes = .ok record
  | _, _ =>
      False

theorem reads_none_iff
    {R : Type}
    {records : Codec R}
    {content : Option Bytes} :
    Reads records content none ↔ content = none := by
  cases content <;> simp [Reads]

theorem reads_some_iff
    {R : Type}
    {records : Codec R}
    {content : Option Bytes}
    {record : R} :
    Reads records content (some record) ↔
      ∃ bytes, content = some bytes ∧ records.decode bytes = .ok record := by
  cases content <;> simp [Reads]

/-- Whether a record, or none, is written under a key. -/
def Writes
    {R : Type}
    (records : Codec R)
    (key : Bytes)
    (record? : Option R)
    (before after : Transaction) :
    Prop :=
  match record? with
  | none =>
      after = before.delete key
  | some record =>
      ∃ bytes, records.encode record = .ok bytes ∧ after = before.set key bytes

/-- Writing a record leaves every other key alone. -/
theorem Writes.get_of_ne
    {R : Type}
    {records : Codec R}
    {store : Store}
    {key other : Bytes}
    {record? : Option R}
    {before after : Transaction}
    (writes : Writes records key record? before after)
    (different : other ≠ key) :
    after.get store other = before.get store other := by
  cases record? with
  | none =>
      cases writes
      rw [Transaction.get_delete, if_neg different]
  | some record =>
      obtain ⟨bytes, -, rfl⟩ := writes
      rw [Transaction.get_set, if_neg different]

namespace Operation

variable
  {ι : Type}
  {catalog : Catalog ι}

/-- The type of the record in question. -/
def type :
    Operation catalog → ι
  | .insert type _ _ =>
      type
  | .update type _ _ =>
      type
  | .remove type _ =>
      type

/-- The primary key of the record in question. -/
def primary :
    Operation catalog → Bytes
  | .insert _ primary _ =>
      primary
  | .update _ primary _ =>
      primary
  | .remove _ primary =>
      primary

/-- The record that is to be stored, unless it is to be removed. -/
def record? :
    (operation : Operation catalog) → Option (catalog.types operation.type).Record
  | .insert _ _ record =>
      some record
  | .update _ _ record =>
      some record
  | .remove _ _ =>
      none

/-- Whether there has to be a record already. -/
def expectsRecord :
    Operation catalog → Bool
  | .insert _ _ _ =>
      false
  | .update _ _ _ =>
      true
  | .remove _ _ =>
      true

/-- Whether an operation meets what it expects: no record to insert one, or one to replace. -/
def isEffective
    (operation : Operation catalog)
    (view : Bytes → Option Bytes) :
    Bool :=
  match catalog.recordKey operation.type operation.primary with
  | .ok key => (view key).isSome = operation.expectsRecord
  | .error _ => false

end Operation

section Parts

variable
  {R C : Type}
  {store : Store}
  {postings : Codec PostingList}
  {records : Codec R}
  {key : Bytes}
  {record : R}
  {before after : Transaction}

/-- Storing a record encodes and writes it. -/
theorem storeRecord_ok_iff :
    outcome ((Transaction.environment (C := C) store postings records).storeRecord key record)
        before =
      (.ok (), after) ↔
    Writes records key (some record) before after := by
  constructor
  · intro success
    obtain ⟨bytes, middle, encodes, written⟩ := outcome_bind_ok.1 success
    obtain ⟨encoded, rfl⟩ := outcome_ofCodec_ok.1 (outcome_ofIndex_ok.1 encodes)
    cases written
    exact ⟨bytes, encoded, rfl⟩
  · rintro ⟨bytes, encoded, rfl⟩
    refine outcome_bind_ok.2 ⟨bytes, before, ?_, rfl⟩
    exact outcome_ofIndex_ok.2 (outcome_ofCodec_ok.2 ⟨encoded, rfl⟩)

/-- Loading a record reads what is stored and changes nothing. -/
theorem loadRecord_ok_iff
    {record? : Option R} :
    outcome ((Transaction.environment (C := C) store postings records).loadRecord key) before =
      (.ok record?, after) ↔
    after = before ∧ Reads records (before.get store key) record? := by
  have got :
      outcome (RecordAction.ofStore
          ((Transaction.environment (C := C) store postings records).get key)) before =
        (.ok (before.get store key), before) :=
    rfl
  rw [Environment.loadRecord, outcome_bind, got]
  dsimp only
  rcases before.get store key with none | bytes
  · cases record? with
    | none =>
        exact ⟨fun ends => ⟨(Prod.mk.inj ends).2.symm, trivial⟩, fun ⟨same, _⟩ => by rw [same]; rfl⟩
    | some record =>
        exact iff_of_false nofun nofun
  · rw [outcome_map_ok]
    constructor
    · rintro ⟨record, decodes, rfl⟩
      obtain ⟨decoded, rfl⟩ := outcome_ofCodec_ok.1 (outcome_ofIndex_ok.1 decodes)
      exact ⟨rfl, decoded⟩
    · rintro ⟨rfl, reads⟩
      cases record? with
      | none =>
          exact reads.elim
      | some record =>
          exact ⟨record, outcome_ofIndex_ok.2 (outcome_ofCodec_ok.2 ⟨reads, rfl⟩), rfl⟩

variable
  {layout : KeyLayout}
  {schema : Schema R C}

/-- Inserting a record writes it and lists it. -/
theorem insertRecord_ok_iff :
    outcome
        ((Transaction.environment store postings records).insertRecord layout schema key record)
        before =
      (.ok (), after) ↔
    ∃ middle,
      Writes records key (some record) before middle ∧
        outcome
            ((Transaction.environment (C := C) store postings records).updateEntries layout
              schema.typeName key (schema.updates .add record))
            middle =
          (.ok (), after) := by
  rw [Environment.insertRecord, outcome_bind_ok]
  constructor
  · rintro ⟨_, middle, writing, listing⟩
    exact ⟨middle, storeRecord_ok_iff.1 writing, outcome_ofIndex_ok.1 listing⟩
  · rintro ⟨middle, writes, listing⟩
    exact ⟨(), middle, storeRecord_ok_iff.2 writes, outcome_ofIndex_ok.2 listing⟩

/-- Updating a record writes it, takes the old one out of its entries and lists the new one. -/
theorem updateRecord_ok_iff
    {found : Bool} :
    outcome
        ((Transaction.environment store postings records).updateRecord layout schema key record)
        before =
      (.ok found, after) ↔
    (found = false ∧ before.get store key = none ∧ after = before) ∨
      found = true ∧
        ∃ old middle,
          Reads records (before.get store key) (some old) ∧
            Writes records key (some record) before middle ∧
              outcome
                  ((Transaction.environment (C := C) store postings records).updateEntries layout
                    schema.typeName key (schema.updates .remove old ++ schema.updates .add record))
                  middle =
                (.ok (), after) := by
  rw [Environment.updateRecord, outcome_bind_ok]
  constructor
  · rintro ⟨old?, _, loading, replacing⟩
    obtain ⟨rfl, reads⟩ := loadRecord_ok_iff.1 loading
    cases old? with
    | none =>
        cases replacing
        exact .inl ⟨rfl, reads_none_iff.1 reads, rfl⟩
    | some old =>
        obtain ⟨_, middle, writing, indexing⟩ := outcome_bind_ok.1 replacing
        obtain ⟨_, _, indexed, answered⟩ := outcome_bind_ok.1 indexing
        cases answered
        exact
          .inr ⟨rfl, old, middle, reads, storeRecord_ok_iff.1 writing, outcome_ofIndex_ok.1 indexed⟩
  · rintro (⟨rfl, absent, rfl⟩ | ⟨rfl, old, middle, reads, writes, indexed⟩)
    · exact ⟨none, _, loadRecord_ok_iff.2 ⟨rfl, reads_none_iff.2 absent⟩, rfl⟩
    · refine ⟨some old, before, loadRecord_ok_iff.2 ⟨rfl, reads⟩, ?_⟩
      refine outcome_bind_ok.2 ⟨(), middle, storeRecord_ok_iff.2 writes, ?_⟩
      exact outcome_bind_ok.2 ⟨(), after, outcome_ofIndex_ok.2 indexed, rfl⟩

/-- Removing a record deletes it and takes it out of its entries. -/
theorem removeRecord_ok_iff
    {found : Bool} :
    outcome
        ((Transaction.environment store postings records).removeRecord layout schema key)
        before =
      (.ok found, after) ↔
    (found = false ∧ before.get store key = none ∧ after = before) ∨
      found = true ∧
        ∃ old,
          Reads records (before.get store key) (some old) ∧
            outcome
                ((Transaction.environment (C := C) store postings records).updateEntries layout
                  schema.typeName key (schema.updates .remove old))
                (before.delete key) =
              (.ok (), after) := by
  rw [Environment.removeRecord, outcome_bind_ok]
  constructor
  · rintro ⟨old?, _, loading, removing⟩
    obtain ⟨rfl, reads⟩ := loadRecord_ok_iff.1 loading
    cases old? with
    | none =>
        cases removing
        exact .inl ⟨rfl, reads_none_iff.1 reads, rfl⟩
    | some old =>
        obtain ⟨_, _, deleting, unindexing⟩ := outcome_bind_ok.1 removing
        cases deleting
        obtain ⟨_, _, unindexed, answered⟩ := outcome_bind_ok.1 unindexing
        cases answered
        exact .inr ⟨rfl, old, reads, outcome_ofIndex_ok.1 unindexed⟩
  · rintro (⟨rfl, absent, rfl⟩ | ⟨rfl, old, reads, unindexed⟩)
    · exact ⟨none, _, loadRecord_ok_iff.2 ⟨rfl, reads_none_iff.2 absent⟩, rfl⟩
    · refine ⟨some old, before, loadRecord_ok_iff.2 ⟨rfl, reads⟩, ?_⟩
      refine outcome_bind_ok.2 ⟨(), before.delete key, rfl, ?_⟩
      exact outcome_bind_ok.2 ⟨(), after, outcome_ofIndex_ok.2 unindexed, rfl⟩

end Parts

section Operations

variable
  {ι : Type}
  {catalog : Catalog ι}
  {store : Store}
  {operation : Operation catalog}
  {before after : Transaction}

/-- What an operation does that takes effect. -/
structure Replaces
    (catalog : Catalog ι)
    (store : Store)
    (operation : Operation catalog)
    (key : Bytes)
    (old : Option (catalog.types operation.type).Record)
    (before middle after : Transaction) :
    Prop where
  isKey : catalog.recordKey operation.type operation.primary = .ok key
  reads : Reads (catalog.types operation.type).codec (before.get store key) old
  writes : Writes (catalog.types operation.type).codec key operation.record? before middle
  maintains :
    outcome
        ((catalog.environment store operation.type).updateEntries catalog.layout
          (catalog.types operation.type).schema.typeName key
          (replacements old operation.record?))
        middle =
      (.ok (), after)

/-- An operation begins by forming the key of its record. -/
theorem outcome_keyed
    {α : Type}
    {type : ι}
    {primary key : Bytes}
    (isKey : catalog.recordKey type primary = .ok key)
    (next : Bytes → RecordAction Transaction α) :
    outcome
        (do
          let key ← RecordAction.ofIndex (Action.ofExcept (catalog.recordKey type primary))
          next key)
        before =
      outcome (next key) before := by
  rw [isKey]
  rfl

/-- An operation only succeeds if its record has a key. -/
theorem key_of_operation_ok
    (success : outcome (operation.action store) before = (.ok (), after)) :
    ∃ key, catalog.recordKey operation.type operation.primary = .ok key := by
  cases operation <;>
    · obtain ⟨key, _, keying, -⟩ := outcome_bind_ok.1 success
      exact ⟨key, (Prod.mk.inj (outcome_ofIndex_ok.1 keying)).1⟩

/-- An operation succeeds if it can replace the record, or if it has nothing to do. -/
theorem operation_ok_of_key
    {key : Bytes}
    (isKey : catalog.recordKey operation.type operation.primary = .ok key) :
    outcome (operation.action store) before = (.ok (), after) ↔
      if (before.get store key).isSome = operation.expectsRecord then
        ∃ old middle, Replaces catalog store operation key old before middle after
      else
        after = before := by
  cases operation with
  | insert type primary record =>
      have isKey : catalog.recordKey type primary = .ok key := isKey
      have got :
          outcome (RecordAction.ofStore ((catalog.environment store type).get key)) before =
            (.ok (before.get store key), before) :=
        rfl
      rw [Operation.action, outcome_keyed isKey, outcome_bind, got]
      dsimp only
      cases stored : before.get store key with
      | some bytes =>
          rw [if_neg (by simp [Operation.expectsRecord])]
          exact ⟨fun ends => (Prod.mk.inj ends).2.symm, fun same => by rw [same]; rfl⟩
      | none =>
          rw [if_pos (by simp [Operation.expectsRecord])]
          refine insertRecord_ok_iff.trans ?_
          constructor
          · rintro ⟨middle, writes, maintains⟩
            exact ⟨none, middle, isKey, reads_none_iff.2 stored, writes, maintains⟩
          · rintro ⟨old, middle, -, reads, writes, maintains⟩
            cases old with
            | none =>
                exact ⟨middle, writes, maintains⟩
            | some old =>
                rw [stored] at reads
                exact reads.elim
  | update type primary record =>
      have isKey : catalog.recordKey type primary = .ok key := isKey
      rw [Operation.action, outcome_keyed isKey, outcome_bind_ok]
      constructor
      · rintro ⟨found, _, updating, answered⟩
        cases answered
        rcases updateRecord_ok_iff.1 updating with
          ⟨-, absent, same⟩ | ⟨-, old, middle, reads, writes, maintains⟩
        · rw [if_neg (by simp [absent, Operation.expectsRecord])]
          exact same
        · obtain ⟨bytes, stored, -⟩ := reads_some_iff.1 reads
          rw [if_pos (by simp [stored, Operation.expectsRecord])]
          exact ⟨some old, middle, isKey, reads, writes, maintains⟩
      · intro ends
        cases stored : before.get store key with
        | none =>
            rw [if_neg (by simp [stored, Operation.expectsRecord])] at ends
            exact ⟨false, after, updateRecord_ok_iff.2 (.inl ⟨rfl, stored, ends⟩), rfl⟩
        | some bytes =>
            rw [if_pos (by simp [stored, Operation.expectsRecord])] at ends
            obtain ⟨old, middle, -, reads, writes, maintains⟩ := ends
            cases old with
            | none =>
                rw [reads_none_iff.1 reads] at stored
                cases stored
            | some old =>
                exact
                  ⟨true, after,
                    updateRecord_ok_iff.2 (.inr ⟨rfl, old, middle, reads, writes, maintains⟩), rfl⟩
  | remove type primary =>
      have isKey : catalog.recordKey type primary = .ok key := isKey
      have removals (old : (catalog.types type).Record) :
          replacements (some old) none = (catalog.types type).schema.updates .remove old :=
        List.append_nil _
      rw [Operation.action, outcome_keyed isKey, outcome_bind_ok]
      constructor
      · rintro ⟨found, _, removing, answered⟩
        cases answered
        rcases removeRecord_ok_iff.1 removing with
          ⟨-, absent, same⟩ | ⟨-, old, reads, maintains⟩
        · rw [if_neg (by simp [absent, Operation.expectsRecord])]
          exact same
        · obtain ⟨bytes, stored, -⟩ := reads_some_iff.1 reads
          rw [if_pos (by simp [stored, Operation.expectsRecord])]
          rw [← removals] at maintains
          exact ⟨some old, before.delete key, isKey, reads, rfl, maintains⟩
      · intro ends
        cases stored : before.get store key with
        | none =>
            rw [if_neg (by simp [stored, Operation.expectsRecord])] at ends
            exact ⟨false, after, removeRecord_ok_iff.2 (.inl ⟨rfl, stored, ends⟩), rfl⟩
        | some bytes =>
            rw [if_pos (by simp [stored, Operation.expectsRecord])] at ends
            obtain ⟨old, _, -, reads, rfl, maintains⟩ := ends
            cases old with
            | none =>
                rw [reads_none_iff.1 reads] at stored
                cases stored
            | some old =>
                have unindexed :=
                  removeRecord_ok_iff.2 (.inr ⟨rfl, old, reads, removals old ▸ maintains⟩)
                exact ⟨true, after, unindexed, rfl⟩

/-- An operation that takes effect succeeds exactly if it can replace the record. -/
theorem operation_ok_iff
    (effective : operation.isEffective (before.get store)) :
    outcome (operation.action store) before = (.ok (), after) ↔
      ∃ key old middle, Replaces catalog store operation key old before middle after := by
  rw [Operation.isEffective] at effective
  rcases isKey : catalog.recordKey operation.type operation.primary with error | key
  · rw [isKey] at effective
    cases effective
  · rw [isKey] at effective
    rw [operation_ok_of_key isKey, if_pos (of_decide_eq_true effective)]
    constructor
    · rintro ⟨old, middle, replaces⟩
      exact ⟨key, old, middle, replaces⟩
    · rintro ⟨other, old, middle, replaces⟩
      cases isKey.symm.trans replaces.isKey
      exact ⟨old, middle, replaces⟩

/-- An operation that succeeds without taking effect has done nothing. -/
theorem operation_of_not_effective
    (notEffective : ¬ operation.isEffective (before.get store))
    (success : outcome (operation.action store) before = (.ok (), after)) :
    after = before := by
  obtain ⟨key, isKey⟩ := key_of_operation_ok success
  rw [Operation.isEffective, isKey] at notEffective
  rw [operation_ok_of_key isKey, if_neg (by simpa using notEffective)] at success
  exact success

end Operations

end SecondaryIndex.Records
