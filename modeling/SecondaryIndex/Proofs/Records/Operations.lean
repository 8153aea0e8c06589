import SecondaryIndex.Proofs.Records.Agreement
import SecondaryIndex.Proofs.Records.Replacement

namespace SecondaryIndex.Records

/-!
# Operations keep entries and records in agreement

Each operation replaces what is stored for one record, and then takes the old
record out of its entries and lists the new one.  If it succeeds in a transaction
whose view agrees, the view agrees afterwards.
-/

open Versioned

/-- What is stored for a record, or for none. -/
def Stores
    (type : RecordType)
    (content : Option Bytes)
    (record? : Option type.Record) :
    Prop :=
  match content, record? with
  | none, none =>
      True
  | some bytes, some record =>
      type.codec.encode record = .ok bytes
  | _, _ =>
      False

/-- A replaced record is a member of the entries of the new one and of no others. -/
theorem members_replaced
    {type : RecordType}
    (layout : KeyLayout)
    (key : Bytes)
    (old new : Option type.Record)
    (members : Bytes → Bytes → Prop)
    (entry other : Bytes) :
    (replacements old new).foldl (EntryUpdate.revised layout type.schema.typeName key) members
        entry other ↔
      (members entry other ∧
          ¬ (other = key ∧ ∃ record, old = some record ∧ type.schema.Lists layout record entry)) ∨
        other = key ∧ ∃ record, new = some record ∧ type.schema.Lists layout record entry := by
  rw [replacements, List.foldl_append]
  cases old <;> cases new <;> simp [members_add, members_remove]

section Replacing

variable
  {ι : Type}
  {catalog : Catalog ι}
  {type : ι}
  {primary key : Bytes}

/-- What is stored for a record is listed in the entries of the record. -/
theorem listedIn_iff
    {content : Option Bytes}
    {record? : Option (catalog.types type).Record}
    (lawful : catalog.Lawful)
    (isKey : catalog.recordKey type primary = .ok key)
    (stores : Stores (catalog.types type) content record?)
    (entry : Bytes) :
    catalog.ListedIn content entry key ↔
      ∃ record,
        record? = some record ∧
          (catalog.types type).schema.Lists catalog.layout record entry := by
  cases content with
  | none =>
      cases record? with
      | none =>
          simp [Catalog.ListedIn]
      | some record =>
          exact stores.elim
  | some bytes =>
      cases record? with
      | none =>
          exact stores.elim
      | some record =>
          have decoded := lawful.records type stores
          constructor
          · rintro ⟨other, otherPrimary, _, stored, isOther, same, decodes, lists⟩
            obtain ⟨rfl, -⟩ := lawful.recordKey_unique isOther isKey
            cases same
            rw [decoded] at decodes
            cases decodes
            exact ⟨_, rfl, lists⟩
          · rintro ⟨_, same, lists⟩
            cases same
            exact ⟨type, primary, bytes, record, isKey, rfl, decoded, lists⟩

/--
A map agrees after the record of one key has been replaced, if its entries hold
the members that follow from it.
-/
theorem agrees_of_replaced
    {before after : Bytes → Option Bytes}
    {old new : Option (catalog.types type).Record}
    (lawful : catalog.Lawful)
    (isKey : catalog.recordKey type primary = .ok key)
    (agrees : catalog.Agrees before)
    (oldStored : Stores (catalog.types type) (before key) old)
    (newStored : Stores (catalog.types type) (after key) new)
    (others :
      ∀ other, other ≠ key → ¬ catalog.layout.IsEntry other → after other = before other)
    (entries :
      EntriesHold catalog.postings catalog.layout after
        ((replacements old new).foldl
          (EntryUpdate.revised catalog.layout (catalog.types type).schema.typeName key)
          fun entry other => catalog.ListedIn (before other) entry other)) :
    catalog.Agrees after where
  entries := by
    intro entry isEntry
    refine (entries entry isEntry).congr ?_
    intro other
    rw [members_replaced]
    dsimp only
    by_cases same : other = key
    · subst same
      rw [listedIn_iff lawful isKey oldStored, listedIn_iff lawful isKey newStored]
      simp only [true_and, and_not_self_iff, false_or]
    · by_cases isRecord : ∃ type primary, catalog.recordKey type primary = .ok other
      · obtain ⟨otherType, otherPrimary, isOther⟩ := isRecord
        rw [others other same (lawful.not_isEntry isOther)]
        simp [same]
      · have notListed : ∀ content, ¬ catalog.ListedIn content entry other := by
          rintro content ⟨otherType, otherPrimary, _, _, isOther, -⟩
          exact isRecord ⟨otherType, otherPrimary, isOther⟩
        simp [same, notListed]
  records := by
    intro otherType otherPrimary other bytes isOther stored
    by_cases same : other = key
    · subst same
      obtain ⟨rfl, -⟩ := lawful.recordKey_unique isOther isKey
      rw [stored] at newStored
      cases new with
      | none =>
          exact newStored.elim
      | some record =>
          exact ⟨record, newStored⟩
    · rw [others other same (lawful.not_isEntry isOther)] at stored
      exact agrees.records isOther stored

/-- While only a record has been replaced, the entries list what had been there before. -/
theorem entriesHold_of_others
    {before after : Bytes → Option Bytes}
    (lawful : catalog.Lawful)
    (isKey : catalog.recordKey type primary = .ok key)
    (agrees : catalog.Agrees before)
    (others : ∀ other, other ≠ key → after other = before other) :
    EntriesHold catalog.postings catalog.layout after
      fun entry other => catalog.ListedIn (before other) entry other := by
  intro entry isEntry
  have different : entry ≠ key := by
    rintro rfl
    exact lawful.not_isEntry isKey isEntry
  rw [others entry different]
  exact agrees.entries entry isEntry

/-- Maintenance after a record has been replaced brings the entries into agreement. -/
theorem agrees_updateEntries
    {store : Store}
    {before middle after : Transaction}
    {old new : Option (catalog.types type).Record}
    (lawful : catalog.Lawful)
    (isKey : catalog.recordKey type primary = .ok key)
    (agrees : catalog.Agrees (before.get store))
    (oldStored : Stores (catalog.types type) (before.get store key) old)
    (newStored : Stores (catalog.types type) (middle.get store key) new)
    (others : ∀ other, other ≠ key → middle.get store other = before.get store other)
    (success :
      outcome
          ((catalog.environment store type).updateEntries catalog.layout
            (catalog.types type).schema.typeName key (replacements old new))
          middle =
        (.ok (), after)) :
    catalog.Agrees (after.get store) := by
  have noEntry := lawful.not_isEntry isKey
  have untouched :
      ∀ other, ¬ catalog.layout.IsEntry other → after.get store other = middle.get store other := by
    intro other notEntry
    exact get_updateEntries success notEntry
  apply agrees_of_replaced lawful isKey agrees oldStored
  · rw [untouched key noEntry]
    exact newStored
  · intro other different notEntry
    rw [untouched other notEntry, others other different]
  · exact entriesHold_updateEntries lawful.postings success
      (entriesHold_of_others lawful isKey agrees others)

/-- What is stored under the key of a record, in a map that agrees, is the record it reads as. -/
theorem stores_of_reads
    {view : Bytes → Option Bytes}
    {record? : Option (catalog.types type).Record}
    (lawful : catalog.Lawful)
    (isKey : catalog.recordKey type primary = .ok key)
    (agrees : catalog.Agrees view)
    (reads : Reads (catalog.types type).codec (view key) record?) :
    Stores (catalog.types type) (view key) record? := by
  cases record? with
  | none =>
      rw [reads_none_iff.1 reads]
      trivial
  | some record =>
      obtain ⟨bytes, stored, decoded⟩ := reads_some_iff.1 reads
      obtain ⟨written, encoded⟩ := agrees.records isKey stored
      rw [lawful.records type encoded] at decoded
      cases decoded
      rw [stored]
      exact encoded

/-- A record that has been written is stored under its key. -/
theorem stores_of_writes
    {store : Store}
    {before after : Transaction}
    {record? : Option (catalog.types type).Record}
    (writes : Writes (catalog.types type).codec key record? before after) :
    Stores (catalog.types type) (after.get store key) record? := by
  cases record? with
  | none =>
      cases writes
      rw [Transaction.get_delete, if_pos rfl]
      trivial
  | some record =>
      obtain ⟨bytes, encoded, rfl⟩ := writes
      rw [Transaction.get_set, if_pos rfl]
      exact encoded

end Replacing

section Operations

variable
  {ι : Type}
  {catalog : Catalog ι}
  {store : Store}

/-- An operation that succeeds leaves a view that agrees. -/
theorem agrees_operation
    {operation : Operation catalog}
    {before after : Transaction}
    (lawful : catalog.Lawful)
    (agrees : catalog.Agrees (before.get store))
    (success : outcome (operation.action store) before = (.ok (), after)) :
    catalog.Agrees (after.get store) := by
  by_cases effective : operation.isEffective (before.get store)
  · obtain ⟨key, old, middle, replaces⟩ := (operation_ok_iff effective).1 success
    have oldStored := stores_of_reads lawful replaces.isKey agrees replaces.reads
    apply agrees_updateEntries lawful replaces.isKey agrees oldStored
    · exact stores_of_writes replaces.writes
    · intro other different
      exact replaces.writes.get_of_ne different
    · exact replaces.maintains
  · rw [operation_of_not_effective effective success]
    exact agrees

end Operations

section Frame

variable
  {R C : Type}
  {store : Store}
  {postings : Codec PostingList}
  {records : Codec R}
  {layout : KeyLayout}
  {schema : Schema R C}
  {kept : Transaction → Prop}

theorem preserves_loadRecord
    (key : Bytes) :
    Preserves kept
      ((Transaction.environment (C := C) store postings records).loadRecord key) := by
  refine .bind (fun _ held => held) ?_
  intro content
  cases content with
  | none =>
      exact .pure _
  | some bytes =>
      exact .map _ fun _ held => held

variable
  (keptBySet : ∀ transaction key bytes, kept transaction → kept (transaction.set key bytes))
  (keptByDelete : ∀ transaction key, kept transaction → kept (transaction.delete key))

include keptBySet

theorem preserves_storeRecord
    (key : Bytes)
    (record : R) :
    Preserves kept
      ((Transaction.environment (C := C) store postings records).storeRecord key record) := by
  refine .bind (fun _ held => held) ?_
  intro bytes transaction held
  exact keptBySet transaction key bytes held

include keptByDelete

theorem preserves_maintenance
    (typeName : String)
    (key : Bytes)
    (updates : List (EntryUpdate R)) :
    Preserves kept
      (RecordAction.ofIndex
        ((Transaction.environment (C := C) store postings records).updateEntries layout typeName
          key updates)) := by
  refine .ofIndex (preserves_updateEntries ?_ ?_ updates)
  · intro transaction entry bytes _ held
    exact keptBySet transaction entry bytes held
  · intro transaction entry _ held
    exact keptByDelete transaction entry held

theorem preserves_insertRecord
    (key : Bytes)
    (record : R) :
    Preserves kept
      ((Transaction.environment store postings records).insertRecord layout schema key record) :=
  .bind (preserves_storeRecord keptBySet key record) fun _ =>
    preserves_maintenance keptBySet keptByDelete _ key _

theorem preserves_updateRecord
    (key : Bytes)
    (record : R) :
    Preserves kept
      ((Transaction.environment store postings records).updateRecord layout schema key record) := by
  refine .bind (preserves_loadRecord key) ?_
  intro old?
  cases old? with
  | none =>
      exact .pure _
  | some old =>
      refine .bind (preserves_storeRecord keptBySet key record) ?_
      intro _
      exact .bind (preserves_maintenance keptBySet keptByDelete _ key _) fun _ => .pure _

theorem preserves_removeRecord
    (key : Bytes) :
    Preserves kept
      ((Transaction.environment store postings records).removeRecord layout schema key) := by
  refine .bind (preserves_loadRecord key) ?_
  intro old?
  cases old? with
  | none =>
      exact .pure _
  | some old =>
      refine .bind (fun transaction held => keptByDelete transaction key held) ?_
      intro _
      exact .bind (preserves_maintenance keptBySet keptByDelete _ key _) fun _ => .pure _

/-- An operation preserves what writing and deleting preserve, whatever comes of it. -/
theorem preserves_operation
    {ι : Type}
    {catalog : Catalog ι}
    (operation : Operation catalog) :
    Preserves kept (operation.action store) := by
  cases operation with
  | insert type primary record =>
      refine .bind (fun _ held => held) ?_
      intro key
      refine .bind (fun _ held => held) ?_
      intro content
      cases content with
      | some bytes =>
          exact .pure _
      | none =>
          exact preserves_insertRecord keptBySet keptByDelete key record
  | update type primary record =>
      refine .bind (fun _ held => held) ?_
      intro key
      exact .bind (preserves_updateRecord keptBySet keptByDelete key record) fun _ => .pure _
  | remove type primary =>
      refine .bind (fun _ held => held) ?_
      intro key
      exact .bind (preserves_removeRecord keptBySet keptByDelete key) fun _ => .pure _

end Frame

/-- Whatever comes of an operation, the transaction keeps its snapshot. -/
theorem snapshot_operation
    {ι : Type}
    {catalog : Catalog ι}
    {store : Store}
    (operation : Operation catalog)
    (before : Transaction) :
    (outcome (operation.action store) before).2.snapshot = before.snapshot := by
  have preserved :
      Preserves (fun transaction => transaction.snapshot = before.snapshot)
        (operation.action store) := by
    apply preserves_operation
    · intro transaction key bytes held
      exact held
    · intro transaction key held
      exact held
  exact preserved before rfl

end SecondaryIndex.Records
