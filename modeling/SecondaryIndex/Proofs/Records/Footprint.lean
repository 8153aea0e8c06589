import SecondaryIndex.Proofs.Footprint
import SecondaryIndex.Proofs.Records.Operations

namespace SecondaryIndex.Records

/-!
# Operations write what they read

In a map that agrees, an operation that takes effect writes every key that it
reads: the key of its record, which it replaces, and the entries of the old and of
the new record.  An entry of the old record lists it, so the first removal there
changes the entry; and as no entry lists it after the removals, so does the first
addition.  Hence the operation can be repeated in every transaction that has
written the same, as long as the snapshot holds the same under the written keys.
-/

open Versioned

/-- Whether an entry is one of the old record or of the new one. -/
def Involves
    {type : RecordType}
    (layout : KeyLayout)
    (old new : Option type.Record)
    (entry : Bytes) :
    Prop :=
  ∃ update ∈ replacements old new, update.Targets layout type.schema.typeName entry

section Updates

variable
  {R C : Type}
  {schema : Schema R C}
  {layout : KeyLayout}
  {change : Change}
  {record : R}
  {entry : Bytes}

theorem change_of_mem_updates :
    ∀ update ∈ schema.updates change record, update.change = change := by
  simp [Schema.updates]

/-- An update of a record is one of an entry if the record is to be listed there. -/
theorem targeted_iff :
    (∃ update ∈ schema.updates change record, update.Targets layout schema.typeName entry) ↔
      schema.Lists layout record entry := by
  simp [Schema.updates, Schema.Lists, EntryUpdate.Targets]

end Updates

section Written

variable
  {ι : Type}
  {catalog : Catalog ι}
  {store : Store}

/-- Writing a record writes its key and no other. -/
theorem Writes.wrote_iff
    {R : Type}
    {records : Codec R}
    {key other : Bytes}
    {record? : Option R}
    {before after : Transaction}
    (writes : Writes records key record? before after) :
    after.Wrote other ↔ other = key ∨ before.Wrote other := by
  cases record? with
  | none =>
      cases writes
      exact Transaction.wrote_delete
  | some record =>
      obtain ⟨bytes, -, rfl⟩ := writes
      exact Transaction.wrote_set

/--
Maintenance writes all entries of the old and of the new record, if just the entries
of the old record list it before.
-/
theorem wrote_replacements
    {type : ι}
    {key entry : Bytes}
    {old new : Option (catalog.types type).Record}
    {members : Bytes → Bytes → Prop}
    {before after : Transaction}
    (lawful : catalog.Lawful)
    (success :
      outcome
          ((catalog.environment store type).updateEntries catalog.layout
            (catalog.types type).schema.typeName key (replacements old new))
          before =
        (.ok (), after))
    (hold : EntriesHold catalog.postings catalog.layout (before.get store) members)
    (listed :
      members entry key ↔
        ∃ record, old = some record ∧ (catalog.types type).schema.Lists catalog.layout record entry)
    (involved : Involves catalog.layout old new entry) :
    after.Wrote entry := by
  rw [replacements, Environment.updateEntries_append] at success
  obtain ⟨_, middle, removing, adding⟩ := outcome_bind_ok.1 success
  obtain ⟨update, member, target⟩ := involved
  rcases List.mem_append.1 member with removal | addition
  · -- The entry lists the old record, so the removals write it; the additions leave it written.
    cases old with
    | none =>
        cases removal
    | some old =>
        have lists := targeted_iff.1 ⟨update, removal, target⟩
        have alters : Change.remove.Alters key (members entry) :=
          listed.2 ⟨old, rfl, lists⟩
        apply wrote_of_wrote adding
        exact wrote_updateEntries lawful.postings removing change_of_mem_updates hold alters
          ⟨update, removal, target⟩
  · -- No entry lists the record after the removals, so the additions write it.
    cases new with
    | none =>
        cases addition
    | some new =>
        have holdThen := entriesHold_updateEntries lawful.postings removing hold
        have unlisted := members_replaced catalog.layout key old none members entry key
        rw [replacements, Option.elim_none, List.append_nil, listed] at unlisted
        refine wrote_updateEntries lawful.postings adding change_of_mem_updates holdThen ?_
          ⟨update, addition, target⟩
        simp [Change.Alters, unlisted]

end Written

section Operations

variable
  {ι : Type}
  {catalog : Catalog ι}
  {shown : Bytes → Prop}
  {store mirror : Store}
  {operation : Operation catalog}
  {key : Bytes}
  {old : Option (catalog.types operation.type).Record}
  {before middle after image : Transaction}

/-- Writing a record can be mirrored. -/
theorem Writes.mirrored
    {R : Type}
    {records : Codec R}
    {record? : Option R}
    (writes : Writes records key record? before middle)
    (mirrors : Mirrors shown store mirror before image) :
    ∃ middleImage,
      Writes records key record? image middleImage ∧
        Mirrors shown store mirror middle middleImage := by
  cases record? with
  | none =>
      cases writes
      exact ⟨image.delete key, rfl, mirrors.delete key⟩
  | some record =>
      obtain ⟨bytes, encoded, rfl⟩ := writes
      exact ⟨image.set key bytes, ⟨bytes, encoded, rfl⟩, mirrors.set key bytes⟩

namespace Replaces

theorem wrote_key
    (replaces : Replaces catalog store operation key old before middle after) :
    after.Wrote key :=
  wrote_of_wrote replaces.maintains (replaces.writes.wrote_iff.2 (.inl rfl))

theorem wrote_entry
    {entry : Bytes}
    (lawful : catalog.Lawful)
    (agrees : catalog.Agrees (before.get store))
    (replaces : Replaces catalog store operation key old before middle after)
    (involved : Involves catalog.layout old operation.record? entry) :
    after.Wrote entry := by
  have oldStored := stores_of_reads lawful replaces.isKey agrees replaces.reads
  have hold :=
    entriesHold_of_others lawful replaces.isKey agrees fun _ => replaces.writes.get_of_ne
  have listed := listedIn_iff lawful replaces.isKey oldStored entry
  exact wrote_replacements lawful replaces.maintains hold listed involved

/-- What an operation does can be mirrored where all that it reads is seen alike. -/
theorem mirrored
    (replaces : Replaces catalog store operation key old before middle after)
    (mirrors : Mirrors shown store mirror before image)
    (keyShown : shown key)
    (entriesShown : ∀ entry, Involves catalog.layout old operation.record? entry → shown entry) :
    ∃ middleImage afterImage,
      Replaces catalog mirror operation key old image middleImage afterImage ∧
        Mirrors shown store mirror after afterImage := by
  obtain ⟨middleImage, writes, mirrorsThen⟩ := replaces.writes.mirrored mirrors
  have updatesShown :
      ∀ update ∈ replacements old operation.record?, ∀ entry,
        update.Targets catalog.layout (catalog.types operation.type).schema.typeName entry →
          shown entry := by
    intro update member entry target
    exact entriesShown entry ⟨update, member, target⟩
  obtain ⟨afterImage, maintains, mirrorsAfter⟩ :=
    (mirrored_updateEntries updatesShown).success replaces.maintains mirrorsThen
  refine ⟨middleImage, afterImage, ⟨replaces.isKey, ?_, writes, maintains⟩, mirrorsAfter⟩
  rw [mirrors.values key keyShown]
  exact replaces.reads

end Replaces

/-- Whether an operation takes effect depends on the key of its record only. -/
theorem isEffective_congr
    {view other : Bytes → Option Bytes}
    (isKey : catalog.recordKey operation.type operation.primary = .ok key)
    (same : view key = other key) :
    operation.isEffective view = operation.isEffective other := by
  rw [Operation.isEffective, Operation.isEffective, isKey]
  dsimp only
  rw [same]

/--
An operation that takes effect can be repeated wherever the same has been written,
if the snapshot holds the same under all keys that are written in the end.
-/
theorem repeats_operation
    (lawful : catalog.Lawful)
    (agrees : catalog.Agrees (before.get store))
    (effective : operation.isEffective (before.get store))
    (success : outcome (operation.action store) before = (.ok (), after))
    (sameWrites : image.writes = before.writes)
    (sameValues :
      ∀ key,
        after.Wrote key →
          mirror.valueAt image.snapshot key = store.valueAt before.snapshot key) :
    operation.isEffective (image.get mirror) ∧
      outcome (operation.action mirror) image = (.ok (), ⟨image.snapshot, after.writes⟩) := by
  obtain ⟨key, old, middle, replaces⟩ := (operation_ok_iff effective).1 success
  have mirrors : Mirrors after.Wrote store mirror before image :=
    .of_snapshots sameWrites sameValues
  have effectiveToo : operation.isEffective (image.get mirror) := by
    rw [isEffective_congr replaces.isKey (mirrors.values key replaces.wrote_key)]
    exact effective
  obtain ⟨middleImage, afterImage, replacesToo, mirrorsAfter⟩ :=
    replaces.mirrored mirrors replaces.wrote_key fun _ => replaces.wrote_entry lawful agrees
  have successToo := (operation_ok_iff effectiveToo).2 ⟨key, old, middleImage, replacesToo⟩
  have sameSnapshot : (outcome (operation.action mirror) image).2.snapshot = image.snapshot :=
    snapshot_operation operation image
  refine ⟨effectiveToo, ?_⟩
  rw [successToo] at sameSnapshot ⊢
  rw [← sameSnapshot, ← mirrorsAfter.writes]

end Operations

end SecondaryIndex.Records
