import SecondaryIndex.Proofs.Records.Interleaving

namespace SecondaryIndex.Records

/-!
# Stored records can be evaluated

A record is only stored by an operation that asks every declared index for its
value.  So wherever a record has come to be stored, its indexes do not fail.
-/

open Versioned

variable
  {ι : Type}
  {catalog : Catalog ι}

/-- No declared index fails on a stored record. -/
def Catalog.Evaluable
    (catalog : Catalog ι)
    (view : Bytes → Option Bytes) :
    Prop :=
  ∀ {type : ι} {primary key : Bytes} {record : (catalog.types type).Record},
    catalog.recordKey type primary = .ok key →
      Reads (catalog.types type).codec (view key) (some record) →
        ∀ declared ∈ (catalog.types type).schema.indexes,
          ∃ value?, declared.valueOf record = .ok value?

/-- What is stored for a record reads as that record, and as no other. -/
theorem Stores.reads_unique
    {type : RecordType}
    {content : Option Bytes}
    {record? : Option type.Record}
    {record : type.Record}
    (lawful : type.codec.RoundTrips)
    (stores : Stores type content record?)
    (reads : Reads type.codec content (some record)) :
    record? = some record := by
  obtain ⟨bytes, rfl, decoded⟩ := reads_some_iff.1 reads
  cases record? with
  | none =>
      exact stores.elim
  | some stored =>
      rw [lawful stores] at decoded
      cases decoded
      rfl

/-- An operation that takes effect has asked the indexes of the record that it stores. -/
theorem Replaces.evaluable
    {store : Store}
    {operation : Operation catalog}
    {key : Bytes}
    {old : Option (catalog.types operation.type).Record}
    {record : (catalog.types operation.type).Record}
    {before middle after : Transaction}
    (lawful : catalog.Lawful)
    (replaces : Replaces catalog store operation key old before middle after)
    (reads : Reads (catalog.types operation.type).codec (after.get store key) (some record)) :
    ∀ declared ∈ (catalog.types operation.type).schema.indexes,
      ∃ value?, declared.valueOf record = .ok value? := by
  rw [get_updateEntries replaces.maintains (lawful.not_isEntry replaces.isKey)] at reads
  have isNew : operation.record? = some record :=
    (stores_of_writes replaces.writes).reads_unique (lawful.records operation.type) reads
  have maintains := replaces.maintains
  rw [isNew] at maintains
  intro declared isDeclared
  have isListed :
      (⟨declared, .add, record⟩ : EntryUpdate _) ∈ replacements old (some record) :=
    List.mem_append_right _ (List.mem_map.2 ⟨declared, isDeclared, rfl⟩)
  exact valueOf_of_updateEntries_ok maintains _ isListed

/-- Operations keep stored records evaluable, and so do writes that are published. -/
theorem Catalog.Lawful.keeps_evaluable
    (lawful : catalog.Lawful) :
    catalog.Keeps catalog.Evaluable where
  empty := by
    intro type primary key record isKey reads
    exact reads.elim
  operation {store operation before after} evaluable success := by
    intro type primary key record isKey reads
    by_cases effective : operation.isEffective (before.get store)
    · obtain ⟨replaced, old, middle, replaces⟩ := (operation_ok_iff effective).1 success
      by_cases same : key = replaced
      · subst same
        obtain ⟨rfl, -⟩ := lawful.recordKey_unique replaces.isKey isKey
        exact replaces.evaluable lawful reads
      · rw [get_updateEntries replaces.maintains (lawful.not_isEntry isKey),
          replaces.writes.get_of_ne same] at reads
        exact evaluable isKey reads
    · rw [operation_of_not_effective effective success] at reads
      exact evaluable isKey reads
  overlay {writes snapshot latest} _ viewEvaluable latestEvaluable _ := by
    intro type primary key record isKey reads
    cases written : writes.find? key with
    | some content =>
        rw [overlay_of_written written] at reads
        apply viewEvaluable isKey
        rwa [overlay_of_written written]
    | none =>
        rw [overlay_of_not_written written] at reads
        exact latestEvaluable isKey reads

end SecondaryIndex.Records
