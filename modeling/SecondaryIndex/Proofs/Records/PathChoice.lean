import SecondaryIndex.Proofs.Query.PathChoice
import SecondaryIndex.Proofs.Records.PathAgreement

namespace SecondaryIndex.Records

/-!
# When a lookup gives way to a scan

Where entries agree with records, an index without entries is one that gives no
record a value.  A query is therefore left to a scan, for want of entries, only if
there are records and the index lists none of them; then the lookup would miss them
all.  An index that lists a record is asked, as long as it can judge the criteria.
-/

open Versioned

variable
  {ι : Type}
  {catalog : Catalog ι}
  {type : ι}
  {index : String}
  {view : Bytes → Option Bytes}

namespace Catalog

/-- The services of a transaction to operations on records of a type, with a cursor. -/
abbrev seeking
    (catalog : Catalog ι)
    (store : Store)
    (type : ι) :
    Environment (Transaction × Cursor) (catalog.types type).Record
      (catalog.types type).Criterion :=
  Transaction.seeking store catalog.postings (catalog.types type).codec

/-- The path that is selected for a query in a transaction, with a cursor that stands somewhere. -/
def selected
    (catalog : Catalog ι)
    (store : Store)
    (transaction : Transaction)
    (cursor : Cursor)
    (type : ι)
    (query : Query (catalog.types type).Criterion) :
    Except IndexError AccessPath :=
  (outcome
    ((catalog.seeking store type).selectPath catalog.layout (catalog.types type).schema query)
    (transaction, cursor)).1

/-- Whether a map has a record of a type under a key. -/
def Has
    (catalog : Catalog ι)
    (view : Bytes → Option Bytes)
    (type : ι)
    (key : Bytes)
    (record : (catalog.types type).Record) :
    Prop :=
  ∃ primary bytes,
    catalog.recordKey type primary = .ok key ∧
      view key = some bytes ∧ (catalog.types type).codec.decode bytes = .ok record

/-- Whether an index gives no record of a map a value. -/
def GivesNone
    (catalog : Catalog ι)
    (view : Bytes → Option Bytes)
    (type : ι)
    (index : String) :
    Prop :=
  ∀ key record,
    catalog.Has view type key record →
      ∀ declared ∈ (catalog.types type).schema.indexes,
        declared.name = index → declared.valueOf record = .ok none

/-- What lies under the lead of a type are its records. -/
theorem hasRecords_iff
    (indexed : catalog.Indexed view)
    (free : delimiter ∉ Bytes.ofText (catalog.types type).schema.typeName) :
    catalog.layout.HasRecords view (catalog.types type).schema.typeName ↔
      ∃ key record, catalog.Has view type key record := by
  obtain ⟨lead, isLead, isKey⟩ := catalog.layout.builds.records free
  constructor
  · rintro ⟨_, key, isLeadToo, under, present⟩
    obtain ⟨primary, isKey⟩ := KeyLayout.recordKey_of_startsWith isLeadToo under
    obtain ⟨bytes, stored⟩ := Option.isSome_iff_exists.1 present
    obtain ⟨record, -, decoded⟩ := indexed.readable isKey stored
    exact ⟨key, record, primary, bytes, isKey, stored, decoded⟩
  · rintro ⟨key, record, primary, bytes, isRecord, stored, -⟩
    have under := (KeyLayout.recordKey_startsWith_iff isLead isRecord).2 rfl
    exact ⟨lead, key, isLead, under, by rw [stored]; rfl⟩

/-- What lies under the lead of an index are the entries of the values that it gives records. -/
theorem hasEntries_iff
    (indexed : catalog.Indexed view)
    (free : delimiter ∉ Bytes.ofText (catalog.types type).schema.typeName)
    (indexesFree :
      ∀ declared ∈ (catalog.types type).schema.indexes, delimiter ∉ Bytes.ofText declared.name) :
    catalog.layout.HasEntries view (catalog.types type).schema.typeName index ↔
      ∃ value key, catalog.Carries view type index value key := by
  constructor
  · rintro ⟨_, key, isLead, under, present⟩
    obtain ⟨value, isEntry⟩ := KeyLayout.entryKey_of_startsWith isLead under
    exact ⟨value, (indexed.present isEntry).1 present⟩
  · rintro ⟨value, key, carries⟩
    obtain ⟨_, _, _, declared, -, -, -, isDeclared, rfl, -⟩ := id carries
    obtain ⟨lead, isLead, isEntry⟩ :=
      catalog.layout.builds.entries free (indexesFree declared isDeclared)
    have present := (indexed.present (isEntry value)).2 ⟨key, carries⟩
    exact ⟨lead, lead ++ value, isLead, Bytes.startsWith_append lead value, present⟩

/-- An index that gives no record a value is one under which none has a value. -/
theorem givesNone_iff
    (evaluable : catalog.Evaluable view) :
    catalog.GivesNone view type index ↔
      ¬ ∃ value key, catalog.Carries view type index value key := by
  constructor
  · rintro givesNone ⟨value, key, primary, bytes, record, declared, isKey, stored, decoded,
      isDeclared, named, valued⟩
    have none := givesNone key record ⟨primary, bytes, isKey, stored, decoded⟩ declared isDeclared
      named
    cases valued.symm.trans none
  · rintro noneCarries key record ⟨primary, bytes, isKey, stored, decoded⟩ declared isDeclared named
    have reads : Reads (catalog.types type).codec (view key) (some record) := by
      rw [stored]
      exact decoded
    obtain ⟨value?, valued⟩ := evaluable isKey reads declared isDeclared
    cases value? with
    | none =>
        exact valued
    | some value =>
        exact absurd ⟨value, key, primary, bytes, record, declared, isKey, stored, decoded,
          isDeclared, named, valued⟩ noneCarries

end Catalog

section Selection

variable
  (free : delimiter ∉ Bytes.ofText (catalog.types type).schema.typeName)
  (indexesFree :
    ∀ declared ∈ (catalog.types type).schema.indexes, delimiter ∉ Bytes.ofText declared.name)

include free indexesFree

/-- Selecting a path moves the cursor and nothing else, and the path is settled by the view. -/
theorem selected_chooses
    (store : Store)
    (transaction : Transaction)
    (cursor : Cursor)
    (query : Query (catalog.types type).Criterion) :
    (∃ after,
      outcome
          ((catalog.seeking store type).selectPath catalog.layout (catalog.types type).schema query)
          (transaction, cursor) =
        (catalog.selected store transaction cursor type query, (transaction, after))) ∧
    outcome
        ((catalog.environment store type).selectPath catalog.layout (catalog.types type).schema
          query)
        transaction =
      (catalog.selected store transaction cursor type query, transaction) ∧
    (catalog.types type).schema.Chooses catalog.layout query (transaction.get store)
      (catalog.selected store transaction cursor type query) := by
  obtain ⟨result, selects, chooses⟩ :=
    selectPath_chooses store transaction catalog.postings (catalog.types type).codec catalog.layout
      query free indexesFree
  obtain ⟨after, seeks⟩ :=
    selectPath_seeking store transaction catalog.postings (catalog.types type).codec catalog.layout
      (catalog.types type).schema query cursor
  rw [selects] at seeks
  have same : catalog.selected store transaction cursor type query = result :=
    congrArg Prod.fst seeks
  rw [same]
  exact ⟨⟨after, seeks⟩, selects, chooses⟩

/-- A query is left to a scan, for want of entries, if the index lists none of the records. -/
theorem wants_entries_iff
    (indexed : catalog.Indexed view)
    (evaluable : catalog.Evaluable view) :
    catalog.layout.HasRecords view (catalog.types type).schema.typeName ∧
        ¬ catalog.layout.HasEntries view (catalog.types type).schema.typeName index ↔
      (∃ key record, catalog.Has view type key record) ∧ catalog.GivesNone view type index := by
  rw [Catalog.hasRecords_iff indexed free, Catalog.hasEntries_iff indexed free indexesFree,
    Catalog.givesNone_iff evaluable]

end Selection

/--
The path of a query follows from what the view has under two leads, wherever the
cursor stands that is sent there.  The index has to be declared; the lookup gives way
to a scan of all records for a criterion that needs the record, or because the index
has no entry although there are records, and for nothing else.  In the view of every
open transaction in which no operation has failed, the latter is so exactly if there
are records and the index gives none of them a value.  So there a lookup is not
selected where it would miss all records, and an index under which some record has a
value is not left to a scan for want of entries.
-/
theorem path_follows_view
    {ι : Type}
    (catalog : Catalog ι)
    (type : ι)
    (free : delimiter ∉ Bytes.ofText (catalog.types type).schema.typeName)
    (indexesFree :
      ∀ declared ∈ (catalog.types type).schema.indexes, delimiter ∉ Bytes.ofText declared.name) :
    let schema := (catalog.types type).schema
    (∀ (store : Store) (transaction : Transaction) (cursor : Cursor)
        (query : Query (catalog.types type).Criterion),
      let selected := catalog.selected store transaction cursor type query
      schema.Chooses catalog.layout query (transaction.get store) selected ∧
      (∀ other,
        schema.Chooses catalog.layout query (transaction.get store) other → other = selected) ∧
      (∃ after,
        outcome ((catalog.seeking store type).selectPath catalog.layout schema query)
            (transaction, cursor) =
          (selected, (transaction, after))) ∧
      outcome ((catalog.environment store type).selectPath catalog.layout schema query)
          transaction =
        (selected, transaction)) ∧
    ∀ (steps : List (RecordStep catalog)) (number : Nat) (transaction : Transaction),
      catalog.Lawful →
        (recordRun steps).published.length ≤ lastStamp →
          (recordRun steps).transaction? number = some transaction →
            number ∉ (recordRun steps).broken →
              let store := (recordRun steps).store
              let view := transaction.get store
              ∀ index,
                (catalog.layout.HasRecords view schema.typeName ∧
                    ¬ catalog.layout.HasEntries view schema.typeName index ↔
                  (∃ key record, catalog.Has view type key record) ∧
                    catalog.GivesNone view type index) ∧
                ∀ (cursor : Cursor) (query : Query (catalog.types type).Criterion),
                  (catalog.selected store transaction cursor type query =
                      .ok (.indexedLookup index) →
                    (∃ key record, catalog.Has view type key record) →
                      catalog.layout.HasEntries view schema.typeName index) ∧
                  (query.target = .index index →
                    (∃ value key, catalog.Carries view type index value key) →
                      schema.needsRecord (query.fieldCriteria.findD index []) = false →
                        catalog.selected store transaction cursor type query =
                          .ok (.indexedLookup index)) := by
  intro schema
  constructor
  · intro store transaction cursor query selected
    obtain ⟨seeks, selects, chooses⟩ :=
      selected_chooses free indexesFree store transaction cursor query
    exact ⟨chooses, fun other choosesToo => choosesToo.unique chooses, seeks, selects⟩
  · intro steps number transaction lawful bounded isOpen unbroken store view index
    have consistent : Consistent catalog (recordRun steps) :=
      Consistent.start.steps lawful bounded
    have evaluated : Kept catalog.Evaluable (recordRun steps) :=
      Kept.steps lawful.keeps_evaluable (.start lawful.keeps_evaluable.empty) bounded
    have indexed : catalog.Indexed view := (consistent.views isOpen unbroken).indexed lawful
    have evaluable : catalog.Evaluable view := evaluated.views isOpen unbroken
    refine ⟨wants_entries_iff free indexesFree indexed evaluable, ?_⟩
    intro cursor query
    obtain ⟨-, -, chooses⟩ := selected_chooses free indexesFree store transaction cursor query
    constructor
    · intro looksUp someRecord
      obtain ⟨-, -, stays⟩ := (chooses.lookedUp index).1 looksUp
      by_contra noEntry
      exact stays (.inr ⟨(Catalog.hasRecords_iff indexed free).2 someRecord, noEntry⟩)
    · intro target someCarries needsNone
      obtain ⟨_, _, _, _, _, declared, -, -, -, isDeclared, named, -⟩ := id someCarries
      refine (chooses.lookedUp index).2 ⟨target, ⟨declared, isDeclared, named⟩, ?_⟩
      rintro (needs | ⟨-, noEntry⟩)
      · rw [needsNone] at needs
        cases needs
      · exact noEntry ((Catalog.hasEntries_iff indexed free indexesFree).2 someCarries)

/-- Some record of the inserted ones has a value. -/
theorem threeInserts_carries :
    ∃ transaction,
      (recordRun threeInserts).transaction? 0 = some transaction ∧
        ∃ value key,
          judgedInitials.Carries (transaction.get (recordRun threeInserts).store) () "initial" value
            key := by
  have isOpen : ((recordRun threeInserts).transaction? 0).isSome := by
    decide +kernel
  obtain ⟨transaction, isOpen⟩ := Option.isSome_iff_exists.1 isOpen
  have stored :
      ((recordRun threeInserts).transaction? 0).map (fun transaction =>
        transaction.get (recordRun threeInserts).store (Bytes.ofText "kh_note:" ++ [1])) =
        some (some (Binary.writeBytes [7])) := by
    decide +kernel
  rw [isOpen] at stored
  exact
    ⟨transaction, isOpen, [7], _, [1], Binary.writeBytes [7], [7], _, rfl, Option.some.inj stored,
      rfl, List.mem_singleton_self _, rfl, rfl⟩

/-- A transaction that inserts a record without a value. -/
def bareInsert :
    List (RecordStep judgedInitials) :=
  [.begin, .operate 0 (.insert () [3] [])]

/-- The inserted record is the only one, and has no value. -/
theorem bareInsert_givesNone :
    ∃ transaction,
      (recordRun bareInsert).transaction? 0 = some transaction ∧
        (∃ key record,
          judgedInitials.Has (transaction.get (recordRun bareInsert).store) () key record) ∧
        judgedInitials.GivesNone (transaction.get (recordRun bareInsert).store) () "initial" := by
  have isOpen :
      (recordRun bareInsert).transaction? 0 =
        some
          (Transaction.set ⟨0, .empty⟩ (Bytes.ofText "kh_note:" ++ [3]) (Binary.writeBytes [])) :=
    rfl
  have shown (key : Bytes) :
      (Transaction.set ⟨0, .empty⟩ (Bytes.ofText "kh_note:" ++ [3]) (Binary.writeBytes [])).get
          (recordRun bareInsert).store key =
        if key = Bytes.ofText "kh_note:" ++ [3] then some (Binary.writeBytes []) else none :=
    Transaction.get_set ..
  have decodes : (judgedInitials.types ()).codec.decode (Binary.writeBytes []) = .ok [] :=
    rfl
  refine ⟨_, isOpen, ⟨Bytes.ofText "kh_note:" ++ [3], [], [3], _, rfl, ?_, decodes⟩, ?_⟩
  · rw [shown, if_pos rfl]
  · rintro key record ⟨primary, bytes, -, stored, decoded⟩ declared isDeclared -
    rw [shown] at stored
    split at stored
    · cases stored
      cases decodes.symm.trans decoded
      cases List.mem_singleton.1 isDeclared
      rfl
    · cases stored

/--
Wherever the cursor stands, values that are there are looked up in their index, and a
transaction with a record but without a value scans the records.
-/
theorem path_follows_view_of_initials :
    (∃ transaction,
      (recordRun threeInserts).transaction? 0 = some transaction ∧
      ∀ cursor,
        judgedInitials.selected (recordRun threeInserts).store transaction cursor () sevenFirst =
          .ok (.indexedLookup "initial")) ∧
    ∃ transaction,
      (recordRun bareInsert).transaction? 0 = some transaction ∧
      ∀ cursor,
        judgedInitials.selected (recordRun bareInsert).store transaction cursor () sevenFirst =
          .ok .fullScan := by
  have free : delimiter ∉ Bytes.ofText (judgedInitials.types ()).schema.typeName := by
    decide
  have indexesFree :
      ∀ declared ∈ (judgedInitials.types ()).schema.indexes,
        delimiter ∉ Bytes.ofText declared.name := by
    intro declared isDeclared
    cases List.mem_singleton.1 isDeclared
    decide
  obtain ⟨chosen, follows⟩ := path_follows_view judgedInitials () free indexesFree
  constructor
  · have bounded : (recordRun threeInserts).published.length ≤ lastStamp := by
      decide +kernel
    have unbroken : 0 ∉ (recordRun threeInserts).broken := by
      decide +kernel
    obtain ⟨transaction, isOpen, carries⟩ := threeInserts_carries
    obtain ⟨-, paths⟩ :=
      follows threeInserts 0 transaction judgedInitials_lawful bounded isOpen unbroken "initial"
    exact ⟨transaction, isOpen, fun cursor => (paths cursor sevenFirst).2 rfl carries rfl⟩
  · have bounded : (recordRun bareInsert).published.length ≤ lastStamp := by
      decide +kernel
    have unbroken : 0 ∉ (recordRun bareInsert).broken := by
      decide +kernel
    obtain ⟨transaction, isOpen, lists⟩ := bareInsert_givesNone
    obtain ⟨wants, -⟩ :=
      follows bareInsert 0 transaction judgedInitials_lawful bounded isOpen unbroken "initial"
    have leaves := wants.2 lists
    have declares : (judgedInitials.types ()).schema.Declares "initial" :=
      ⟨_, List.mem_singleton_self _, rfl⟩
    refine ⟨transaction, isOpen, fun cursor => ?_⟩
    exact
      (chosen _ transaction cursor sevenFirst).1.inFull.2 ⟨"initial", rfl, declares, .inr leaves⟩

end SecondaryIndex.Records
