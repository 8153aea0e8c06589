import SecondaryIndex.Proofs.KeyLayout
import SecondaryIndex.Proofs.Maintenance
import SecondaryIndex.Proofs.Records.World
import SecondaryIndex.Proofs.Versioned.Publication

namespace SecondaryIndex.Records

/-!
# Agreement of entries and records

In a map that agrees, each entry holds the keys of the records that are to be
listed there.  What is stored for an entry settles which records it lists, so two
maps that agree, and that store the same for an entry, list the same records in
it.  This is why no more than the writes of transactions has to be compared to
keep what is committed in agreement.
-/

open Versioned

namespace Catalog

variable
  {ι : Type}
  {catalog : Catalog ι}

/-- Whether what is stored under a key is a record that is to be listed in an entry. -/
def ListedIn
    (catalog : Catalog ι)
    (content : Option Bytes)
    (entry key : Bytes) :
    Prop :=
  ∃ type primary bytes record,
    catalog.recordKey type primary = .ok key ∧
      content = some bytes ∧
        (catalog.types type).codec.decode bytes = .ok record ∧
          (catalog.types type).schema.Lists catalog.layout record entry

/-- Entries list exactly the records that are to be listed, and records can be read. -/
structure Agrees
    (catalog : Catalog ι)
    (view : Bytes → Option Bytes) :
    Prop where
  entries :
    EntriesHold catalog.postings catalog.layout view
      fun entry key => catalog.ListedIn (view key) entry key
  records :
    ∀ {type : ι} {primary key bytes : Bytes},
      catalog.recordKey type primary = .ok key →
        view key = some bytes →
          ∃ record, (catalog.types type).codec.encode record = .ok bytes

/-- No key is the key of a record and of an entry. -/
theorem Lawful.not_isEntry
    {type : ι}
    {primary key : Bytes}
    (lawful : catalog.Lawful)
    (isRecord : catalog.recordKey type primary = .ok key) :
    ¬ catalog.layout.IsEntry key := by
  obtain ⟨options, isLayout⟩ := lawful.layout
  rintro ⟨typeName, index, value, isEntry⟩
  exact KeyLayout.recordKey_ne_entryKey isLayout isRecord isEntry

/-- The key of a record gives back its type and its primary key. -/
theorem Lawful.recordKey_unique
    {type other : ι}
    {primary otherPrimary key : Bytes}
    (lawful : catalog.Lawful)
    (isKey : catalog.recordKey type primary = .ok key)
    (isOther : catalog.recordKey other otherPrimary = .ok key) :
    type = other ∧ primary = otherPrimary := by
  obtain ⟨sameName, samePrimary⟩ := KeyLayout.recordKey_unique isKey isOther
  exact ⟨lawful.names sameName, samePrimary⟩

namespace Agrees

/-- The map without records and entries agrees. -/
theorem empty :
    catalog.Agrees fun _ => none where
  entries := by
    rintro entry - key ⟨_, _, _, _, -, stored, -⟩
    cases stored
  records := by
    intro type primary key bytes isRecord stored
    cases stored

/-- What is stored for an entry settles which records are listed in it. -/
theorem listed_iff
    {view other : Bytes → Option Bytes}
    {entry : Bytes}
    (lawful : catalog.Lawful)
    (agrees : catalog.Agrees view)
    (agreesToo : catalog.Agrees other)
    (isEntry : catalog.layout.IsEntry entry)
    (same : view entry = other entry)
    (key : Bytes) :
    catalog.ListedIn (view key) entry key ↔ catalog.ListedIn (other key) entry key := by
  have holds := agrees.entries entry isEntry
  have holdsToo := agreesToo.entries entry isEntry
  rw [same] at holds
  exact holds.unique lawful.postings holdsToo key

/--
Writes that agree over a snapshot agree over a later map as well, if the written
keys have not changed in between.
-/
theorem overlay
    {writes : OrderedMap Bytes (Option Bytes)}
    {snapshot latest : Bytes → Option Bytes}
    (lawful : catalog.Lawful)
    (snapshotAgrees : catalog.Agrees snapshot)
    (viewAgrees : catalog.Agrees (overlay writes snapshot))
    (latestAgrees : catalog.Agrees latest)
    (noLostUpdate :
      ∀ key, (writes.find? key).isSome → latest key = snapshot key) :
    catalog.Agrees (Versioned.overlay writes latest) where
  entries := by
    intro entry isEntry
    cases written : writes.find? entry with
    | some content =>
        -- The entry is the one of the view; records that are not written are listed there alike.
        have unchanged : latest entry = snapshot entry :=
          noLostUpdate entry (by rw [written]; rfl)
        have holds := viewAgrees.entries entry isEntry
        rw [overlay_of_written written] at holds ⊢
        refine holds.congr ?_
        intro key
        dsimp only
        cases keyWritten : writes.find? key with
        | some value =>
            rw [overlay_of_written keyWritten, overlay_of_written keyWritten]
        | none =>
            rw [overlay_of_not_written keyWritten, overlay_of_not_written keyWritten]
            exact snapshotAgrees.listed_iff lawful latestAgrees isEntry unchanged.symm key
    | none =>
        -- The entry is the latest one; records that are written are listed there as before.
        have shown : Versioned.overlay writes snapshot entry = snapshot entry :=
          overlay_of_not_written written
        have holds := latestAgrees.entries entry isEntry
        rw [overlay_of_not_written written]
        refine holds.congr ?_
        intro key
        dsimp only
        cases keyWritten : writes.find? key with
        | some value =>
            have unchanged : latest key = snapshot key :=
              noLostUpdate key (by rw [keyWritten]; rfl)
            have listed := viewAgrees.listed_iff lawful snapshotAgrees isEntry shown key
            rw [overlay_of_written keyWritten] at listed ⊢
            rw [unchanged]
            exact listed.symm
        | none =>
            rw [overlay_of_not_written keyWritten]
  records := by
    intro type primary key bytes isRecord stored
    cases written : writes.find? key with
    | some content =>
        rw [overlay_of_written written] at stored
        apply viewAgrees.records isRecord
        rw [overlay_of_written written, stored]
    | none =>
        rw [overlay_of_not_written written] at stored
        exact latestAgrees.records isRecord stored

end Agrees

/-- Whether a key is the key of a record in a map whose value in an index is the given one. -/
def Carries
    (catalog : Catalog ι)
    (view : Bytes → Option Bytes)
    (type : ι)
    (index : String)
    (value key : Bytes) :
    Prop :=
  ∃ primary bytes record declared,
    catalog.recordKey type primary = .ok key ∧
      view key = some bytes ∧
        (catalog.types type).codec.decode bytes = .ok record ∧
          declared ∈ (catalog.types type).schema.indexes ∧
            declared.name = index ∧ declared.valueOf record = .ok (some value)

/--
In a map, the entry of a value is present exactly if some record has the value,
and what is stored for it is the posting list of the keys of these records.
Whatever is stored under the key of a record is a record of its type.
-/
structure Indexed
    (catalog : Catalog ι)
    (view : Bytes → Option Bytes) :
    Prop where
  present :
    ∀ {type : ι} {index : String} {value entry : Bytes},
      catalog.layout.entryKey (catalog.types type).schema.typeName index value = .ok entry →
        ((view entry).isSome ↔ ∃ key, catalog.Carries view type index value key)
  stored :
    ∀ {type : ι} {index : String} {value entry bytes : Bytes},
      catalog.layout.entryKey (catalog.types type).schema.typeName index value = .ok entry →
        view entry = some bytes →
          ∃ list : PostingList,
            catalog.postings.encode list = .ok bytes ∧
              catalog.postings.decode bytes = .ok list ∧
                ∀ key, key ∈ list.keys ↔ catalog.Carries view type index value key
  readable :
    ∀ {type : ι} {primary key bytes : Bytes},
      catalog.recordKey type primary = .ok key →
        view key = some bytes →
          ∃ record,
            (catalog.types type).codec.encode record = .ok bytes ∧
              (catalog.types type).codec.decode bytes = .ok record

/-- A record is to be listed in the entry of a value if it has the value. -/
theorem Lawful.listedIn_iff_carries
    {view : Bytes → Option Bytes}
    {type : ι}
    {index : String}
    {value entry : Bytes}
    (lawful : catalog.Lawful)
    (isEntry :
      catalog.layout.entryKey (catalog.types type).schema.typeName index value = .ok entry)
    (key : Bytes) :
    catalog.ListedIn (view key) entry key ↔ catalog.Carries view type index value key := by
  constructor
  · rintro ⟨other, primary, bytes, record, isKey, stored, decoded, declared, isDeclared,
      otherValue, valued, isOther⟩
    obtain ⟨sameName, sameIndex, sameValue⟩ := KeyLayout.entryKey_unique isOther isEntry
    have sameType : other = type :=
      lawful.names sameName
    subst sameType sameIndex sameValue
    exact ⟨primary, bytes, record, declared, isKey, stored, decoded, isDeclared, rfl, valued⟩
  · rintro ⟨primary, bytes, record, declared, isKey, stored, decoded, isDeclared, rfl, valued⟩
    exact ⟨type, primary, bytes, record, isKey, stored, decoded, declared, isDeclared, value,
      valued, isEntry⟩

/-- A map that agrees is indexed. -/
theorem Agrees.indexed
    {view : Bytes → Option Bytes}
    (lawful : catalog.Lawful)
    (agrees : catalog.Agrees view) :
    catalog.Indexed view where
  present {type index value entry} isEntry := by
    have holds := agrees.entries entry ⟨_, index, value, isEntry⟩
    cases stored : view entry with
    | none =>
        rw [stored] at holds
        refine iff_of_false (by simp) ?_
        rintro ⟨key, carries⟩
        exact holds key ((lawful.listedIn_iff_carries isEntry key).2 carries)
    | some bytes =>
        rw [stored] at holds
        obtain ⟨list, someMember, -, lists⟩ := holds
        refine iff_of_true rfl ?_
        obtain ⟨key, member⟩ :=
          List.exists_mem_of_ne_nil list.keys (by simpa [PostingList.isEmpty] using someMember)
        exact ⟨key, (lawful.listedIn_iff_carries isEntry key).1 ((lists key).1 member)⟩
  stored {type index value entry bytes} isEntry stored := by
    have holds := agrees.entries entry ⟨_, index, value, isEntry⟩
    rw [stored] at holds
    obtain ⟨list, -, encoded, lists⟩ := holds
    refine ⟨list, encoded, lawful.postings encoded, ?_⟩
    intro key
    exact (lists key).trans (lawful.listedIn_iff_carries isEntry key)
  readable {type primary key bytes} isKey stored := by
    obtain ⟨record, encoded⟩ := agrees.records isKey stored
    exact ⟨record, encoded, lawful.records type encoded⟩

end Catalog

end SecondaryIndex.Records
