import Mathlib.Data.List.Nodup
import SecondaryIndex.Proofs.Query.IndexScan
import SecondaryIndex.Proofs.Records.Interleaving
import SecondaryIndex.Proofs.Versioned.Listing

namespace SecondaryIndex.Records

/-!
# Looking records up in an index

The entries of an index lie under its lead by ascending value, and each lists the
keys of its records in ascending order.  Where entries agree with records, an
indexed lookup therefore hands out the records whose value is accepted, by value
and then by key, and every one of them is found.
-/

open Versioned

variable
  {ι : Type}
  {catalog : Catalog ι}
  {type : ι}
  {index : String}

/--
Entries are the records whose value in an index is accepted, by value and then by
key.  The listing gives the values as well, under each of which a record may come
up once.
-/
structure Catalog.LooksUp
    (catalog : Catalog ι)
    (view : Bytes → Option Bytes)
    (type : ι)
    (index : String)
    (criteria : List (catalog.types type).Criterion)
    (listing : List (Bytes × Bytes))
    (entries : List Entry) :
    Prop where
  ascending :
    listing.Pairwise fun first second =>
      first.1 < second.1 ∨ first.1 = second.1 ∧ first.2 < second.2
  lists :
    ∀ value key,
      (value, key) ∈ listing ↔
        catalog.Carries view type index value key ∧
          (catalog.types type).schema.accepts criteria (.indexEntry index value) = .ok true
  keys : entries.map Prod.fst = listing.map Prod.snd
  stored : ∀ entry ∈ entries, view entry.1 = some entry.2

/-- Whether a stored record has a value, or none, in an index. -/
def Catalog.Gives
    (catalog : Catalog ι)
    (view : Bytes → Option Bytes)
    (type : ι)
    (index : String)
    (value? : Option Bytes)
    (key : Bytes) :
    Prop :=
  ∃ primary bytes record declared,
    catalog.recordKey type primary = .ok key ∧
      view key = some bytes ∧
        (catalog.types type).codec.decode bytes = .ok record ∧
          declared ∈ (catalog.types type).schema.indexes ∧
            declared.name = index ∧ declared.valueOf record = .ok value?

/-- Under one declared index a record has one value, or none. -/
theorem Catalog.Gives.unique
    {view : Bytes → Option Bytes}
    {value? other? : Option Bytes}
    {key : Bytes}
    (once : (catalog.types type).schema.DeclaresOnce index)
    (gives : catalog.Gives view type index value? key)
    (givesToo : catalog.Gives view type index other? key) :
    value? = other? := by
  obtain ⟨primary, bytes, record, declared, -, stored, decoded, isDeclared, named, valued⟩ :=
    gives
  obtain ⟨_, _, _, second, -, storedToo, decodedToo, isDeclaredToo, namedToo, valuedToo⟩ :=
    givesToo
  rw [stored] at storedToo
  cases storedToo
  rw [decoded] at decodedToo
  cases decodedToo
  cases once.unique isDeclared named isDeclaredToo namedToo
  rw [valued] at valuedToo
  cases valuedToo
  rfl

/-- Where the index is declared once, no record comes up twice. -/
theorem Catalog.LooksUp.nodup
    {view : Bytes → Option Bytes}
    {criteria : List (catalog.types type).Criterion}
    {listing : List (Bytes × Bytes)}
    {entries : List Entry}
    (looksUp : catalog.LooksUp view type index criteria listing entries)
    (once : (catalog.types type).schema.DeclaresOnce index) :
    (entries.map Prod.fst).Nodup := by
  have nodup : listing.Nodup := by
    refine looksUp.ascending.imp ?_
    rintro first second (before | ⟨-, before⟩) rfl
    · exact Std.lt_irrefl before
    · exact Std.lt_irrefl before
  rw [looksUp.keys]
  refine nodup.map_on ?_
  rintro ⟨value, key⟩ member ⟨other, _⟩ otherMember rfl
  have carries : catalog.Gives view type index (some value) key :=
    ((looksUp.lists _ _).1 member).1
  have carriesToo : catalog.Gives view type index (some other) key :=
    ((looksUp.lists _ _).1 otherMember).1
  rw [Option.some.inj (carries.unique once carriesToo)]

section View

variable
  {store : Store}
  {transaction : Transaction}
  {lead : Bytes}
  {criteria : List (catalog.types type).Criterion}

variable
  (indexed : catalog.Indexed (transaction.get store))
  (isLead : catalog.layout.indexLead (catalog.types type).schema.typeName index = .ok lead)
  (judges :
    ∀ value key,
      catalog.Carries (transaction.get store) type index value key →
        ∀ error,
          (catalog.types type).schema.accepts criteria (.indexEntry index value) ≠ .error error)

include indexed isLead judges

/-- What an entry of an index gives, where entries agree with records. -/
theorem lookUp_of_indexed
    {entry : Entry}
    (member : entry ∈ transaction.entriesUnder store lead) :
    ∃ value keys,
      entry.1 = lead ++ value ∧
      (catalog.types type).schema.lookUp catalog.postings index criteria lead entry = .ok keys ∧
      keys.Pairwise (· < ·) ∧
      ∀ key,
        key ∈ keys ↔
          catalog.Carries (transaction.get store) type index value key ∧
            (catalog.types type).schema.accepts criteria (.indexEntry index value) = .ok true := by
  obtain ⟨isUnder, stored⟩ := Transaction.mem_entriesUnder.1 member
  obtain ⟨value, shape⟩ := Bytes.startsWith_iff.1 isUnder
  have isEntry := KeyLayout.entryKey_of_indexLead isLead value
  rw [← shape] at isEntry
  obtain ⟨list, -, decoded, members⟩ := indexed.stored isEntry stored
  obtain ⟨someKey, carries⟩ := (indexed.present isEntry).1 (by rw [stored]; rfl)
  refine ⟨value, ?_⟩
  rw [Schema.lookUp, shape, List.drop_left]
  rcases answer :
      (catalog.types type).schema.accepts criteria (.indexEntry index value) with
    error | (accepted | accepted)
  · exact absurd answer (judges value someKey carries error)
  · exact ⟨[], rfl, rfl, .nil, by simp⟩
  · refine ⟨list.keys, rfl, ?_, list.ascending, by simpa using members⟩
    simp only [decoded]

/-- The entries of an index give their records by value and then by key. -/
theorem labelled_ascending :
    ((transaction.entriesUnder store lead).flatMap
        ((catalog.types type).schema.labelled catalog.postings index criteria lead)).Pairwise
      fun first second =>
        first.1 < second.1 ∨ first.1 = second.1 ∧ first.2 < second.2 := by
  refine List.pairwise_flatMap.2 ⟨?_, ?_⟩
  · intro entry member
    obtain ⟨value, keys, shape, looked, ascending, -⟩ :=
      lookUp_of_indexed indexed isLead judges member
    rw [Schema.labelled, looked]
    exact List.pairwise_map.2 (ascending.imp fun before => .inr ⟨rfl, before⟩)
  · refine (transaction.entriesUnder_ascending store lead).imp_of_mem ?_
    intro first second firstMember secondMember before
    obtain ⟨value, _, shape, -⟩ := lookUp_of_indexed indexed isLead judges firstMember
    obtain ⟨later, _, laterShape, -⟩ := lookUp_of_indexed indexed isLead judges secondMember
    rw [shape, laterShape, Bytes.append_lt_append_iff] at before
    intro one oneMember other otherMember
    obtain ⟨_, -, rfl⟩ := List.mem_map.1 oneMember
    obtain ⟨_, -, rfl⟩ := List.mem_map.1 otherMember
    rw [shape, laterShape, List.drop_left, List.drop_left]
    exact .inl before

/-- The entries of an index give the records whose value is accepted, and no others. -/
theorem mem_labelled
    (value key : Bytes) :
    (value, key) ∈
        (transaction.entriesUnder store lead).flatMap
          ((catalog.types type).schema.labelled catalog.postings index criteria lead) ↔
      catalog.Carries (transaction.get store) type index value key ∧
        (catalog.types type).schema.accepts criteria (.indexEntry index value) = .ok true := by
  rw [List.mem_flatMap]
  constructor
  · rintro ⟨entry, member, isLabelled⟩
    obtain ⟨other, keys, shape, looked, -, members⟩ :=
      lookUp_of_indexed indexed isLead judges member
    rw [Schema.labelled, looked, shape, List.drop_left] at isLabelled
    obtain ⟨_, isKey, same⟩ := List.mem_map.1 isLabelled
    cases same
    exact (members key).1 isKey
  · rintro ⟨carries, accepted⟩
    have isEntry := KeyLayout.entryKey_of_indexLead isLead value
    obtain ⟨bytes, stored⟩ :=
      Option.isSome_iff_exists.1 ((indexed.present isEntry).2 ⟨key, carries⟩)
    have member : (lead ++ value, bytes) ∈ transaction.entriesUnder store lead :=
      Transaction.mem_entriesUnder.2 ⟨Bytes.startsWith_append _ _, stored⟩
    obtain ⟨other, keys, shape, looked, -, members⟩ :=
      lookUp_of_indexed indexed isLead judges member
    cases List.append_cancel_left shape
    refine ⟨_, member, ?_⟩
    rw [Schema.labelled, looked, List.drop_left]
    exact List.mem_map.2 ⟨key, (members key).2 ⟨carries, accepted⟩, rfl⟩

/-- The candidates of an indexed lookup are the records that it is to hand out. -/
theorem looksUp_of_indexed :
    ∃ listing entries,
      catalog.LooksUp (transaction.get store) type index criteria listing entries ∧
        CandidateRow.ofEntries
            ((catalog.types type).schema.lookUp catalog.postings index criteria lead)
            (transaction.entriesUnder store lead) =
          ⟨entries.map Prod.fst, none⟩ := by
  let listing :=
    (transaction.entriesUnder store lead).flatMap
      ((catalog.types type).schema.labelled catalog.postings index criteria lead)
  let entries := (listing.map Prod.snd).map fun key => (key, (transaction.get store key).getD [])
  have keys : entries.map Prod.fst = listing.map Prod.snd := by
    simp [entries, Function.comp_def]
  refine ⟨listing, entries, ?_, ?_⟩
  · refine
      ⟨labelled_ascending indexed isLead judges, mem_labelled indexed isLead judges, keys, ?_⟩
    intro entry member
    obtain ⟨key, isKey, rfl⟩ := List.mem_map.1 member
    obtain ⟨⟨value, _⟩, isListed, rfl⟩ := List.mem_map.1 isKey
    obtain ⟨⟨_, bytes, _, _, _, stored, -⟩, -⟩ :=
      (mem_labelled indexed isLead judges _ _).1 isListed
    simp only [stored, Option.getD_some]
  · have succeeds :
        ∀ entry ∈ transaction.entriesUnder store lead,
          (catalog.types type).schema.lookUp catalog.postings index criteria lead entry =
            .ok (((catalog.types type).schema.labelled catalog.postings index criteria lead
              entry).map Prod.snd) := by
      intro entry member
      obtain ⟨_, keys, -, looked, -⟩ := lookUp_of_indexed indexed isLead judges member
      rw [Schema.labelled, looked]
      simp [Function.comp_def, Except.toOption]
    rw [CandidateRow.ofEntries_of_ok succeeds, keys, List.map_flatMap]

end View

section Queries

variable
  {store : Store}
  {transaction : Transaction}
  {query : Query (catalog.types type).Criterion}
  {size : Nat}

/-- Under a name with the delimiter, a selected lookup cannot be opened. -/
theorem openQuery_of_held
    (selected :
      (outcome
        ((catalog.environment store type).selectPath { catalog.layout with batchSize := size }
          (catalog.types type).schema query)
        transaction).1 =
        .ok (.indexedLookup index))
    (held : delimiter ∈ Bytes.ofText index) :
    outcome
        ((catalog.environment store type).openQuery { catalog.layout with batchSize := size }
          (catalog.types type).schema query)
        transaction =
      (.error (.invalidName index), transaction) := by
  obtain ⟨chosen, -, free⟩ := selectPath_indexedLookup selected
  have refused :
      Scan.along (.indexedLookup index) { catalog.layout with batchSize := size }
          (catalog.types type).schema query =
        .error (.invalidName index) := by
    rw [Scan.along, KeyLayout.indexLead_of_held free held]
    rfl
  rw [Environment.openQuery, outcome_bind, chosen]
  dsimp only
  rw [refused]
  rfl

/-- Where entries agree with records, a selected lookup hands out what it is to hand out. -/
theorem runQuery_of_indexed
    (indexed : catalog.Indexed (transaction.get store))
    (batch : 1 ≤ size)
    (selected :
      (outcome
        ((catalog.environment store type).selectPath { catalog.layout with batchSize := size }
          (catalog.types type).schema query)
        transaction).1 =
        .ok (.indexedLookup index))
    (judges :
      ∀ value key,
        catalog.Carries (transaction.get store) type index value key →
          ∀ error,
            (catalog.types type).schema.accepts query.targetCriteria (.indexEntry index value) ≠
              .error error)
    (indexFree : delimiter ∉ Bytes.ofText index) :
    ∃ listing entries,
      catalog.LooksUp (transaction.get store) type index query.targetCriteria listing entries ∧
      ∀ other : Query (catalog.types type).Criterion,
        other.target = query.target →
          other.targetCriteria = query.targetCriteria →
            outcome
                ((catalog.environment store type).runQuery
                  { catalog.layout with batchSize := size } (catalog.types type).schema other)
                transaction =
              (.ok (entries, none), transaction) := by
  obtain ⟨chosen, -, free⟩ := selectPath_indexedLookup selected
  obtain ⟨lead, isLead⟩ := catalog.layout.indexLead_of_free free indexFree
  obtain ⟨listing, entries, looksUp, row⟩ := looksUp_of_indexed indexed isLead judges
  refine ⟨listing, entries, looksUp, ?_⟩
  intro other sameTarget sameCriteria
  rw [Environment.runQuery_eq, selectPath_congr _ sameTarget sameCriteria, outcome_bind, chosen]
  exact outcome_indexedLookup isLead batch (sameCriteria ▸ row) looksUp.stored

end Queries

/--
An indexed lookup hands out the records whose value is accepted, by value and
then by key, and ends without error.  This holds in the view of every open
transaction in which no operation has failed, for every size of the batches; the
key criteria of the query and those on other fields change nothing.  Under a name
with the delimiter there is no index to look into, and opening the query is
refused.
-/
theorem indexed_lookup_exact
    {ι : Type}
    {catalog : Catalog ι}
    {steps : List (RecordStep catalog)}
    {number : Nat}
    {transaction : Transaction}
    (lawful : catalog.Lawful)
    (bounded : (recordRun steps).published.length ≤ lastStamp)
    (isOpen : (recordRun steps).transaction? number = some transaction)
    (unbroken : number ∉ (recordRun steps).broken)
    (type : ι)
    (index : String)
    (query : Query (catalog.types type).Criterion)
    (size : Nat)
    (batch : 1 ≤ size)
    (selected :
      (outcome
        ((catalog.environment (recordRun steps).store type).selectPath
          { catalog.layout with batchSize := size } (catalog.types type).schema query)
        transaction).1 =
        .ok (.indexedLookup index))
    (judges :
      ∀ value key,
        catalog.Carries (transaction.get (recordRun steps).store) type index value key →
          ∀ error,
            (catalog.types type).schema.accepts query.targetCriteria (.indexEntry index value) ≠
              .error error) :
    (delimiter ∈ Bytes.ofText index →
      outcome
          ((catalog.environment (recordRun steps).store type).openQuery
            { catalog.layout with batchSize := size } (catalog.types type).schema query)
          transaction =
        (.error (.invalidName index), transaction)) ∧
    (delimiter ∉ Bytes.ofText index →
      ∃ listing entries,
        catalog.LooksUp (transaction.get (recordRun steps).store) type index
          query.targetCriteria listing entries ∧
        ((catalog.types type).schema.DeclaresOnce index → (entries.map Prod.fst).Nodup) ∧
        ∀ other : Query (catalog.types type).Criterion,
          other.target = query.target →
            other.targetCriteria = query.targetCriteria →
              outcome
                  ((catalog.environment (recordRun steps).store type).runQuery
                    { catalog.layout with batchSize := size } (catalog.types type).schema other)
                  transaction =
                (.ok (entries, none), transaction)) := by
  have consistent : Consistent catalog (recordRun steps) :=
    Consistent.start.steps lawful bounded
  have indexed := (consistent.views isOpen unbroken).indexed lawful
  constructor
  · exact openQuery_of_held selected
  · intro indexFree
    obtain ⟨listing, entries, looksUp, handed⟩ :=
      runQuery_of_indexed indexed batch selected judges indexFree
    exact ⟨listing, entries, looksUp, looksUp.nodup, handed⟩

/-- Byte strings that are indexed by their first byte, and whose first byte is judged. -/
def judgedInitials :
    Catalog Unit where
  layout :=
    .standard
  postings :=
    initials.postings
  types _ :=
    { Record := Bytes
      Criterion := Criterion Bytes
      schema :=
        { typeName := "note"
          indexes := [⟨"initial", fun _ record => .ok (record.head?.map fun byte => [byte])⟩]
          accepts := fun criteria candidate =>
            Criterion.testAll
              (match candidate with
                | .recordKey key _ => key
                | .recordField _ _ record => record.take 1
                | .indexEntry _ value => value)
              candidate.record? criteria
          needsRecord := Criterion.anyMatchFunction }
      codec := (initials.types ()).codec }

theorem judgedInitials_lawful :
    judgedInitials.Lawful where
  layout :=
    initials_lawful.layout
  names _ :=
    rfl
  postings :=
    initials_lawful.postings
  records _ :=
    initials_lawful.records ()

/-- A transaction that inserts records with two values and one without. -/
def threeInserts :
    List (RecordStep judgedInitials) :=
  [.begin, .operate 0 (.insert () [1] [7]), .operate 0 (.insert () [2] [8, 1]),
    .operate 0 (.insert () [3] []), .operate 0 (.insert () [4] [7, 2])]

/-- A query for one value through the index. -/
def sevenFirst :
    Query (Criterion Bytes) :=
  (Query.all.whereField "initial" (.compare .equal [7])).through "initial"

/-- The transaction looks the records with the value up, before it is committed. -/
theorem indexed_lookup_of_sevens :
    ∃ transaction listing entries,
      (recordRun threeInserts).transaction? 0 = some transaction ∧
      judgedInitials.LooksUp (transaction.get (recordRun threeInserts).store) () "initial"
        sevenFirst.targetCriteria listing entries ∧
      outcome
          ((judgedInitials.environment (recordRun threeInserts).store ()).runQuery
            { judgedInitials.layout with batchSize := 1 } (judgedInitials.types ()).schema
            sevenFirst)
          transaction =
        (.ok (entries, none), transaction) := by
  have bounded : (recordRun threeInserts).published.length ≤ lastStamp := by
    have none : (recordRun threeInserts).published.length = 0 := by
      decide +kernel
    rw [none]
    decide
  have isOpen : ((recordRun threeInserts).transaction? 0).isSome := by
    decide +kernel
  obtain ⟨transaction, isOpen⟩ := Option.isSome_iff_exists.1 isOpen
  have unbroken : 0 ∉ (recordRun threeInserts).broken := by
    decide +kernel
  have selects :
      ((recordRun threeInserts).transaction? 0).map (fun transaction =>
        (outcome
          ((judgedInitials.environment (recordRun threeInserts).store ()).selectPath
            { judgedInitials.layout with batchSize := 1 } (judgedInitials.types ()).schema
            sevenFirst)
          transaction).1) =
        some (.ok (.indexedLookup "initial")) := by
    decide +kernel
  rw [isOpen] at selects
  have judges (value : Bytes) (error : IndexError) :
      (judgedInitials.types ()).schema.accepts sevenFirst.targetCriteria
          (.indexEntry "initial" value) ≠
        .error error := by
    have onValue : Criterion.anyMatchFunction sevenFirst.targetCriteria = false := by
      decide +kernel
    obtain ⟨accepted, tested⟩ := Criterion.testAll_of_no_matchFunction onValue value
    intro fails
    cases (tested none).symm.trans fails
  obtain ⟨listing, entries, looksUp, -, same⟩ :=
    (indexed_lookup_exact judgedInitials_lawful bounded isOpen unbroken () "initial" sevenFirst 1
      (Nat.le_refl 1) (Option.some.inj selects) fun value _ _ => judges value).2 (by decide)
  exact ⟨transaction, listing, entries, isOpen, looksUp, same sevenFirst rfl rfl⟩

end SecondaryIndex.Records
