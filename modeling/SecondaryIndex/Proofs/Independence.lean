import SecondaryIndex.Proofs.Interruption
import SecondaryIndex.Proofs.KeySeparation
import SecondaryIndex.Proofs.Query.Locality

namespace SecondaryIndex

/-!
# Types, indexes and layouts do not interfere

Maintenance for a type, whether it succeeds or fails, writes under the leads of the
indexes that the type declares.  The leads of another type, and those of a layout whose
namespaces lie apart, share no key with them.  What a query reads is told from its own
leads, so it is answered as if there were no other type, no other index and no other
layout in the store.
-/

open Versioned

/-- Byte strings of which neither begins with the other. -/
def Incomparable
    (first second : Bytes) :
    Prop :=
  ¬ first.startsWith second ∧ ¬ second.startsWith first

/-- No key begins with both of two incomparable byte strings. -/
theorem Incomparable.apart
    {first second key : Bytes}
    (incomparable : Incomparable first second)
    (isUnder : key.startsWith first) :
    ¬ key.startsWith second := by
  intro isUnderToo
  rw [Bytes.startsWith, List.isPrefixOf_iff_prefix] at isUnder isUnderToo
  rcases List.prefix_or_prefix_of_prefix isUnder isUnderToo with isPrefix | isPrefix
  · exact incomparable.2 (List.isPrefixOf_iff_prefix.2 isPrefix)
  · exact incomparable.1 (List.isPrefixOf_iff_prefix.2 isPrefix)

namespace KeyLayout

variable
  {layout : KeyLayout}
  {typeName index : String}
  {value primary key lead : Bytes}

theorem startsWith_recordNamespace
    (isKey : layout.recordKey typeName primary = .ok key) :
    key.startsWith layout.recordNamespace := by
  obtain ⟨-, rfl⟩ := recordKey_ok.1 isKey
  exact Bytes.startsWith_append _ _

theorem startsWith_indexNamespace
    (isKey : layout.entryKey typeName index value = .ok key) :
    key.startsWith layout.indexNamespace := by
  obtain ⟨-, -, rfl⟩ := entryKey_ok.1 isKey
  exact Bytes.startsWith_append _ _

/-- The key of an entry lies under the lead of its index. -/
theorem indexLead_of_entryKey
    (isKey : layout.entryKey typeName index value = .ok key) :
    ∃ lead, layout.indexLead typeName index = .ok lead ∧ key.startsWith lead := by
  obtain ⟨free, indexFree, -⟩ := entryKey_ok.1 isKey
  obtain ⟨lead, isLead⟩ := layout.indexLead_of_free free indexFree
  exact ⟨lead, isLead, (entryKey_startsWith_iff isLead isKey).2 ⟨rfl, rfl⟩⟩

/-- A layout whose entries lie apart from the records and from the entries of another. -/
structure Apart
    (layout other : KeyLayout) :
    Prop where
  fromRecords : Incomparable other.indexNamespace layout.recordNamespace
  fromEntries : Incomparable other.indexNamespace layout.indexNamespace

end KeyLayout

/-- What a query may depend on: the records of its type and the entries of its index. -/
def Concerns
    (recordLead indexLead key : Bytes) :
    Prop :=
  key.startsWith recordLead ∨ key.startsWith indexLead

section Frame

variable
  {R C : Type}
  {store : Store}
  {postings : Codec PostingList}
  {records : Codec R}
  {layout : KeyLayout}
  {schema : Schema R C}
  {key changed : Bytes}
  {upkeep : Upkeep R}
  {before after : Interrupted}
  {result : Except IndexError Unit}

/-- Maintenance changes entries of declared indexes only, whether it succeeds or fails. -/
theorem entryKey_of_changed
    (ends :
      outcome (upkeep.run (Interrupted.environment store postings records) layout schema key)
          before =
        (result, after))
    (isChanged : after.transaction.get store changed ≠ before.transaction.get store changed) :
    ∃ declared ∈ schema.indexes, ∃ value,
      layout.entryKey schema.typeName declared.name value = .ok changed := by
  rw [Upkeep.run_eq] at ends
  obtain ⟨done, rest, isSplit, isDone⟩ :=
    attempt_carries_out (C := C) store postings records layout schema.typeName key
      (upkeep.updates schema) before.transaction before.faults
  have isAfter :
      Interrupted.attempt
          ((Interrupted.environment (C := C) store postings records).updateEntries layout
            schema.typeName key (upkeep.updates schema))
          before.transaction before.faults =
        after.transaction :=
    congrArg (fun ends => ends.2.transaction) ends
  rw [isAfter] at isDone
  obtain ⟨update, member, value, -, isKey⟩ := targeted_of_changed isDone isChanged
  have isUpdate : update ∈ upkeep.updates schema := by
    rw [isSplit]
    exact List.mem_append_left rest member
  exact ⟨update.index, Upkeep.index_mem_of_mem_updates isUpdate, value, isKey⟩

end Frame

/--
Under a checked layout, a query on a type by primary key or through an index depends on
nothing but the records of the type and the entries of the index, as long as these list
records of the type.  Maintenance changes nothing but entries of the declared indexes,
so no record, and nothing that a query on another type depends on; and none of what a
query depends on if it goes by a layout that lies apart.
-/
theorem queries_undisturbed
    {options : LayoutOptions}
    {layout : KeyLayout}
    {typeName index : String}
    {recordLead indexLead : Bytes}
    (isLayout : KeyLayout.ofOptions options = .ok layout)
    (isRecordLead : layout.recordLead typeName = .ok recordLead)
    (isIndexLead : layout.indexLead typeName index = .ok indexLead) :
    (∀ (R C : Type) (store mirror : Store) (transaction image : Transaction)
        (postings : Codec PostingList) (records : Codec R),
      SeeAlike (Concerns recordLead indexLead) store mirror transaction image →
      (∀ entry value list,
        entry.startsWith indexLead →
          transaction.get store entry = some value →
            postings.decode value = .ok list → ∀ key ∈ list.keys, key.startsWith recordLead) →
      ReadAlike transaction image
          ((Transaction.environment (C := C) store postings records).indexAnswers layout typeName
            index)
          ((Transaction.environment (C := C) mirror postings records).indexAnswers layout typeName
            index) ∧
        ∀ (schema : Schema R C) (query : Query C),
          schema.typeName = typeName →
            query.target = .primaryKey ∨ query.target = .index index →
              ReadAlike transaction image
                  ((Transaction.environment store postings records).selectPath layout schema query)
                  ((Transaction.environment mirror postings records).selectPath layout schema
                    query) ∧
                ReadAlike transaction image
                  ((Transaction.environment store postings records).runQuery layout schema query)
                  ((Transaction.environment mirror postings records).runQuery layout schema
                    query)) ∧
    ∀ (R C : Type) (store : Store) (postings : Codec PostingList) (records : Codec R)
        (written : KeyLayout) (schema : Schema R C) (key : Bytes) (upkeep : Upkeep R)
        (before after : Interrupted) (result : Except IndexError Unit),
      outcome (upkeep.run (Interrupted.environment store postings records) written schema key)
          before =
        (result, after) →
      ∀ changed,
        after.transaction.get store changed ≠ before.transaction.get store changed →
          (∃ declared ∈ schema.indexes, ∃ lead,
            written.indexLead schema.typeName declared.name = .ok lead ∧
              changed.startsWith lead) ∧
          (written = layout ∨ layout.Apart written →
            ∀ otherType lead,
              layout.recordLead otherType = .ok lead → ¬ changed.startsWith lead) ∧
          (written = layout ∧ schema.typeName ≠ typeName ∨ layout.Apart written →
            ¬ Concerns recordLead indexLead changed) := by
  refine ⟨?_, ?_⟩
  · intro R C store mirror transaction image postings records alike listsRecords
    refine ⟨indexAnswers_alike isRecordLead isIndexLead (fun _ => .inl) (fun _ => .inr) alike, ?_⟩
    rintro schema query rfl target
    refine
      ⟨selectPath_alike isRecordLead isIndexLead (fun _ => .inl) (fun _ => .inr) alike target, ?_⟩
    apply runQuery_alike isRecordLead isIndexLead (fun _ => .inl) (fun _ => .inr) alike ?_ target
    intro entry member list decoded key listed
    obtain ⟨under, stored⟩ := Transaction.mem_entriesUnder.1 member
    exact .inl (listsRecords entry.1 entry.2 list under stored decoded key listed)
  · intro R C store postings records written schema key upkeep before after result ends changed
      isChanged
    obtain ⟨declared, isDeclared, value, isKey⟩ := entryKey_of_changed ends isChanged
    obtain ⟨lead, isLead, under⟩ := KeyLayout.indexLead_of_entryKey isKey
    have noRecord
        (sameOrApart : written = layout ∨ layout.Apart written)
        (otherType : String)
        (lead : Bytes)
        (isLead : layout.recordLead otherType = .ok lead) :
        ¬ changed.startsWith lead := by
      rcases sameOrApart with rfl | apart
      · exact KeyLayout.entryKey_not_startsWith isLayout isLead isKey
      · intro underToo
        obtain ⟨_, isRecord⟩ := KeyLayout.recordKey_of_startsWith isLead underToo
        exact apart.fromRecords.apart (KeyLayout.startsWith_indexNamespace isKey)
          (KeyLayout.startsWith_recordNamespace isRecord)
    refine ⟨⟨declared, isDeclared, lead, isLead, under⟩, noRecord, ?_⟩
    rintro otherOrApart (underRecords | underEntries)
    · exact noRecord (otherOrApart.imp_left And.left) typeName recordLead isRecordLead underRecords
    · rcases otherOrApart with ⟨rfl, isOther⟩ | apart
      · exact isOther ((KeyLayout.entryKey_startsWith_iff isIndexLead isKey).1 underEntries).1.symm
      · obtain ⟨_, isEntry⟩ := KeyLayout.entryKey_of_startsWith isIndexLead underEntries
        exact apart.fromEntries.apart (KeyLayout.startsWith_indexNamespace isKey)
          (KeyLayout.startsWith_indexNamespace isEntry)

/-- A transaction with a note that is listed under its first byte. -/
def oneNote :
    Transaction :=
  let key := Bytes.ofText "kh_note:" ++ [5]
  (Transaction.set ⟨0, .empty⟩ key (Binary.writeBytes [7, 1])).set
    (Bytes.ofText "_khIndex:note:first:" ++ [7]) (PostingList.ofKeys [key]).encode

/-- The same with a record of a type and an entry of an index whose names go on. -/
def oneNoteAmongOthers :
    Transaction :=
  (oneNote.set (Bytes.ofText "kh_notes:" ++ [5]) []).set (Bytes.ofText "_khIndex:note:firsts:") []

/-- Types and indexes whose names go on do not disturb a query, nor does maintenance for them. -/
theorem undisturbed_by_longer_names :
    let records := Binary.codec Binary.writeBytes Binary.readBytes.read
    ReadAlike oneNote oneNoteAmongOthers
        ((Transaction.environment .empty PostingList.codec records).runQuery .standard bounds
          (Query.all.through "first"))
        ((Transaction.environment .empty PostingList.codec records).runQuery .standard bounds
          (Query.all.through "first")) ∧
      ∀ changed,
        (outcome
            ((Upkeep.index [7]).run (Interrupted.environment .empty PostingList.codec records)
              .standard { bounds with typeName := "notes" } [5])
            ⟨oneNote, []⟩).2.transaction.get .empty changed ≠
          oneNote.get .empty changed →
        ¬ Concerns (Bytes.ofText "kh_note:") (Bytes.ofText "_khIndex:note:first:") changed := by
  intro records
  have isLayout : KeyLayout.ofOptions .standard = .ok .standard := by
    rfl
  have isRecordLead :
      KeyLayout.standard.recordLead "note" = .ok (Bytes.ofText "kh_note:") := by
    rfl
  have isIndexLead :
      KeyLayout.standard.indexLead "note" "first" = .ok (Bytes.ofText "_khIndex:note:first:") := by
    rfl
  obtain ⟨reads, changes⟩ := queries_undisturbed isLayout isRecordLead isIndexLead
  refine ⟨?_, ?_⟩
  · have alike :
        SeeAlike (Concerns (Bytes.ofText "kh_note:") (Bytes.ofText "_khIndex:note:first:")) .empty
          .empty oneNote oneNoteAmongOthers := by
      intro key concerns
      rw [oneNoteAmongOthers, Transaction.get_set, Transaction.get_set, if_neg, if_neg]
      · rintro rfl
        revert concerns
        unfold Concerns
        decide
      · rintro rfl
        revert concerns
        unfold Concerns
        decide
    refine ((reads Bytes Unit .empty .empty oneNote oneNoteAmongOthers PostingList.codec records
      alike ?_).2 bounds (Query.all.through "first") rfl (.inr rfl)).2
    intro entry value list under stored decoded
    rw [oneNote, Transaction.get_set, Transaction.get_set] at stored
    split at stored
    · cases stored
      cases decoded
      decide
    · split at stored
      next isRecord =>
        rw [isRecord] at under
        exact absurd under (by decide)
      · cases stored
  · intro changed isChanged
    exact (changes Bytes Unit .empty PostingList.codec records .standard _ [5] (.index [7])
      ⟨oneNote, []⟩ _ _ rfl changed isChanged).2.2 (.inl ⟨rfl, by decide⟩)

end SecondaryIndex
