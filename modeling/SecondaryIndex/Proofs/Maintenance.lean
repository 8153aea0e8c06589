import Mathlib.Data.List.Basic
import SecondaryIndex.Proofs.Outcome
import SecondaryIndex.Versioned.Access

namespace SecondaryIndex

/-!
# What maintenance does to the entries

Suppose that each entry holds the list of some keys, its members.  Then an entry
update that succeeds leaves entries that hold the members as the update has
changed them, and it touches nothing but entries.
-/

open Versioned

/-- What is stored for an entry: the list of its members, or nothing if it has none. -/
def Holds
    (postings : Codec PostingList)
    (content : Option Bytes)
    (members : Bytes → Prop) :
    Prop :=
  match content with
  | none =>
      ∀ key, ¬ members key
  | some bytes =>
      ∃ list : PostingList,
        ¬ list.isEmpty ∧ postings.encode list = .ok bytes ∧
          ∀ key, key ∈ list.keys ↔ members key

namespace Holds

variable
  {postings : Codec PostingList}
  {content : Option Bytes}
  {members others : Bytes → Prop}

theorem congr
    (holds : Holds postings content members)
    (agree : ∀ key, members key ↔ others key) :
    Holds postings content others := by
  cases content with
  | none =>
      intro key member
      exact holds key ((agree key).2 member)
  | some bytes =>
      obtain ⟨list, someMember, encoded, lists⟩ := holds
      exact ⟨list, someMember, encoded, fun key => (lists key).trans (agree key)⟩

/-- What is stored settles the members. -/
theorem unique
    (lawful : postings.RoundTrips)
    (holds : Holds postings content members)
    (holdsToo : Holds postings content others)
    (key : Bytes) :
    members key ↔ others key := by
  cases content with
  | none =>
      exact iff_of_false (holds key) (holdsToo key)
  | some bytes =>
      obtain ⟨list, -, encoded, lists⟩ := holds
      obtain ⟨other, -, encodedToo, listsToo⟩ := holdsToo
      have same : list = other := by
        have decoded := lawful encoded
        rw [lawful encodedToo] at decoded
        exact (Except.ok.inj decoded).symm
      rw [← lists, same, listsToo]

end Holds

namespace Change

/-- The members after a key has been listed or is no longer listed. -/
def revised
    (key : Bytes)
    (members : Bytes → Prop) :
    Change → Bytes → Prop
  | .add, other =>
      members other ∨ other = key
  | .remove, other =>
      members other ∧ other ≠ key

variable
  {key : Bytes}
  {list changed : PostingList}
  {members : Bytes → Prop}

/-- A list that agrees already has the members that it should have. -/
theorem revised_of_none
    (change : Change)
    (lists : ∀ other, other ∈ list.keys ↔ members other)
    (agrees : change.revise? key list = none)
    (other : Bytes) :
    members other ↔ change.revised key members other := by
  rw [← lists]
  cases change with
  | add =>
      have listed : key ∈ list.keys := by
        by_contra missing
        simp [revise?, PostingList.add?, PostingList.contains_iff, missing] at agrees
      simp only [revised, ← lists]
      constructor
      · exact .inl
      · rintro (member | rfl)
        · exact member
        · exact listed
  | remove =>
      have missing : key ∉ list.keys := by
        intro listed
        simp [revise?, PostingList.remove?, PostingList.contains_iff, listed] at agrees
      simp only [revised, ← lists]
      constructor
      · intro member
        refine ⟨member, ?_⟩
        rintro rfl
        exact missing member
      · exact And.left

/-- A changed list has the members that it should have. -/
theorem revised_of_some
    (change : Change)
    (lists : ∀ other, other ∈ list.keys ↔ members other)
    (changes : change.revise? key list = some changed)
    (other : Bytes) :
    other ∈ changed.keys ↔ change.revised key members other := by
  cases change with
  | add =>
      have inserted : changed = list.insert key := by
        simp only [revise?, PostingList.add?] at changes
        split at changes
        · cases changes
        · exact (Option.some.inj changes).symm
      simp only [inserted, PostingList.mem_keys_insert, revised, ← lists, or_comm]
  | remove =>
      have erased : changed = list.erase key := by
        simp only [revise?, PostingList.remove?] at changes
        split at changes
        · exact (Option.some.inj changes).symm
        · cases changes
      simp only [erased, PostingList.mem_keys_erase, revised, ← lists]

end Change

/-- A key under which an entry may be stored. -/
def KeyLayout.IsEntry
    (layout : KeyLayout)
    (entry : Bytes) :
    Prop :=
  ∃ typeName index value, layout.entryKey typeName index value = .ok entry

/-- All entries hold their members. -/
def EntriesHold
    (postings : Codec PostingList)
    (layout : KeyLayout)
    (view : Bytes → Option Bytes)
    (members : Bytes → Bytes → Prop) :
    Prop :=
  ∀ entry, layout.IsEntry entry → Holds postings (view entry) (members entry)

namespace EntryUpdate

variable {R : Type}

/-- Whether an update is one of an entry. -/
def Targets
    (layout : KeyLayout)
    (typeName : String)
    (update : EntryUpdate R)
    (entry : Bytes) :
    Prop :=
  ∃ value,
    update.index.valueOf update.record = .ok (some value) ∧
      layout.entryKey typeName update.index.name value = .ok entry

/-- The members of all entries after an update for a key. -/
def revised
    (layout : KeyLayout)
    (typeName : String)
    (key : Bytes)
    (members : Bytes → Bytes → Prop)
    (update : EntryUpdate R) :
    Bytes → Bytes → Prop :=
  fun entry other =>
    match update.change with
    | .add => members entry other ∨ other = key ∧ update.Targets layout typeName entry
    | .remove => members entry other ∧ ¬ (other = key ∧ update.Targets layout typeName entry)

variable
  {layout : KeyLayout}
  {typeName : String}
  {key entry : Bytes}
  {members : Bytes → Bytes → Prop}
  {update : EntryUpdate R}

theorem revised_of_target
    (target : update.Targets layout typeName entry)
    (other : Bytes) :
    update.change.revised key (members entry) other ↔
      update.revised layout typeName key members entry other := by
  rw [revised]
  cases update.change <;> simp [Change.revised, target]

theorem revised_of_no_target
    (noTarget : ¬ update.Targets layout typeName entry)
    (other : Bytes) :
    members entry other ↔ update.revised layout typeName key members entry other := by
  rw [revised]
  cases update.change <;> simp [noTarget]

end EntryUpdate

section Success

variable
  {R C : Type}
  {store : Store}
  {postings : Codec PostingList}
  {records : Codec R}
  {layout : KeyLayout}
  {typeName : String}
  {key entry : Bytes}
  {before after : Transaction}

/-- What is read of an entry is the list of its members; reading changes nothing. -/
theorem postings_ok
    {list : PostingList}
    (lawful : postings.RoundTrips)
    (success :
      outcome ((Transaction.environment (C := C) store postings records).postings entry) before =
        (.ok list, after)) :
    after = before ∧
      ∀ members,
        Holds postings (before.get store entry) members →
          ∀ other, other ∈ list.keys ↔ members other := by
  obtain ⟨content, middle, got, rest⟩ := outcome_bind_ok.1 success
  cases got
  cases stored : before.get store entry with
  | none =>
      rw [stored] at rest
      cases rest
      refine ⟨rfl, ?_⟩
      intro members holds other
      exact iff_of_false List.not_mem_nil (holds other)
  | some bytes =>
      rw [stored] at rest
      obtain ⟨decoded, rfl⟩ := outcome_ofCodec_ok.1 rest
      refine ⟨rfl, ?_⟩
      intro members holds other
      obtain ⟨written, -, encoded, lists⟩ := holds
      rw [lawful encoded] at decoded
      cases decoded
      exact lists other

/-- A list that is stored replaces what its entry holds, or the entry is deleted. -/
theorem storePostings_cases
    {index : String}
    {list : PostingList}
    (success :
      outcome
          ((Transaction.environment (C := C) store postings records).storePostings typeName index
            entry list)
          before =
        (.ok (), after)) :
    (list.isEmpty ∧ after = before.delete entry) ∨
      ¬ list.isEmpty ∧
        ∃ bytes, postings.encode list = .ok bytes ∧ after = before.set entry bytes := by
  rw [Environment.storePostings] at success
  by_cases noMember : list.isEmpty
  · rw [if_pos noMember] at success
    obtain ⟨_, middle, logged, rest⟩ := outcome_bind_ok.1 success
    cases logged
    cases rest
    exact .inl ⟨noMember, rfl⟩
  · rw [if_neg noMember] at success
    obtain ⟨bytes, middle, encodes, rest⟩ := outcome_bind_ok.1 success
    obtain ⟨_, _, logged, rest⟩ := outcome_bind_ok.1 rest
    cases logged
    obtain ⟨encoded, rfl⟩ := outcome_ofCodec_ok.1 encodes
    cases rest
    exact .inr ⟨noMember, bytes, encoded, rfl⟩

/-- A list that has been stored is what its entry holds; nothing else has changed. -/
theorem storePostings_ok
    {index : String}
    {list : PostingList}
    (success :
      outcome
          ((Transaction.environment (C := C) store postings records).storePostings typeName index
            entry list)
          before =
        (.ok (), after)) :
    Holds postings (after.get store entry) (fun other => other ∈ list.keys) ∧
      ∀ other, other ≠ entry → after.get store other = before.get store other := by
  rcases storePostings_cases success with ⟨noMember, rfl⟩ | ⟨someMember, bytes, encoded, rfl⟩
  · refine ⟨?_, ?_⟩
    · rw [Transaction.get_delete, if_pos rfl]
      intro other member
      rw [List.isEmpty_iff.1 noMember] at member
      cases member
    · intro other different
      rw [Transaction.get_delete, if_neg different]
  · refine ⟨?_, ?_⟩
    · rw [Transaction.get_set, if_pos rfl]
      exact ⟨list, someMember, encoded, fun other => Iff.rfl⟩
    · intro other different
      rw [Transaction.get_set, if_neg different]

/-- An update reads the entry that it is one of, and stores its list only if it has changed. -/
theorem updateEntry_cases
    {update : EntryUpdate R}
    (lawful : postings.RoundTrips)
    (success :
      outcome
          ((Transaction.environment (C := C) store postings records).updateEntry layout typeName key
            update)
          before =
        (.ok (), after)) :
    (update.index.valueOf update.record = .ok none ∧ after = before) ∨
      ∃ value entry list,
        update.index.valueOf update.record = .ok (some value) ∧
          layout.entryKey typeName update.index.name value = .ok entry ∧
            (∀ members,
              Holds postings (before.get store entry) members →
                ∀ other, other ∈ list.keys ↔ members other) ∧
              ((update.change.revise? key list = none ∧ after = before) ∨
                ∃ changed,
                  update.change.revise? key list = some changed ∧
                    outcome
                        ((Transaction.environment (C := C) store postings records).storePostings
                          typeName update.index.name entry changed)
                        before =
                      (.ok (), after)) := by
  obtain ⟨value?, _, valued, keying⟩ := outcome_bind_ok.1 success
  obtain ⟨isValue, rfl⟩ := Prod.mk.inj valued
  cases value? with
  | none =>
      cases keying
      exact .inl ⟨isValue, rfl⟩
  | some value =>
      obtain ⟨entry, _, keyed, reading⟩ := outcome_bind_ok.1 keying
      obtain ⟨isEntry, rfl⟩ := Prod.mk.inj keyed
      obtain ⟨list, _, read, storing⟩ := outcome_bind_ok.1 reading
      obtain ⟨rfl, lists⟩ := postings_ok lawful read
      refine .inr ⟨value, entry, list, isValue, isEntry, lists, ?_⟩
      cases revision : update.change.revise? key list with
      | none =>
          rw [revision] at storing
          cases storing
          exact .inl ⟨rfl, rfl⟩
      | some changed =>
          rw [revision] at storing
          exact .inr ⟨changed, rfl, storing⟩

/-- An update changes the members of the entry that it is one of, and nothing else. -/
theorem updateEntry_ok
    {update : EntryUpdate R}
    (lawful : postings.RoundTrips)
    (success :
      outcome
          ((Transaction.environment (C := C) store postings records).updateEntry layout typeName key
            update)
          before =
        (.ok (), after)) :
    (update.index.valueOf update.record = .ok none ∧ after = before) ∨
      ∃ value entry,
        update.index.valueOf update.record = .ok (some value) ∧
          layout.entryKey typeName update.index.name value = .ok entry ∧
            (∀ other, other ≠ entry → after.get store other = before.get store other) ∧
              ∀ members,
                Holds postings (before.get store entry) members →
                  Holds postings (after.get store entry) (update.change.revised key members) := by
  rcases updateEntry_cases lawful success with
    unvalued | ⟨value, entry, list, isValue, isEntry, lists, storing⟩
  · exact .inl unvalued
  · refine .inr ⟨value, entry, isValue, isEntry, ?_⟩
    rcases storing with ⟨agrees, rfl⟩ | ⟨changed, changes, stored⟩
    · refine ⟨fun _ _ => rfl, ?_⟩
      intro members holds
      exact holds.congr (update.change.revised_of_none (lists members holds) agrees)
    · obtain ⟨holdsChanged, others⟩ := storePostings_ok stored
      refine ⟨others, ?_⟩
      intro members holds
      exact holdsChanged.congr (update.change.revised_of_some (lists members holds) changes)

/-- Entries that hold their members hold the changed members after an update. -/
theorem entriesHold_updateEntry
    {update : EntryUpdate R}
    {members : Bytes → Bytes → Prop}
    (lawful : postings.RoundTrips)
    (success :
      outcome
          ((Transaction.environment (C := C) store postings records).updateEntry layout typeName key
            update)
          before =
        (.ok (), after))
    (hold : EntriesHold postings layout (before.get store) members) :
    EntriesHold postings layout (after.get store)
      (update.revised layout typeName key members) := by
  intro entry isEntry
  rcases updateEntry_ok lawful success with
    ⟨noValue, rfl⟩ | ⟨value, target, isValue, isTarget, others, changes⟩
  · have noTarget : ¬ update.Targets layout typeName entry := by
      rintro ⟨value, isValue, -⟩
      rw [noValue] at isValue
      cases isValue
    exact (hold entry isEntry).congr (update.revised_of_no_target noTarget)
  · by_cases same : entry = target
    · subst same
      have isTargeted : update.Targets layout typeName entry :=
        ⟨value, isValue, isTarget⟩
      have changed := changes (members entry) (hold entry isEntry)
      exact changed.congr (update.revised_of_target isTargeted)
    · have noTarget : ¬ update.Targets layout typeName entry := by
        rintro ⟨other, isOther, isKey⟩
        rw [isValue] at isOther
        cases isOther
        rw [isTarget] at isKey
        cases isKey
        exact same rfl
      rw [others entry same]
      exact (hold entry isEntry).congr (update.revised_of_no_target noTarget)

/-- Entries that hold their members hold the changed members after a row of updates. -/
theorem entriesHold_updateEntries
    {updates : List (EntryUpdate R)}
    {members : Bytes → Bytes → Prop}
    (lawful : postings.RoundTrips)
    (success :
      outcome
          ((Transaction.environment (C := C) store postings records).updateEntries layout typeName
            key updates)
          before =
        (.ok (), after))
    (hold : EntriesHold postings layout (before.get store) members) :
    EntriesHold postings layout (after.get store)
      (updates.foldl (EntryUpdate.revised layout typeName key) members) := by
  induction updates generalizing before members with
  | nil =>
      cases success
      exact hold
  | cons update rest inductionHypothesis =>
      obtain ⟨_, middle, first, others⟩ := outcome_bind_ok.1 success
      exact inductionHypothesis others (entriesHold_updateEntry lawful first hold)

/-- A row of updates only succeeds if every index gives a value, or none, for its record. -/
theorem valueOf_of_updateEntries_ok
    {updates : List (EntryUpdate R)}
    (success :
      outcome
          ((Transaction.environment (C := C) store postings records).updateEntries layout typeName
            key updates)
          before =
        (.ok (), after)) :
    ∀ update ∈ updates, ∃ value?, update.index.valueOf update.record = .ok value? := by
  induction updates generalizing before with
  | nil =>
      simp
  | cons update rest inductionHypothesis =>
      obtain ⟨_, middle, first, others⟩ := outcome_bind_ok.1 success
      obtain ⟨value?, _, valued, -⟩ := outcome_bind_ok.1 first
      rw [List.forall_mem_cons]
      exact ⟨⟨value?, (Prod.mk.inj valued).1⟩, inductionHypothesis others⟩

end Success

section Frame

variable
  {R C : Type}
  {store : Store}
  {postings : Codec PostingList}
  {records : Codec R}
  {layout : KeyLayout}
  {typeName : String}
  {key : Bytes}
  {kept : Transaction → Prop}
  (keptBySet :
    ∀ transaction entry bytes,
      layout.IsEntry entry → kept transaction → kept (transaction.set entry bytes))
  (keptByDelete :
    ∀ transaction entry, layout.IsEntry entry → kept transaction → kept (transaction.delete entry))

include keptBySet keptByDelete

/-- Storing the list of an entry preserves what writing and deleting entries preserves. -/
theorem preserves_storePostings
    {entry : Bytes}
    (isEntry : layout.IsEntry entry)
    (index : String)
    (list : PostingList) :
    Preserves kept
      ((Transaction.environment (C := C) store postings records).storePostings typeName index entry
        list) := by
  rw [Environment.storePostings]
  split
  · refine .bind (fun _ held => held) ?_
    intro _ transaction held
    exact keptByDelete transaction entry isEntry held
  · refine .bind (fun _ held => held) ?_
    intro bytes
    refine .bind (fun _ held => held) ?_
    intro _ transaction held
    exact keptBySet transaction entry bytes isEntry held

theorem preserves_updateEntry
    (update : EntryUpdate R) :
    Preserves kept
      ((Transaction.environment (C := C) store postings records).updateEntry layout typeName key
        update) := by
  refine .bind (.ofExcept _) ?_
  intro value?
  cases value? with
  | none =>
      exact .pure _
  | some value =>
      refine .bind_ofExcept ?_
      intro entry isKey
      have isEntry : layout.IsEntry entry :=
        ⟨typeName, update.index.name, value, isKey⟩
      refine .bind ?_ ?_
      · refine .bind (fun _ held => held) ?_
        intro content
        cases content with
        | none =>
            exact .pure _
        | some bytes =>
            exact fun _ held => held
      · intro list
        cases update.change.revise? key list with
        | none =>
            exact .pure _
        | some changed =>
            exact preserves_storePostings keptBySet keptByDelete isEntry _ changed

theorem preserves_updateEntries
    (updates : List (EntryUpdate R)) :
    Preserves kept
      ((Transaction.environment (C := C) store postings records).updateEntries layout typeName key
        updates) := by
  induction updates with
  | nil =>
      exact .pure _
  | cons update rest inductionHypothesis =>
      exact .bind (preserves_updateEntry keptBySet keptByDelete update) fun _ =>
        inductionHypothesis

end Frame

/-- Maintenance leaves every key alone that is not the key of an entry. -/
theorem get_updateEntries
    {R C : Type}
    {store : Store}
    {postings : Codec PostingList}
    {records : Codec R}
    {layout : KeyLayout}
    {typeName : String}
    {key other : Bytes}
    {updates : List (EntryUpdate R)}
    {before after : Transaction}
    {result : Except IndexError Unit}
    (ends :
      outcome
          ((Transaction.environment (C := C) store postings records).updateEntries layout typeName
            key updates)
          before =
        (result, after))
    (notEntry : ¬ layout.IsEntry other) :
    after.get store other = before.get store other := by
  have preserved :
      Preserves (fun transaction => transaction.get store other = before.get store other)
        ((Transaction.environment (C := C) store postings records).updateEntries layout typeName
          key updates) := by
    apply preserves_updateEntries
    · intro transaction entry bytes isEntry held
      have different : other ≠ entry := by
        rintro rfl
        exact notEntry isEntry
      rw [Transaction.get_set, if_neg different, held]
    · intro transaction entry isEntry held
      have different : other ≠ entry := by
        rintro rfl
        exact notEntry isEntry
      rw [Transaction.get_delete, if_neg different, held]
  have held := preserved before rfl
  rw [ends] at held
  exact held

section Members

variable
  {R C : Type}
  (layout : KeyLayout)
  (schema : Schema R C)
  (key : Bytes)
  (record : R)
  (members : Bytes → Bytes → Prop)
  (entry other : Bytes)

/-- The entries in which a record of a type is to be listed. -/
def Schema.Lists :
    Prop :=
  ∃ index ∈ schema.indexes, ∃ value,
    index.valueOf record = .ok (some value) ∧
      layout.entryKey schema.typeName index.name value = .ok entry

/-- Listing a record adds its key to the members of its entries. -/
theorem members_add :
    (schema.updates .add record).foldl (EntryUpdate.revised layout schema.typeName key) members
        entry other ↔
      members entry other ∨ other = key ∧ schema.Lists layout record entry := by
  rw [Schema.updates, Schema.Lists]
  induction schema.indexes generalizing members with
  | nil =>
      simp
  | cons index rest inductionHypothesis =>
      rw [List.map_cons, List.foldl_cons, inductionHypothesis]
      simp only [EntryUpdate.revised, EntryUpdate.Targets, List.exists_mem_cons_iff, and_or_left,
        or_assoc]

/-- No longer listing a record takes its key from the members of its entries. -/
theorem members_remove :
    (schema.updates .remove record).foldl (EntryUpdate.revised layout schema.typeName key) members
        entry other ↔
      members entry other ∧ ¬ (other = key ∧ schema.Lists layout record entry) := by
  rw [Schema.updates, Schema.Lists]
  induction schema.indexes generalizing members with
  | nil =>
      simp
  | cons index rest inductionHypothesis =>
      rw [List.map_cons, List.foldl_cons, inductionHypothesis]
      simp only [EntryUpdate.revised, EntryUpdate.Targets, List.exists_mem_cons_iff, and_or_left,
        not_or, and_assoc]

end Members

end SecondaryIndex
