import SecondaryIndex.Proofs.KeyLayout
import SecondaryIndex.Proofs.KeyedChanges
import SecondaryIndex.Proofs.Records.Interleaving

namespace SecondaryIndex.Records

/-!
# Maintenance for different records commutes

Operations of maintenance for records of any types are carried out in a row.  Entries
that the records share are written, emptied and created anew in another order when the
operations are done in another order.  As long as the operations for each single key
keep their order, the store ends up with the same bytes under every key.
-/

open Versioned

/-- An operation of maintenance for a record of a type, stored under a key. -/
structure UpkeepCall {ι : Type} (catalog : Catalog ι) where
  type : ι
  key : Bytes
  upkeep : Upkeep (catalog.types type).Record

namespace UpkeepCall

variable
  {ι : Type}
  {catalog : Catalog ι}

/-- The schema by which a record is indexed. -/
abbrev schema
    (call : UpkeepCall catalog) :
    Schema (catalog.types call.type).Record (catalog.types call.type).Criterion :=
  (catalog.types call.type).schema

/-- Carry out an operation in a transaction. -/
def action
    (store : Store)
    (call : UpkeepCall catalog) :
    Action Transaction Unit :=
  call.upkeep.run (catalog.environment store call.type) catalog.layout call.schema call.key

/-- Whether an entry is one of a record of an operation. -/
def Touches
    (call : UpkeepCall catalog)
    (entry : Bytes) :
    Prop :=
  call.upkeep.Touches catalog.layout call.schema entry

/-- The changes that an operation makes to an entry. -/
def changesTo
    (entry : Bytes)
    (call : UpkeepCall catalog) :
    List KeyedChange :=
  (changesOf catalog.layout call.schema.typeName entry (call.upkeep.updates call.schema)).map
    (KeyedChange.mk call.key)

/-- The names can stand in keys, and no index fails on a record of the operation. -/
structure Proper
    (call : UpkeepCall catalog) :
    Prop where
  typeName : delimiter ∉ Bytes.ofText call.schema.typeName
  indexNames : ∀ index ∈ call.schema.indexes, delimiter ∉ Bytes.ofText index.name
  values :
    ∀ record,
      call.upkeep.old? = some record ∨ call.upkeep.new? = some record →
        ∀ index ∈ call.schema.indexes, ∃ value?, index.valueOf record = .ok value?

variable
  {store : Store}
  {call : UpkeepCall catalog}
  {before after : Transaction}
  {entry : Bytes}

theorem key_of_mem_changesTo
    {keyed : KeyedChange}
    (member : keyed ∈ call.changesTo entry) :
    keyed.key = call.key := by
  obtain ⟨change, -, rfl⟩ := List.mem_map.1 member
  rfl

theorem changesTo_of_not_touches
    (untouched : ¬ call.Touches entry) :
    call.changesTo entry = [] := by
  rw [changesTo, Upkeep.changesOf_of_not_touches untouched, List.map_nil]

/-- The updates of a proper operation have their entries. -/
theorem Proper.haveEntries
    (proper : call.Proper) :
    ∀ update ∈ call.upkeep.updates call.schema,
      ∃ target, update.target catalog.layout call.schema.typeName = .ok target := by
  intro update member
  have declared := Upkeep.index_mem_of_mem_updates member
  obtain ⟨value?, isValue⟩ :=
    proper.values update.record (Upkeep.record_of_mem_updates member) update.index declared
  obtain ⟨lead, isLead⟩ :=
    catalog.layout.indexLead_of_free proper.typeName (proper.indexNames update.index declared)
  rw [EntryUpdate.target, isValue]
  cases value? with
  | none =>
      exact ⟨none, rfl⟩
  | some value =>
      exact ⟨some (lead ++ value),
        congrArg (Except.map some) (KeyLayout.entryKey_of_indexLead isLead value)⟩

/-- An operation that succeeds makes to each entry the changes that it makes to it. -/
theorem replays_of_action_ok
    (success : outcome (call.action store) before = (.ok (), after))
    (entry : Bytes) :
    replayAll catalog.postings (call.changesTo entry) (before.get store entry) =
      .ok (after.get store entry) := by
  rw [action, Upkeep.run_eq] at success
  rw [changesTo, ← replay_eq_replayAll]
  exact (updateEntries_ok success).2 entry

/-- A proper operation succeeds if none of its changes to an entry fails. -/
theorem Proper.action_succeeds
    (proper : call.Proper)
    (replays :
      ∀ entry, ∃ content,
        replayAll catalog.postings (call.changesTo entry) (before.get store entry) =
          .ok content) :
    ∃ after, outcome (call.action store) before = (.ok (), after) := by
  rw [action, Upkeep.run_eq]
  apply updateEntries_succeeds proper.haveEntries
  intro entry
  rw [replay_eq_replayAll]
  exact replays entry

end UpkeepCall

variable
  {ι : Type}
  {catalog : Catalog ι}

/-- Carry out operations in a row, up to the first that fails. -/
def carryOut
    (store : Store) :
    List (UpkeepCall catalog) → Action Transaction Unit
  | [] =>
      return ()
  | call :: rest => do
      call.action store
      carryOut store rest

/-- The changes that a row of operations makes to an entry. -/
def changesToAll
    (entry : Bytes)
    (calls : List (UpkeepCall catalog)) :
    List KeyedChange :=
  calls.flatMap (UpkeepCall.changesTo entry)

variable
  {store : Store}
  {calls others : List (UpkeepCall catalog)}
  {before after : Transaction}
  {entry : Bytes}

theorem mem_calls_of_mem_changesToAll
    {keyed : KeyedChange}
    (member : keyed ∈ changesToAll entry calls) :
    ∃ call ∈ calls, call.Touches entry ∧ call.key = keyed.key := by
  obtain ⟨call, isCall, isChange⟩ := List.mem_flatMap.1 member
  refine ⟨call, isCall, ?_, (UpkeepCall.key_of_mem_changesTo isChange).symm⟩
  by_contra untouched
  rw [UpkeepCall.changesTo_of_not_touches untouched] at isChange
  cases isChange

/-- A row that succeeds makes to each entry the changes that it makes to it. -/
theorem replays_of_carryOut_ok
    (success : outcome (carryOut store calls) before = (.ok (), after))
    (entry : Bytes) :
    replayAll catalog.postings (changesToAll entry calls) (before.get store entry) =
      .ok (after.get store entry) := by
  induction calls generalizing before with
  | nil =>
      cases success
      rfl
  | cons call rest inductionHypothesis =>
      obtain ⟨_, middle, first, others⟩ := outcome_bind_ok.1 success
      rw [changesToAll, List.flatMap_cons, replayAll_append_ok]
      exact ⟨_, UpkeepCall.replays_of_action_ok first entry, inductionHypothesis others⟩

/-- A row of proper operations succeeds if none of its changes to an entry fails. -/
theorem carryOut_succeeds
    (proper : ∀ call ∈ calls, call.Proper)
    (replays :
      ∀ entry, ∃ content,
        replayAll catalog.postings (changesToAll entry calls) (before.get store entry) =
          .ok content) :
    ∃ after, outcome (carryOut store calls) before = (.ok (), after) := by
  induction calls generalizing before with
  | nil =>
      exact ⟨before, rfl⟩
  | cons call rest inductionHypothesis =>
      obtain ⟨callProper, restProper⟩ := List.forall_mem_cons.1 proper
      have split (entry : Bytes) :
          ∃ middle content,
            replayAll catalog.postings (call.changesTo entry) (before.get store entry) =
              .ok middle ∧
            replayAll catalog.postings (changesToAll entry rest) middle = .ok content := by
        obtain ⟨content, ends⟩ := replays entry
        rw [changesToAll, List.flatMap_cons, replayAll_append_ok] at ends
        obtain ⟨middle, first, others⟩ := ends
        exact ⟨middle, content, first, others⟩
      obtain ⟨middle, first⟩ := callProper.action_succeeds fun entry => by
        obtain ⟨content, _, begins, -⟩ := split entry
        exact ⟨content, begins⟩
      have restReplays (entry : Bytes) :
          ∃ content,
            replayAll catalog.postings (changesToAll entry rest) (middle.get store entry) =
              .ok content := by
        obtain ⟨_, content, begins, ends⟩ := split entry
        cases (UpkeepCall.replays_of_action_ok first entry).symm.trans begins
        exact ⟨content, ends⟩
      obtain ⟨after, others⟩ := inductionHypothesis restProper restReplays
      exact ⟨after, outcome_bind_ok.2 ⟨(), middle, first, others⟩⟩

/--
What a row of operations needs of a view: names that can stand in keys and indexes that do
not fail on the records, entries that can be read, whatever their lists look like, and a
codec that keeps the lists of the keys that occur.
-/
structure Feasible
    (store : Store)
    (before : Transaction)
    (calls : List (UpkeepCall catalog)) :
    Prop where
  proper : ∀ call ∈ calls, call.Proper
  readable :
    ∀ call ∈ calls, ∀ entry,
      call.Touches entry → ∃ list, catalog.postings.listed (before.get store entry) = .ok list
  keeps :
    ∀ call ∈ calls, ∀ entry,
      call.Touches entry →
        ∀ list,
          catalog.postings.listed (before.get store entry) = .ok list →
            ∀ row : PostingList,
              (∀ key ∈ row.keys, key ∈ list.keys ∨ ∃ other ∈ calls, other.key = key) →
                catalog.postings.Keeps row

/-- Rows that agree by key leave an entry with the same bytes. -/
theorem Feasible.replays_agree
    (feasible : Feasible store before calls)
    (agree : AgreeByKey UpkeepCall.key calls others)
    (entry : Bytes) :
    ∃ content,
      replayAll catalog.postings (changesToAll entry calls) (before.get store entry) =
          .ok content ∧
        replayAll catalog.postings (changesToAll entry others) (before.get store entry) =
          .ok content := by
  have agreeHere :
      AgreeByKey KeyedChange.key (changesToAll entry calls) (changesToAll entry others) :=
    agree.flatMap fun _ _ => UpkeepCall.key_of_mem_changesTo
  by_cases touched : ∃ call ∈ calls, call.Touches entry
  · obtain ⟨call, isCall, touches⟩ := touched
    obtain ⟨list, read⟩ := feasible.readable call isCall entry touches
    refine replayAll_congr read ?_ agreeHere
    intro row ofKeys
    apply feasible.keeps call isCall entry touches list read
    intro key listed
    rcases ofKeys key listed with before | ⟨keyed, isChange, rfl⟩
    · exact .inl before
    · obtain ⟨source, isSource, -, sameKey⟩ := mem_calls_of_mem_changesToAll isChange
      exact .inr ⟨source, isSource, sameKey⟩
  · have noChange (keyed : KeyedChange) : keyed ∉ changesToAll entry calls := by
      intro member
      obtain ⟨call, isCall, touches, -⟩ := mem_calls_of_mem_changesToAll member
      exact touched ⟨call, isCall, touches⟩
    have noOther (keyed : KeyedChange) : keyed ∉ changesToAll entry others :=
      mt (agreeHere.mem_iff keyed).2 (noChange keyed)
    rw [List.eq_nil_iff_forall_not_mem.2 noChange, List.eq_nil_iff_forall_not_mem.2 noOther]
    exact ⟨_, rfl, rfl⟩

/--
Two rows of maintenance, for records of any types, that agree, for each record key, on the
operations and their order both succeed where the one is feasible, and they leave the same
bytes under every key.
-/
theorem upkeep_commutes
    {ι : Type}
    {catalog : Catalog ι}
    {store : Store}
    {before : Transaction}
    {calls others : List (UpkeepCall catalog)}
    (feasible : Feasible store before calls)
    (agree : AgreeByKey UpkeepCall.key calls others) :
    ∃ after afterOther,
      outcome (carryOut store calls) before = (.ok (), after) ∧
        outcome (carryOut store others) before = (.ok (), afterOther) ∧
          ∀ key, after.get store key = afterOther.get store key := by
  obtain ⟨after, ends⟩ : ∃ after, outcome (carryOut store calls) before = (.ok (), after) := by
    apply carryOut_succeeds feasible.proper
    intro entry
    obtain ⟨content, replays, -⟩ := feasible.replays_agree agree entry
    exact ⟨content, replays⟩
  have otherProper (call : UpkeepCall catalog) (member : call ∈ others) : call.Proper :=
    feasible.proper call ((agree.mem_iff call).2 member)
  obtain ⟨afterOther, endsOther⟩ :
      ∃ afterOther, outcome (carryOut store others) before = (.ok (), afterOther) := by
    apply carryOut_succeeds otherProper
    intro entry
    obtain ⟨content, -, replays⟩ := feasible.replays_agree agree entry
    exact ⟨content, replays⟩
  refine ⟨after, afterOther, ends, endsOther, ?_⟩
  intro key
  obtain ⟨content, replays, replaysOther⟩ := feasible.replays_agree agree key
  rw [replays_of_carryOut_ok ends key] at replays
  rw [replays_of_carryOut_ok endsOther key] at replaysOther
  exact (Except.ok.inj replays).trans (Except.ok.inj replaysOther).symm

/-- Byte strings that are indexed by their first byte, with lists written whatever their lengths. -/
def plainInitials :
    Catalog Unit :=
  { initials with postings := PostingList.codec }

/-- A transaction with an entry that lists two keys out of order, and one of them twice. -/
def misordered :
    Transaction :=
  Transaction.set ⟨0, .empty⟩ (Bytes.ofText "_khIndex:note:initial:" ++ [7])
    (Binary.writeSequence Binary.writeBytes [[9], [5], [9]])

/-- One key is taken out and put back before the other is taken out. -/
def oneAfterTheOther :
    List (UpkeepCall plainInitials) :=
  [⟨(), [5], .unindex [7]⟩, ⟨(), [5], .index [7]⟩, ⟨(), [9], .unindex [7]⟩]

/-- Both keys are taken out, which deletes the entry, before the one is put back. -/
def bothOutFirst :
    List (UpkeepCall plainInitials) :=
  [⟨(), [5], .unindex [7]⟩, ⟨(), [9], .unindex [7]⟩, ⟨(), [5], .index [7]⟩]

/-- The index does not fail, and the entry can be read although it is out of order. -/
theorem misordered_feasible :
    Feasible .empty misordered oneAfterTheOther := by
  have reads (entry : Bytes) :
      ∃ list,
        plainInitials.postings.listed (misordered.get .empty entry) = .ok list ∧
          list.keys ⊆ [[5], [9]] := by
    rw [misordered, Transaction.get_set]
    split
    · exact ⟨⟨[[5], [9]], by decide⟩, by decide +kernel, List.Subset.refl _⟩
    · exact ⟨.empty, rfl, List.nil_subset _⟩
  have callKeys : ∀ call ∈ oneAfterTheOther, call.key ∈ [[5], [9]] := by
    decide
  refine ⟨?_, ?_, ?_⟩
  · intro call _
    refine ⟨?_, ?_, ?_⟩
    · show delimiter ∉ Bytes.ofText "note"
      decide
    · intro index declared
      cases List.mem_singleton.1 declared
      show delimiter ∉ Bytes.ofText "initial"
      decide
    · intro record _ index declared
      cases List.mem_singleton.1 declared
      exact ⟨_, rfl⟩
  · intro call _ entry _
    obtain ⟨list, read, -⟩ := reads entry
    exact ⟨list, read⟩
  · intro call _ entry _ list read row ofKeys
    obtain ⟨_, readToo, among⟩ := reads entry
    cases read.symm.trans readToo
    have rowAmong : row.keys ⊆ [[5], [9]] := by
      intro key member
      rcases ofKeys key member with listed | ⟨other, isOther, rfl⟩
      · exact among listed
      · exact callKeys other isOther
    exact PostingList.keeps_of_fits (PostingList.fits_of_subset rowAmong (by decide) (by decide))

/-- An entry that is deleted and created anew ends up like one that shrinks and grows. -/
theorem deleted_entry_is_restored :
    Feasible .empty misordered oneAfterTheOther ∧
      AgreeByKey UpkeepCall.key oneAfterTheOther bothOutFirst ∧
        ∃ after afterOther,
          outcome (carryOut .empty oneAfterTheOther) misordered = (.ok (), after) ∧
            outcome (carryOut .empty bothOutFirst) misordered = (.ok (), afterOther) ∧
              ∀ key, after.get .empty key = afterOther.get .empty key := by
  have agree : AgreeByKey UpkeepCall.key oneAfterTheOther bothOutFirst := by
    intro key
    by_cases isFirst : [5] = key
    · subst isFirst
      rfl
    · by_cases isSecond : [9] = key <;>
        simp [oneAfterTheOther, bothOutFirst, isFirst, isSecond]
  exact ⟨misordered_feasible, agree, upkeep_commutes misordered_feasible agree⟩

end SecondaryIndex.Records
