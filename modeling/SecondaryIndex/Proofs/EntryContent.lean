import SecondaryIndex.Proofs.Maintenance

namespace SecondaryIndex

/-!
# Entries one by one

A row of updates acts on each entry by itself: what an entry holds in the end is told
from what it held at first and from the changes that are made to it, in their order.
The last change settles whether the key is listed, and a list that has been changed is
stored in one form only.  Changes that have been made already may therefore be made
again.
-/

open Versioned

namespace Change

/-- The posting list that a change leaves. -/
def applied
    (key : Bytes)
    (list : PostingList)
    (change : Change) :
    PostingList :=
  (change.revise? key list).getD list

variable
  {key other : Bytes}
  {list first second : PostingList}
  {change : Change}

theorem mem_applied :
    other ∈ (change.applied key list).keys ↔
      change.revised key (fun member => member ∈ list.keys) other := by
  rw [applied]
  cases revision : change.revise? key list with
  | none =>
      exact change.revised_of_none (fun _ => Iff.rfl) revision other
  | some changed =>
      exact change.revised_of_some (fun _ => Iff.rfl) revision other

/-- A change settles whether its key is listed, whatever was the case before. -/
theorem applied_congr
    (agree : ∀ other, other ≠ key → (other ∈ first.keys ↔ other ∈ second.keys)) :
    change.applied key first = change.applied key second := by
  apply PostingList.eq_of_mem_iff
  intro other
  rw [mem_applied, mem_applied]
  by_cases isKey : other = key
  · cases change <;> simp [revised, isKey]
  · cases change <;> simp [revised, isKey, agree other isKey]

/-- Changes for a key leave the other members alone. -/
theorem mem_foldl_applied
    {changes : List Change}
    (isOther : other ≠ key) :
    other ∈ (changes.foldl (applied key) list).keys ↔ other ∈ list.keys := by
  induction changes generalizing list with
  | nil =>
      rfl
  | cons change rest inductionHypothesis =>
      rw [List.foldl_cons, inductionHypothesis, mem_applied]
      cases change <;> simp [revised, isOther]

/-- Changes that are made again change nothing more. -/
theorem foldl_applied_twice
    (changes : List Change) :
    changes.foldl (applied key) (changes.foldl (applied key) list) =
      changes.foldl (applied key) list := by
  cases changes with
  | nil =>
      rfl
  | cons change rest =>
      have first :
          change.applied key ((change :: rest).foldl (applied key) list) =
            change.applied key list :=
        applied_congr fun _ isOther => mem_foldl_applied isOther
      rw [List.foldl_cons, first, List.foldl_cons]

end Change

/-- A list without a member is the empty one. -/
theorem PostingList.eq_empty
    {list : PostingList}
    (isEmpty : list.isEmpty) :
    list = .empty := by
  apply eq_of_mem_iff
  intro key
  rw [List.isEmpty_iff.1 isEmpty]
  rfl

namespace Codec

variable
  {postings : Codec PostingList}
  {list : PostingList}
  {content : Option Bytes}

/-- The posting list that is read of what an entry holds. -/
def listed
    (postings : Codec PostingList) :
    Option Bytes → Except IndexError PostingList
  | none =>
      .ok .empty
  | some bytes =>
      (postings.decode bytes).mapError .codec

/-- What is stored of a posting list: nothing if it is empty. -/
def stored
    (postings : Codec PostingList)
    (list : PostingList) :
    Except IndexError (Option Bytes) :=
  if list.isEmpty then .ok none else ((postings.encode list).map some).mapError .codec

/-- What is stored of a list is read as that list. -/
theorem listed_of_stored
    (lawful : postings.RoundTrips)
    (isStored : postings.stored list = .ok content) :
    postings.listed content = .ok list := by
  rw [stored] at isStored
  split at isStored
  next isEmpty =>
    cases isStored
    rw [PostingList.eq_empty isEmpty]
    rfl
  next =>
    cases encoded : postings.encode list with
    | error failure =>
        rw [encoded] at isStored
        cases isStored
    | ok bytes =>
        rw [encoded] at isStored
        cases isStored
        rw [listed, lawful encoded]
        rfl

end Codec

/-- What an entry holds after a change; a list that stays the same is not stored again. -/
def Change.contentAfter
    (postings : Codec PostingList)
    (key : Bytes)
    (content : Option Bytes)
    (change : Change) :
    Except IndexError (Option Bytes) :=
  match postings.listed content with
  | .error error =>
      .error error
  | .ok list =>
      match change.revise? key list with
      | none => .ok content
      | some changed => postings.stored changed

/-- What an entry holds after changes, made up to the first that fails. -/
def replay
    (postings : Codec PostingList)
    (key : Bytes)
    (changes : List Change)
    (content : Option Bytes) :
    Except IndexError (Option Bytes) :=
  changes.foldlM (Change.contentAfter postings key) content

section Replay

variable
  {postings : Codec PostingList}
  {key : Bytes}
  {content after : Option Bytes}

theorem contentAfter_ok
    {change : Change}
    (success : change.contentAfter postings key content = .ok after) :
    ∃ list,
      postings.listed content = .ok list ∧
        (after = content ∧ change.applied key list = list ∨
          postings.stored (change.applied key list) = .ok after) := by
  rw [Change.contentAfter] at success
  cases read : postings.listed content with
  | error error =>
      rw [read] at success
      cases success
  | ok list =>
      refine ⟨list, rfl, ?_⟩
      rw [read] at success
      rw [Change.applied]
      cases revision : change.revise? key list with
      | none =>
          simp only [revision] at success
          cases success
          exact .inl ⟨rfl, rfl⟩
      | some changed =>
          simp only [revision] at success
          exact .inr success

theorem replay_cons_ok
    {change : Change}
    {rest : List Change} :
    replay postings key (change :: rest) content = .ok after ↔
      ∃ middle,
        change.contentAfter postings key content = .ok middle ∧
          replay postings key rest middle = .ok after := by
  rw [replay, List.foldlM_cons]
  cases change.contentAfter postings key content with
  | error error =>
      exact iff_of_false nofun (by rintro ⟨_, ⟨⟩, _⟩)
  | ok middle =>
      constructor
      · intro success
        exact ⟨middle, rfl, success⟩
      · rintro ⟨_, ⟨⟩, success⟩
        exact success

theorem replay_append_ok
    {done rest : List Change} :
    replay postings key (done ++ rest) content = .ok after ↔
      ∃ middle,
        replay postings key done content = .ok middle ∧
          replay postings key rest middle = .ok after := by
  induction done generalizing content with
  | nil =>
      constructor
      · intro success
        exact ⟨content, rfl, success⟩
      · rintro ⟨_, ⟨⟩, success⟩
        exact success
  | cons change done inductionHypothesis =>
      simp only [List.cons_append, replay_cons_ok, inductionHypothesis]
      constructor
      · rintro ⟨first, changed, middle, begins, ends⟩
        exact ⟨middle, ⟨first, changed, begins⟩, ends⟩
      · rintro ⟨middle, ⟨first, changed, begins⟩, ends⟩
        exact ⟨first, changed, middle, begins, ends⟩

/-- Changes leave the list that they make, stored anew unless the entry is as it was. -/
theorem listed_of_replay
    {changes : List Change}
    {list : PostingList}
    (lawful : postings.RoundTrips)
    (read : postings.listed content = .ok list)
    (success : replay postings key changes content = .ok after) :
    postings.listed after = .ok (changes.foldl (Change.applied key) list) ∧
      (after = content ∨
        postings.stored (changes.foldl (Change.applied key) list) = .ok after) := by
  induction changes generalizing content list with
  | nil =>
      cases success
      exact ⟨read, .inl rfl⟩
  | cons change rest inductionHypothesis =>
      obtain ⟨middle, changed, ends⟩ := replay_cons_ok.1 success
      obtain ⟨_, readToo, isMiddle⟩ := contentAfter_ok changed
      cases read.symm.trans readToo
      rcases isMiddle with ⟨rfl, same⟩ | isStored
      · rw [List.foldl_cons, same]
        exact inductionHypothesis read ends
      · have readThen := Codec.listed_of_stored lawful isStored
        obtain ⟨lists, isAfter⟩ := inductionHypothesis readThen ends
        refine ⟨lists, .inr ?_⟩
        rcases isAfter with rfl | isStoredThen
        · -- The rest has changed nothing, so what the first change has stored is still there.
          rw [List.foldl_cons, ← Except.ok.inj (readThen.symm.trans lists)]
          exact isStored
        · exact isStoredThen

/-- Changes that are made again leave the entry as it is. -/
theorem replay_twice
    {changes : List Change}
    {again : Option Bytes}
    (lawful : postings.RoundTrips)
    (once : replay postings key changes content = .ok after)
    (twice : replay postings key changes after = .ok again) :
    again = after := by
  cases changes with
  | nil =>
      cases twice
      rfl
  | cons change rest =>
      obtain ⟨_, changed, -⟩ := replay_cons_ok.1 once
      obtain ⟨list, read, -⟩ := contentAfter_ok changed
      obtain ⟨readThen, isAfter⟩ := listed_of_replay lawful read once
      obtain ⟨-, isAgain⟩ := listed_of_replay lawful readThen twice
      rw [Change.foldl_applied_twice] at isAgain
      rcases isAfter with rfl | isStored
      · exact Except.ok.inj (twice.symm.trans once)
      · rcases isAgain with same | isStoredAgain
        · exact same
        · exact Except.ok.inj (isStoredAgain.symm.trans isStored)

/-- Changes of which the first have been made already come to the same from the beginning. -/
theorem replay_resumed
    {done rest : List Change}
    {middle : Option Bytes}
    (lawful : postings.RoundTrips)
    (begun : replay postings key done content = .ok middle)
    (ends : replay postings key (done ++ rest) middle = .ok after) :
    replay postings key (done ++ rest) content = .ok after := by
  obtain ⟨again, doneAgain, restEnds⟩ := replay_append_ok.1 ends
  rw [replay_twice lawful begun doneAgain] at restEnds
  exact replay_append_ok.2 ⟨middle, begun, restEnds⟩

end Replay

/-- The entry of which an update is one, or none if the index gives the record no value. -/
def EntryUpdate.target
    {R : Type}
    (layout : KeyLayout)
    (typeName : String)
    (update : EntryUpdate R) :
    Except IndexError (Option Bytes) :=
  match update.index.valueOf update.record with
  | .error error => .error error
  | .ok none => .ok none
  | .ok (some value) => (layout.entryKey typeName update.index.name value).map some

/-- The changes that updates make to an entry. -/
def changesOf
    {R : Type}
    (layout : KeyLayout)
    (typeName : String)
    (entry : Bytes)
    (updates : List (EntryUpdate R)) :
    List Change :=
  updates.filterMap fun update =>
    match update.target layout typeName with
    | .ok (some target) => if target = entry then some update.change else none
    | _ => none

namespace Environment

variable
  {σ R C : Type}
  (environment : Environment σ R C)
  {layout : KeyLayout}
  {typeName : String}
  {key : Bytes}

/-- Make a change to an entry. -/
def changeEntry
    (typeName index : String)
    (key : Bytes)
    (change : Change)
    (entry : Bytes) :
    Action σ Unit := do
  let list ← environment.postings entry
  match change.revise? key list with
  | none => return ()
  | some changed => environment.storePostings typeName index entry changed

/-- An update makes its change to its entry, if it is an update of one. -/
theorem updateEntry_eq
    (update : EntryUpdate R) :
    environment.updateEntry layout typeName key update =
      match update.target layout typeName with
      | .error error => throw error
      | .ok none => return ()
      | .ok (some entry) =>
          environment.changeEntry typeName update.index.name key update.change entry := by
  rw [updateEntry, EntryUpdate.target]
  rcases update.index.valueOf update.record with error | (none | value)
  · rfl
  · rfl
  · show
      (do
        let entry ← Action.ofExcept (layout.entryKey typeName update.index.name value)
        environment.changeEntry typeName update.index.name key update.change entry) =
      match (layout.entryKey typeName update.index.name value).map some with
      | .error error => throw error
      | .ok none => return ()
      | .ok (some entry) =>
          environment.changeEntry typeName update.index.name key update.change entry
    cases layout.entryKey typeName update.index.name value <;> rfl

end Environment

/-- An operation fails as told, or else leaves in an entry what is told, and all else alone. -/
def Settles
    (store : Store)
    (entry : Bytes)
    (before : Transaction)
    (told : Except IndexError (Option Bytes))
    (ends : Except IndexError Unit × Transaction) :
    Prop :=
  (∃ error, told = .error error ∧ ends = (.error error, before)) ∨
    ∃ content after,
      told = .ok content ∧ ends = (.ok (), after) ∧
        ∀ other,
          after.get store other = if other = entry then content else before.get store other

section Updates

variable
  {R C : Type}
  {store : Store}
  {postings : Codec PostingList}
  {records : Codec R}
  {layout : KeyLayout}
  {typeName : String}
  {key entry : Bytes}
  {before after : Transaction}
  {update : EntryUpdate R}
  {updates : List (EntryUpdate R)}

theorem target_eq_some_iff :
    update.target layout typeName = .ok (some entry) ↔
      update.Targets layout typeName entry := by
  rw [EntryUpdate.target, EntryUpdate.Targets]
  rcases update.index.valueOf update.record with error | (none | value)
  · simp
  · simp
  · cases isEntry : layout.entryKey typeName update.index.name value <;>
      simp [Except.map, isEntry]

variable
  (store postings records)

/-- What is read of an entry is told from what it holds; reading changes nothing. -/
theorem outcome_postings
    (entry : Bytes) :
    outcome ((Transaction.environment (C := C) store postings records).postings entry) before =
      (postings.listed (before.get store entry), before) := by
  have got :
      outcome
          (Action.ofStore
            ((Transaction.environment (C := C) store postings records).get entry)) before =
        (.ok (before.get store entry), before) := rfl
  rw [Environment.postings, outcome_bind, got]
  cases before.get store entry <;> rfl

theorem settles_storePostings
    (typeName index : String)
    (entry : Bytes)
    (list : PostingList)
    (before : Transaction) :
    Settles store entry before (postings.stored list)
      (outcome
        ((Transaction.environment (C := C) store postings records).storePostings typeName index
          entry list)
        before) := by
  rw [Environment.storePostings, Codec.stored]
  split
  · exact .inr ⟨none, before.delete entry, rfl, rfl, before.get_delete store entry⟩
  · rw [outcome_bind]
    cases encoded : postings.encode list with
    | error failure =>
        simp only [Transaction.environment, encoded]
        exact .inl ⟨.codec failure, rfl, rfl⟩
    | ok bytes =>
        simp only [Transaction.environment, encoded]
        refine .inr ⟨some bytes, before.set entry bytes, rfl, rfl, ?_⟩
        exact fun other => before.get_set store entry other bytes

/-- A change fails as reading or storing its list does, or else leaves its entry changed. -/
theorem settles_changeEntry
    (typeName index : String)
    (key : Bytes)
    (change : Change)
    (entry : Bytes)
    (before : Transaction) :
    Settles store entry before (change.contentAfter postings key (before.get store entry))
      (outcome
        ((Transaction.environment (C := C) store postings records).changeEntry typeName index key
          change entry)
        before) := by
  rw [Environment.changeEntry, outcome_bind, outcome_postings, Change.contentAfter]
  cases postings.listed (before.get store entry) with
  | error error =>
      exact .inl ⟨error, rfl, rfl⟩
  | ok list =>
      dsimp only
      cases change.revise? key list with
      | none =>
          refine .inr ⟨_, before, rfl, rfl, ?_⟩
          intro other
          by_cases isEntry : other = entry
          · rw [if_pos isEntry, isEntry]
          · rw [if_neg isEntry]
      | some changed =>
          exact settles_storePostings store postings records typeName index entry changed before

theorem changesOf_of_none
    (isEntry : update.target layout typeName = .ok none)
    (entry : Bytes) :
    changesOf layout typeName entry [update] = [] := by
  simp [changesOf, isEntry]

theorem changesOf_of_some
    {target : Bytes}
    (isEntry : update.target layout typeName = .ok (some target))
    (entry : Bytes) :
    changesOf layout typeName entry [update] = if entry = target then [update.change] else [] := by
  by_cases same : entry = target
  · simp [changesOf, isEntry, same]
  · simp [changesOf, isEntry, same, Ne.symm same]

theorem changesOf_append
    (entry : Bytes)
    (done rest : List (EntryUpdate R)) :
    changesOf layout typeName entry (done ++ rest) =
      changesOf layout typeName entry done ++ changesOf layout typeName entry rest :=
  List.filterMap_append

theorem replay_singleton
    (change : Change)
    (content : Option Bytes) :
    replay postings key [change] content = change.contentAfter postings key content := by
  rw [replay, List.foldlM_cons]
  cases change.contentAfter postings key content <;> rfl

variable
  (layout typeName key update before)

/--
An update fails and changes nothing, or else it succeeds and makes to each entry the
change, if any, that it makes to it.
-/
theorem updateEntry_replays :
    (∃ error,
      outcome
          ((Transaction.environment (C := C) store postings records).updateEntry layout typeName key
            update)
          before =
        (.error error, before) ∧
      ∀ target,
        update.target layout typeName = .ok target →
          ∃ entry,
            replay postings key (changesOf layout typeName entry [update])
                (before.get store entry) =
              .error error) ∨
    ∃ target after,
      update.target layout typeName = .ok target ∧
        outcome
            ((Transaction.environment (C := C) store postings records).updateEntry layout typeName
              key update)
            before =
          (.ok (), after) ∧
        ∀ entry,
          replay postings key (changesOf layout typeName entry [update])
              (before.get store entry) =
            .ok (after.get store entry) := by
  rw [Environment.updateEntry_eq]
  rcases isEntry : update.target layout typeName with error | (_ | target)
  · exact .inl ⟨error, rfl, nofun⟩
  · refine .inr ⟨none, before, rfl, rfl, ?_⟩
    intro entry
    rw [changesOf_of_none isEntry]
    rfl
  · dsimp only
    rcases settles_changeEntry (C := C) store postings records typeName update.index.name key
        update.change target before with
      ⟨error, told, ends⟩ | ⟨content, after, told, ends, values⟩
    · refine .inl ⟨error, ends, ?_⟩
      intro _ _
      refine ⟨target, ?_⟩
      rw [changesOf_of_some isEntry, if_pos rfl, replay_singleton, told]
    · refine .inr ⟨some target, after, rfl, ends, ?_⟩
      intro entry
      rw [changesOf_of_some isEntry, values]
      by_cases same : entry = target
      · rw [if_pos same, if_pos same, replay_singleton, same, told]
      · rw [if_neg same, if_neg same]
        rfl

variable
  {store postings records layout typeName key update before}

/-- A row of updates that succeeds makes to each entry the changes that it makes to it. -/
theorem updateEntries_ok
    (success :
      outcome
          ((Transaction.environment (C := C) store postings records).updateEntries layout typeName
            key updates)
          before =
        (.ok (), after)) :
    (∀ update ∈ updates, ∃ target, update.target layout typeName = .ok target) ∧
      ∀ entry,
        replay postings key (changesOf layout typeName entry updates) (before.get store entry) =
          .ok (after.get store entry) := by
  induction updates generalizing before with
  | nil =>
      cases success
      exact ⟨nofun, fun _ => rfl⟩
  | cons update rest inductionHypothesis =>
      obtain ⟨_, middle, first, others⟩ := outcome_bind_ok.1 success
      obtain ⟨haveEntries, replays⟩ := inductionHypothesis others
      rcases updateEntry_replays (C := C) store postings records layout typeName key before update
        with ⟨error, fails, -⟩ | ⟨target, _, isEntry, ends, begins⟩
      · cases fails.symm.trans first
      · cases ends.symm.trans first
        refine ⟨List.forall_mem_cons.2 ⟨⟨target, isEntry⟩, haveEntries⟩, ?_⟩
        intro entry
        rw [← List.singleton_append, changesOf_append, replay_append_ok]
        exact ⟨_, begins entry, replays entry⟩

/-- If every update has its entry and no change to an entry fails, a row of updates succeeds. -/
theorem updateEntries_succeeds
    (haveEntries : ∀ update ∈ updates, ∃ target, update.target layout typeName = .ok target)
    (replays :
      ∀ entry, ∃ content,
        replay postings key (changesOf layout typeName entry updates) (before.get store entry) =
          .ok content) :
    ∃ after,
      outcome
          ((Transaction.environment (C := C) store postings records).updateEntries layout typeName
            key updates)
          before =
        (.ok (), after) := by
  induction updates generalizing before with
  | nil =>
      exact ⟨before, rfl⟩
  | cons update rest inductionHypothesis =>
      obtain ⟨⟨target, isEntry⟩, restHaveEntries⟩ := List.forall_mem_cons.1 haveEntries
      have split (entry : Bytes) :
          ∃ middle content,
            replay postings key (changesOf layout typeName entry [update])
                (before.get store entry) =
              .ok middle ∧
            replay postings key (changesOf layout typeName entry rest) middle = .ok content := by
        obtain ⟨content, ends⟩ := replays entry
        rw [← List.singleton_append, changesOf_append, replay_append_ok] at ends
        obtain ⟨middle, first, others⟩ := ends
        exact ⟨middle, content, first, others⟩
      rcases updateEntry_replays (C := C) store postings records layout typeName key before update
        with ⟨error, -, fails⟩ | ⟨_, middle, -, ends, begins⟩
      · obtain ⟨entry, failed⟩ := fails target isEntry
        obtain ⟨_, _, succeeded, -⟩ := split entry
        cases failed.symm.trans succeeded
      · have restReplays (entry : Bytes) :
            ∃ content,
              replay postings key (changesOf layout typeName entry rest)
                  (middle.get store entry) =
                .ok content := by
          obtain ⟨_, content, first, others⟩ := split entry
          cases (begins entry).symm.trans first
          exact ⟨content, others⟩
        obtain ⟨after, later⟩ := inductionHypothesis restHaveEntries restReplays
        exact ⟨after, outcome_bind_ok.2 ⟨(), middle, ends, later⟩⟩

/-- An entry that a row of updates has changed is one of which some update is one. -/
theorem targeted_of_changed
    (success :
      outcome
          ((Transaction.environment (C := C) store postings records).updateEntries layout typeName
            key updates)
          before =
        (.ok (), after))
    (changed : after.get store entry ≠ before.get store entry) :
    ∃ update ∈ updates, update.Targets layout typeName entry := by
  by_contra untargeted
  have noChanges : changesOf layout typeName entry updates = [] := by
    rw [changesOf, List.filterMap_eq_nil_iff]
    intro update member
    rcases isEntry : update.target layout typeName with error | (_ | target)
    · rfl
    · rfl
    · dsimp only
      rw [if_neg]
      rintro rfl
      exact untargeted ⟨update, member, target_eq_some_iff.1 isEntry⟩
  have replayed := (updateEntries_ok success).2 entry
  rw [noChanges] at replayed
  exact changed (Except.ok.inj replayed).symm

end Updates

/-- An operation of maintenance for a record. -/
inductive Upkeep (R : Type) where
  | index (record : R)
  | unindex (record : R)
  | reindex (old new : R)

namespace Upkeep

variable
  {σ R C : Type}

/-- The entry updates of an operation, in order. -/
def updates
    (schema : Schema R C) :
    Upkeep R → List (EntryUpdate R)
  | .index record =>
      schema.updates .add record
  | .unindex record =>
      schema.updates .remove record
  | .reindex old new =>
      schema.updates .remove old ++ schema.updates .add new

/-- Carry out an operation for the record stored under a key. -/
def run
    (environment : Environment σ R C)
    (layout : KeyLayout)
    (schema : Schema R C)
    (key : Bytes) :
    Upkeep R → Action σ Unit
  | .index record =>
      environment.indexRecord layout schema key record
  | .unindex record =>
      environment.unindexRecord layout schema key record
  | .reindex old new =>
      environment.reindexRecord layout schema key old new

theorem run_eq
    (environment : Environment σ R C)
    (layout : KeyLayout)
    (schema : Schema R C)
    (key : Bytes)
    (upkeep : Upkeep R) :
    upkeep.run environment layout schema key =
      environment.updateEntries layout schema.typeName key (upkeep.updates schema) := by
  cases upkeep <;> rfl

/-- Every update is one of an index that the schema declares. -/
theorem index_mem_of_mem_updates
    {schema : Schema R C}
    {upkeep : Upkeep R}
    {update : EntryUpdate R}
    (member : update ∈ upkeep.updates schema) :
    update.index ∈ schema.indexes := by
  have declared
      {change : Change}
      {record : R}
      (isUpdate : update ∈ schema.updates change record) :
      update.index ∈ schema.indexes := by
    obtain ⟨index, isDeclared, rfl⟩ := List.mem_map.1 isUpdate
    exact isDeclared
  cases upkeep with
  | index record =>
      exact declared member
  | unindex record =>
      exact declared member
  | reindex old new =>
      rcases List.mem_append.1 member with ofOld | ofNew
      · exact declared ofOld
      · exact declared ofNew

end Upkeep

end SecondaryIndex
