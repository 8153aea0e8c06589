import SecondaryIndex.Proofs.Footprint
import SecondaryIndex.Proofs.Interruption

namespace SecondaryIndex

/-!
# The effect of maintenance on any store

An operation of maintenance drops a key from the entries of the old record and
gains it for those of the new one, whatever these entries hold: nothing, a list
that was stored out of order, one with repetitions or one without a member.  An
entry whose list changes on the way is stored anew, in the one form of its list;
an entry whose list never changes keeps its bytes.
-/

open Versioned

namespace Change

variable
  {key : Bytes}
  {list : PostingList}
  {change : Change}

theorem applied_add :
    applied key list .add = list.insert key := by
  apply PostingList.eq_of_mem_iff
  intro other
  rw [mem_applied, PostingList.mem_keys_insert, revised, or_comm]

theorem applied_remove :
    applied key list .remove = list.erase key := by
  apply PostingList.eq_of_mem_iff
  intro other
  rw [mem_applied, PostingList.mem_keys_erase, revised]

theorem revise?_eq_none_iff :
    change.revise? key list = none ↔ ¬ change.Alters key (fun member => member ∈ list.keys) := by
  cases change <;>
    simp [revise?, PostingList.add?, PostingList.remove?, Alters, PostingList.contains_iff]

/-- A change leaves a list as it is exactly if it has nothing to do. -/
theorem applied_eq_self_iff :
    change.applied key list = list ↔ ¬ change.Alters key (fun member => member ∈ list.keys) := by
  constructor
  · intro same alters
    have settled : change.revised key (fun member => member ∈ list.keys) key ↔ key ∈ list.keys := by
      rw [← mem_applied, same]
    cases change with
    | add =>
        exact alters (settled.1 (.inr rfl))
    | remove =>
        exact (settled.2 alters).2 rfl
  · intro agrees
    rw [applied, revise?_eq_none_iff.2 agrees, Option.getD_none]

/-- What a change leaves is told by the change, whatever changes were made before it. -/
theorem applied_after
    (changes : List Change) :
    change.applied key (changes.foldl (applied key) list) = change.applied key list :=
  applied_congr fun _ isOther => mem_foldl_applied isOther

/-- Where all changes are the same one, they come to that one. -/
theorem foldl_applied_of_uniform
    {changes : List Change}
    (uniform : ∀ other ∈ changes, other = change)
    (someChange : changes ≠ []) :
    changes.foldl (applied key) list = change.applied key list := by
  induction changes generalizing list with
  | nil =>
      exact absurd rfl someChange
  | cons first rest inductionHypothesis =>
      obtain ⟨rfl, uniformRest⟩ := List.forall_mem_cons.1 uniform
      rw [List.foldl_cons]
      by_cases noRest : rest = []
      · rw [noRest, List.foldl_nil]
      · rw [inductionHypothesis uniformRest noRest]
        exact applied_after [first]

end Change

section Replay

variable
  {postings : Codec PostingList}
  {key : Bytes}
  {content after : Option Bytes}
  {list : PostingList}
  {changes : List Change}

/-- Changes that have nothing to do leave what an entry holds to the byte. -/
theorem replay_of_not_alters
    (read : postings.listed content = .ok list)
    (idle : ∀ change ∈ changes, ¬ change.Alters key (fun member => member ∈ list.keys)) :
    replay postings key changes content = .ok content := by
  induction changes with
  | nil =>
      rfl
  | cons change rest inductionHypothesis =>
      obtain ⟨firstIdle, restIdle⟩ := List.forall_mem_cons.1 idle
      have unchanged : change.contentAfter postings key content = .ok content := by
        simp only [Change.contentAfter, read, Change.revise?_eq_none_iff.2 firstIdle]
      exact replay_cons_ok.2 ⟨content, unchanged, inductionHypothesis restIdle⟩

/-- An entry that holds the one form of its list still does so after changes. -/
theorem stored_of_replay
    (lawful : postings.RoundTrips)
    (isStored : postings.stored list = .ok content)
    (success : replay postings key changes content = .ok after) :
    postings.stored (changes.foldl (Change.applied key) list) = .ok after := by
  have read := Codec.listed_of_stored lawful isStored
  obtain ⟨readThen, rfl | isStoredThen⟩ := listed_of_replay lawful read success
  · rw [← Except.ok.inj (read.symm.trans readThen)]
    exact isStored
  · exact isStoredThen

/-- Changes that succeed have each left a list that can be stored. -/
theorem storable_of_replay
    (lawful : postings.RoundTrips)
    (isStored : postings.stored list = .ok content)
    (success : replay postings key changes content = .ok after) :
    ∀ change ∈ changes, ∃ written, postings.stored (change.applied key list) = .ok written := by
  induction changes generalizing content list with
  | nil =>
      exact nofun
  | cons first rest inductionHypothesis =>
      obtain ⟨middle, changed, ends⟩ := replay_cons_ok.1 success
      have begun : replay postings key [first] content = .ok middle := by
        rw [replay_singleton, changed]
      have isStoredThen : postings.stored (first.applied key list) = .ok middle :=
        stored_of_replay lawful isStored begun
      rw [List.forall_mem_cons]
      refine ⟨⟨middle, isStoredThen⟩, ?_⟩
      intro change member
      obtain ⟨written, isWritten⟩ := inductionHypothesis isStoredThen ends change member
      have sameList : change.applied key (first.applied key list) = change.applied key list :=
        Change.applied_after [first]
      exact ⟨written, sameList ▸ isWritten⟩

/-- Changes succeed if each of them leaves a list that can be stored. -/
theorem replay_succeeds
    (lawful : postings.RoundTrips)
    (read : postings.listed content = .ok list)
    (storable :
      ∀ change ∈ changes, ∃ written, postings.stored (change.applied key list) = .ok written) :
    ∃ after, replay postings key changes content = .ok after := by
  induction changes generalizing content list with
  | nil =>
      exact ⟨content, rfl⟩
  | cons first rest inductionHypothesis =>
      obtain ⟨⟨written, isWritten⟩, restStorable⟩ := List.forall_mem_cons.1 storable
      have begins :
          ∃ middle,
            first.contentAfter postings key content = .ok middle ∧
              postings.listed middle = .ok (first.applied key list) := by
        cases revision : first.revise? key list with
        | none =>
            refine ⟨content, ?_, ?_⟩
            · simp only [Change.contentAfter, read, revision]
            · rw [Change.applied, revision, Option.getD_none, read]
        | some changed =>
            have isApplied : first.applied key list = changed := by
              rw [Change.applied, revision, Option.getD_some]
            rw [isApplied] at isWritten ⊢
            refine ⟨written, ?_, Codec.listed_of_stored lawful isWritten⟩
            simp only [Change.contentAfter, read, revision, isWritten]
      obtain ⟨middle, changed, readThen⟩ := begins
      have storableThen :
          ∀ change ∈ rest, ∃ written,
            postings.stored (change.applied key (first.applied key list)) = .ok written := by
        intro change member
        have sameList : change.applied key (first.applied key list) = change.applied key list :=
          Change.applied_after [first]
        rw [sameList]
        exact restStorable change member
      obtain ⟨after, ends⟩ := inductionHypothesis readThen storableThen
      exact ⟨after, replay_cons_ok.2 ⟨middle, changed, ends⟩⟩

end Replay

/-- The changes to an entry are those of the updates that are updates of it. -/
theorem mem_changesOf
    {R : Type}
    {layout : KeyLayout}
    {typeName : String}
    {entry : Bytes}
    {updates : List (EntryUpdate R)}
    {change : Change} :
    change ∈ changesOf layout typeName entry updates ↔
      ∃ update ∈ updates, update.Targets layout typeName entry ∧ update.change = change := by
  rw [changesOf, List.mem_filterMap]
  refine exists_congr fun update => and_congr_right fun _ => ?_
  rw [← target_eq_some_iff]
  rcases update.target layout typeName with error | (_ | target)
  · simp
  · simp
  · by_cases same : target = entry <;> simp [same]

section Alterations

variable
  {R C : Type}
  (store : Store)
  (postings : Codec PostingList)
  (records : Codec R)
  (layout : KeyLayout)
  (typeName : String)
  (key : Bytes)

/-- Whether an update of a row changes, when its turn comes, the list of an entry. -/
def Altered
    (updates : List (EntryUpdate R))
    (before : Transaction)
    (entry : Bytes) :
    Prop :=
  ∃ done update rest between next list changed,
    updates = done ++ update :: rest ∧
      outcome
          ((Transaction.environment (C := C) store postings records).updateEntries layout typeName
            key done)
          before =
        (.ok (), between) ∧
      outcome
          ((Transaction.environment (C := C) store postings records).updateEntry layout typeName key
            update)
          between =
        (.ok (), next) ∧
      postings.listed (between.get store entry) = .ok list ∧
      postings.listed (next.get store entry) = .ok changed ∧
      changed ≠ list

variable
  {store postings records layout typeName key}
  {entry : Bytes}
  {before after : Transaction}
  {list : PostingList}
  {updates : List (EntryUpdate R)}

/-- One update makes to each entry the change, if any, that it makes to it. -/
theorem replay_updateEntry
    {update : EntryUpdate R}
    (success :
      outcome
          ((Transaction.environment (C := C) store postings records).updateEntry layout typeName key
            update)
          before =
        (.ok (), after))
    (entry : Bytes) :
    replay postings key (changesOf layout typeName entry [update]) (before.get store entry) =
      .ok (after.get store entry) := by
  have succeeds :
      outcome
          ((Transaction.environment (C := C) store postings records).updateEntries layout typeName
            key [update])
          before =
        (.ok (), after) :=
    outcome_bind_ok.2 ⟨(), after, success, rfl⟩
  exact (updateEntries_ok succeeds).2 entry

/-- A list is changed by the first update of a row or else by the others. -/
theorem altered_cons
    {update : EntryUpdate R}
    {rest : List (EntryUpdate R)}
    (success :
      outcome
          ((Transaction.environment (C := C) store postings records).updateEntry layout typeName key
            update)
          before =
        (.ok (), after)) :
    Altered (C := C) store postings records layout typeName key (update :: rest) before entry ↔
      (∃ list changed,
        postings.listed (before.get store entry) = .ok list ∧
          postings.listed (after.get store entry) = .ok changed ∧ changed ≠ list) ∨
        Altered (C := C) store postings records layout typeName key rest after entry := by
  constructor
  · rintro ⟨done, altering, others, between, next, list, changed, isSplit, begins, ends, read,
      readThen, differ⟩
    cases done with
    | nil =>
        obtain ⟨rfl, -⟩ := List.cons.inj isSplit
        cases begins
        cases success.symm.trans ends
        exact .inl ⟨list, changed, read, readThen, differ⟩
    | cons first done =>
        obtain ⟨rfl, rfl⟩ := List.cons.inj isSplit
        obtain ⟨_, _, succeeds, begins⟩ := outcome_bind_ok.1 begins
        cases success.symm.trans succeeds
        exact .inr ⟨done, altering, others, between, next, list, changed, rfl, begins, ends, read,
          readThen, differ⟩
  · rintro (⟨list, changed, read, readThen, differ⟩ |
      ⟨done, altering, others, between, next, list, changed, rfl, begins, ends, read, readThen,
        differ⟩)
    · exact ⟨[], update, rest, before, after, list, changed, rfl, rfl, success, read, readThen,
        differ⟩
    · exact ⟨update :: done, altering, others, between, next, list, changed, rfl,
        outcome_bind_ok.2 ⟨(), after, success, begins⟩, ends, read, readThen, differ⟩

/-- A list is changed on the way exactly if some update has something to do at the beginning. -/
theorem altered_iff
    (lawful : postings.RoundTrips)
    (success :
      outcome
          ((Transaction.environment (C := C) store postings records).updateEntries layout typeName
            key updates)
          before =
        (.ok (), after))
    (read : postings.listed (before.get store entry) = .ok list) :
    Altered (C := C) store postings records layout typeName key updates before entry ↔
      ∃ change ∈ changesOf layout typeName entry updates,
        change.Alters key (fun member => member ∈ list.keys) := by
  induction updates generalizing before with
  | nil =>
      simp [Altered, changesOf]
  | cons update rest inductionHypothesis =>
      obtain ⟨_, middle, first, others⟩ := outcome_bind_ok.1 success
      have begins := replay_updateEntry first entry
      obtain ⟨readThen, -⟩ := listed_of_replay lawful read begins
      rw [altered_cons first, ← List.singleton_append, changesOf_append]
      simp only [List.mem_append, or_and_right, exists_or]
      by_cases alters :
          ∃ change ∈ changesOf layout typeName entry [update],
            change.Alters key (fun member => member ∈ list.keys)
      · refine iff_of_true (.inl ⟨list, _, read, readThen, ?_⟩) (.inl alters)
        obtain ⟨change, member, alters⟩ := alters
        obtain ⟨_, isUpdate, targets, rfl⟩ := mem_changesOf.1 member
        obtain rfl := List.mem_singleton.1 isUpdate
        rw [changesOf_of_some (target_eq_some_iff.2 targets), if_pos rfl]
        exact fun same => Change.applied_eq_self_iff.1 same alters
      · -- The first update leaves the entry as it is, so the others find the same list there.
        have idle := replay_of_not_alters read fun change member alterss =>
          alters ⟨change, member, alterss⟩
        have unchanged := Except.ok.inj (begins.symm.trans idle)
        rw [unchanged] at readThen ⊢
        rw [inductionHypothesis others (unchanged ▸ read)]
        refine or_congr (iff_of_false ?_ alters) Iff.rfl
        rintro ⟨list, changed, isList, isChanged, differ⟩
        exact differ (Except.ok.inj (isChanged.symm.trans isList))

/-- An entry whose list has been changed on the way is stored anew. -/
theorem stored_of_altered
    (lawful : postings.RoundTrips)
    (success :
      outcome
          ((Transaction.environment (C := C) store postings records).updateEntries layout typeName
            key updates)
          before =
        (.ok (), after))
    (altered :
      Altered (C := C) store postings records layout typeName key updates before entry)
    (read : postings.listed (after.get store entry) = .ok list) :
    postings.stored list = .ok (after.get store entry) := by
  obtain ⟨done, update, rest, between, next, first, changed, rfl, begins, alters, readFirst,
    readChanged, differ⟩ := altered
  rw [Environment.updateEntries_append] at success
  obtain ⟨_, _, begun, ends⟩ := outcome_bind_ok.1 success
  cases begins.symm.trans begun
  obtain ⟨_, _, altersToo, ends⟩ := outcome_bind_ok.1 ends
  cases alters.symm.trans altersToo
  obtain ⟨readThen, same | isStored⟩ :=
    listed_of_replay lawful readFirst (replay_updateEntry alters entry)
  · rw [same] at readChanged
    exact absurd (Except.ok.inj (readChanged.symm.trans readFirst)) differ
  · have isStoredAfter := stored_of_replay lawful isStored ((updateEntries_ok ends).2 entry)
    rw [Except.ok.inj (read.symm.trans (Codec.listed_of_stored lawful isStoredAfter))]
    exact isStoredAfter

end Alterations

namespace Upkeep

variable {R C : Type}

/-- The record, if any, that is listed no longer. -/
def old? :
    Upkeep R → Option R
  | .index _ =>
      none
  | .unindex record =>
      some record
  | .reindex old _ =>
      some old

/-- The record, if any, that is listed from then on. -/
def new? :
    Upkeep R → Option R
  | .index record =>
      some record
  | .unindex _ =>
      none
  | .reindex _ new =>
      some new

/-- The operation that takes an operation back. -/
def reverse :
    Upkeep R → Upkeep R
  | .index record =>
      .unindex record
  | .unindex record =>
      .index record
  | .reindex old new =>
      .reindex new old

variable
  (layout : KeyLayout)
  (schema : Schema R C)
  (upkeep : Upkeep R)
  (entry : Bytes)

/-- Whether an entry is one of the old record. -/
def Drops :
    Prop :=
  ∃ record, upkeep.old? = some record ∧ schema.Lists layout record entry

/-- Whether an entry is one of the new record. -/
def Gains :
    Prop :=
  ∃ record, upkeep.new? = some record ∧ schema.Lists layout record entry

/-- Whether an entry is one of the old record or of the new one. -/
def Touches :
    Prop :=
  upkeep.Drops layout schema entry ∨ upkeep.Gains layout schema entry

variable
  {layout schema upkeep entry}

theorem drops_reverse :
    upkeep.reverse.Drops layout schema entry ↔ upkeep.Gains layout schema entry := by
  cases upkeep <;> rfl

theorem gains_reverse :
    upkeep.reverse.Gains layout schema entry ↔ upkeep.Drops layout schema entry := by
  cases upkeep <;> rfl

theorem touches_reverse :
    upkeep.reverse.Touches layout schema entry ↔ upkeep.Touches layout schema entry := by
  rw [Touches, Touches, drops_reverse, gains_reverse, or_comm]

/-- The old record is removed first, and then the new one is added. -/
theorem updates_eq :
    upkeep.updates schema =
      upkeep.old?.elim [] (schema.updates .remove) ++
        upkeep.new?.elim [] (schema.updates .add) := by
  cases upkeep <;> simp [updates, old?, new?]

/-- Every update is one for the old record or for the new one. -/
theorem record_of_mem_updates
    {update : EntryUpdate R}
    (member : update ∈ upkeep.updates schema) :
    upkeep.old? = some update.record ∨ upkeep.new? = some update.record := by
  have sameRecord
      {change : Change}
      {record : R}
      (isUpdate : update ∈ schema.updates change record) :
      record = update.record := by
    obtain ⟨index, -, rfl⟩ := List.mem_map.1 isUpdate
    rfl
  cases upkeep with
  | index record =>
      exact .inr (congrArg some (sameRecord member))
  | unindex record =>
      exact .inl (congrArg some (sameRecord member))
  | reindex old new =>
      rcases List.mem_append.1 member with ofOld | ofNew
      · exact .inl (congrArg some (sameRecord ofOld))
      · exact .inr (congrArg some (sameRecord ofNew))

/-- The changes to an entry for one record are all alike, and there are some if it is its entry. -/
theorem mem_changesOf_elim
    {record? : Option R}
    {change other : Change} :
    other ∈ changesOf layout schema.typeName entry (record?.elim [] (schema.updates change)) ↔
      other = change ∧ ∃ record, record? = some record ∧ schema.Lists layout record entry := by
  cases record? with
  | none =>
      simp [changesOf]
  | some record =>
      simp only [mem_changesOf, Option.elim_some, Schema.updates, List.mem_map,
        EntryUpdate.Targets, Schema.Lists, Option.some.injEq, exists_eq_left']
      constructor
      · rintro ⟨_, ⟨index, isDeclared, rfl⟩, targets, rfl⟩
        exact ⟨rfl, index, isDeclared, targets⟩
      · rintro ⟨rfl, index, isDeclared, targets⟩
        exact ⟨_, ⟨index, isDeclared, rfl⟩, targets, rfl⟩

theorem remove_mem_changesOf :
    .remove ∈ changesOf layout schema.typeName entry (upkeep.updates schema) ↔
      upkeep.Drops layout schema entry := by
  rw [updates_eq, changesOf_append, List.mem_append, mem_changesOf_elim, mem_changesOf_elim]
  simp [Drops]

theorem add_mem_changesOf :
    .add ∈ changesOf layout schema.typeName entry (upkeep.updates schema) ↔
      upkeep.Gains layout schema entry := by
  rw [updates_eq, changesOf_append, List.mem_append, mem_changesOf_elim, mem_changesOf_elim]
  simp [Gains]

theorem changesOf_of_not_touches
    (untouched : ¬ upkeep.Touches layout schema entry) :
    changesOf layout schema.typeName entry (upkeep.updates schema) = [] := by
  rw [List.eq_nil_iff_forall_not_mem]
  rintro (_ | _) member
  · exact untouched (.inr (add_mem_changesOf.1 member))
  · exact untouched (.inl (remove_mem_changesOf.1 member))

/-- An operation and its reverse are about the same entries. -/
theorem target_of_mem_reverse
    {update : EntryUpdate R}
    (haveEntries :
      ∀ update ∈ upkeep.updates schema, ∃ target, update.target layout schema.typeName = .ok target)
    (member : update ∈ upkeep.reverse.updates schema) :
    ∃ target, update.target layout schema.typeName = .ok target := by
  have ofRecord
      {change other : Change}
      {record : R}
      (included : ∀ update ∈ schema.updates other record, update ∈ upkeep.updates schema)
      (isUpdate : update ∈ schema.updates change record) :
      ∃ target, update.target layout schema.typeName = .ok target := by
    obtain ⟨index, isDeclared, rfl⟩ := List.mem_map.1 isUpdate
    -- The entry of an update does not depend on its change.
    exact haveEntries ⟨index, other, record⟩ (included _ (List.mem_map.2 ⟨index, isDeclared, rfl⟩))
  cases upkeep with
  | index record =>
      exact ofRecord (fun _ isUpdate => isUpdate) member
  | unindex record =>
      exact ofRecord (fun _ isUpdate => isUpdate) member
  | reindex old new =>
      rcases List.mem_append.1 member with ofNew | ofOld
      · exact ofRecord (fun _ isUpdate => List.mem_append_right _ isUpdate) ofNew
      · exact ofRecord (fun _ isUpdate => List.mem_append_left _ isUpdate) ofOld

/-- What all the changes to an entry come to: the last of them decides. -/
theorem foldl_changesOf_updates
    {key : Bytes}
    {list : PostingList} :
    (upkeep.Gains layout schema entry →
      (changesOf layout schema.typeName entry (upkeep.updates schema)).foldl (Change.applied key)
          list =
        Change.applied key list .add) ∧
    (¬ upkeep.Gains layout schema entry → upkeep.Drops layout schema entry →
      (changesOf layout schema.typeName entry (upkeep.updates schema)).foldl (Change.applied key)
          list =
        Change.applied key list .remove) := by
  rw [updates_eq, changesOf_append, List.foldl_append]
  refine ⟨?_, ?_⟩
  · intro gains
    rw [Change.foldl_applied_of_uniform (fun _ member => (mem_changesOf_elim.1 member).1)
      (List.ne_nil_of_mem (mem_changesOf_elim.2 ⟨rfl, gains⟩)), Change.applied_after]
  · intro gainsNot drops
    have noneAdded :
        changesOf layout schema.typeName entry (upkeep.new?.elim [] (schema.updates .add)) = [] :=
      List.eq_nil_iff_forall_not_mem.2 fun _ member => gainsNot (mem_changesOf_elim.1 member).2
    rw [noneAdded, List.foldl_nil]
    exact Change.foldl_applied_of_uniform (fun _ member => (mem_changesOf_elim.1 member).1)
      (List.ne_nil_of_mem (mem_changesOf_elim.2 ⟨rfl, drops⟩))

end Upkeep

section Effect

variable
  {R C : Type}
  {store : Store}
  {postings : Codec PostingList}
  {records : Codec R}
  {layout : KeyLayout}
  {schema : Schema R C}
  {key entry : Bytes}
  {upkeep : Upkeep R}
  {before after : Transaction}
  {list : PostingList}

/-- A list in which a key stands as an operation is to leave it is left as it is. -/
theorem foldl_changesOf_of_agrees
    (agrees : key ∈ list.keys ↔ upkeep.Gains layout schema entry)
    (touched : upkeep.Touches layout schema entry) :
    (changesOf layout schema.typeName entry (upkeep.updates schema)).foldl (Change.applied key)
        list =
      list := by
  by_cases gains : upkeep.Gains layout schema entry
  · rw [Upkeep.foldl_changesOf_updates.1 gains, Change.applied_eq_self_iff]
    exact fun unlisted => unlisted (agrees.2 gains)
  · rw [Upkeep.foldl_changesOf_updates.2 gains (touched.resolve_right gains),
      Change.applied_eq_self_iff]
    exact fun listed => gains (agrees.1 listed)

/-- The changes of the reverse operation bring an entry back to what it held. -/
theorem replay_reverse
    {content changed : Option Bytes}
    (lawful : postings.RoundTrips)
    (isStored : postings.stored list = .ok content)
    (agrees : key ∈ list.keys ↔ upkeep.Drops layout schema entry)
    (touched : upkeep.Touches layout schema entry)
    (replays :
      replay postings key (changesOf layout schema.typeName entry (upkeep.updates schema)) content =
        .ok changed) :
    replay postings key (changesOf layout schema.typeName entry (upkeep.reverse.updates schema))
        changed =
      .ok content := by
  have isStoredThen := stored_of_replay lawful isStored replays
  have storable (change : Change) :
      change ∈ changesOf layout schema.typeName entry (upkeep.reverse.updates schema) →
        ∃ written, postings.stored (change.applied key list) = .ok written := by
    intro member
    by_cases alters : change.Alters key (fun member => member ∈ list.keys)
    · -- Only a key that has been listed is removed, and then the operation has removed it too.
      cases change with
      | add =>
          have gains := Upkeep.add_mem_changesOf.1 member
          exact absurd (agrees.2 (Upkeep.gains_reverse.1 gains)) alters
      | remove =>
          exact storable_of_replay lawful isStored replays .remove
            (Upkeep.remove_mem_changesOf.2 (agrees.1 alters))
    · rw [Change.applied_eq_self_iff.2 alters]
      exact ⟨content, isStored⟩
  obtain ⟨restored, restores⟩ :=
    replay_succeeds lawful (Codec.listed_of_stored lawful isStoredThen) fun change member => by
      rw [Change.applied_after]
      exact storable change member
  have isStoredLast := stored_of_replay lawful isStoredThen restores
  have sameList :
      (changesOf layout schema.typeName entry (upkeep.reverse.updates schema)).foldl
          (Change.applied key)
          ((changesOf layout schema.typeName entry (upkeep.updates schema)).foldl
            (Change.applied key) list) =
        list := by
    by_cases drops : upkeep.Drops layout schema entry
    · rw [Upkeep.foldl_changesOf_updates.1 (Upkeep.gains_reverse.2 drops), Change.applied_after,
        Change.applied_eq_self_iff]
      exact fun unlisted => unlisted (agrees.2 drops)
    · have dropsBack := Upkeep.drops_reverse.2 (touched.resolve_left drops)
      rw [Upkeep.foldl_changesOf_updates.2 (mt Upkeep.gains_reverse.1 drops) dropsBack,
        Change.applied_after, Change.applied_eq_self_iff]
      exact fun listed => drops (agrees.1 listed)
  rw [sameList, isStored] at isStoredLast
  rw [restores, isStoredLast]

section Run

variable
  (lawful : postings.RoundTrips)
  (success :
    outcome
        ((Transaction.environment (C := C) store postings records).updateEntries layout
          schema.typeName key (upkeep.updates schema))
        before =
      (.ok (), after))

include success

/-- An entry that is neither one of the old record nor of the new one keeps its bytes. -/
theorem get_of_not_touches
    (untouched : ¬ upkeep.Touches layout schema entry) :
    after.get store entry = before.get store entry := by
  have replayed := (updateEntries_ok success).2 entry
  rw [Upkeep.changesOf_of_not_touches untouched] at replayed
  exact (Except.ok.inj replayed).symm

/-- An entry that is one of the old record or of the new one has been read. -/
theorem listed_of_touches
    (touched : upkeep.Touches layout schema entry) :
    ∃ list, postings.listed (before.get store entry) = .ok list := by
  have replayed := (updateEntries_ok success).2 entry
  cases isChanges : changesOf layout schema.typeName entry (upkeep.updates schema) with
  | nil =>
      rcases touched with drops | gains
      · have member := Upkeep.remove_mem_changesOf.2 drops
        rw [isChanges] at member
        cases member
      · have member := Upkeep.add_mem_changesOf.2 gains
        rw [isChanges] at member
        cases member
  | cons change rest =>
      rw [isChanges] at replayed
      obtain ⟨_, changed, -⟩ := replay_cons_ok.1 replayed
      obtain ⟨list, read, -⟩ := contentAfter_ok changed
      exact ⟨list, read⟩

include lawful

/-- The list of an entry is changed on the way by the old record or by the new one. -/
theorem altered_upkeep_iff
    (read : postings.listed (before.get store entry) = .ok list) :
    Altered (C := C) store postings records layout schema.typeName key (upkeep.updates schema)
        before entry ↔
      upkeep.Drops layout schema entry ∧ key ∈ list.keys ∨
        upkeep.Gains layout schema entry ∧ key ∉ list.keys := by
  rw [altered_iff lawful success read, ← Upkeep.remove_mem_changesOf, ← Upkeep.add_mem_changesOf]
  constructor
  · rintro ⟨_ | _, member, alters⟩
    · exact .inr ⟨member, alters⟩
    · exact .inl ⟨member, alters⟩
  · rintro (⟨member, listed⟩ | ⟨member, unlisted⟩)
    · exact ⟨.remove, member, listed⟩
    · exact ⟨.add, member, unlisted⟩

/-- An operation that finds its entries as it is to leave them changes nothing. -/
theorem upkeep_agrees
    (stand :
      ∀ entry,
        upkeep.Touches layout schema entry →
          ∃ list,
            postings.stored list = .ok (before.get store entry) ∧
              (key ∈ list.keys ↔ upkeep.Gains layout schema entry))
    (other : Bytes) :
    after.get store other = before.get store other := by
  by_cases touched : upkeep.Touches layout schema other
  · obtain ⟨list, isStored, agrees⟩ := stand other touched
    have isStoredAfter := stored_of_replay lawful isStored ((updateEntries_ok success).2 other)
    rw [foldl_changesOf_of_agrees agrees touched] at isStoredAfter
    exact Except.ok.inj (isStoredAfter.symm.trans isStored)
  · exact get_of_not_touches success touched

/-- An operation that finds listed what it drops, and nothing else, is undone by its reverse. -/
theorem upkeep_undone
    (stand :
      ∀ entry,
        upkeep.Touches layout schema entry →
          ∃ list,
            postings.stored list = .ok (before.get store entry) ∧
              (key ∈ list.keys ↔ upkeep.Drops layout schema entry)) :
    ∃ restored,
      outcome
          ((Transaction.environment (C := C) store postings records).updateEntries layout
            schema.typeName key (upkeep.reverse.updates schema))
          after =
        (.ok (), restored) ∧
      ∀ other, restored.get store other = before.get store other := by
  obtain ⟨haveEntries, replays⟩ := updateEntries_ok success
  have restores (entry : Bytes) :
      replay postings key (changesOf layout schema.typeName entry (upkeep.reverse.updates schema))
          (after.get store entry) =
        .ok (before.get store entry) := by
    by_cases touched : upkeep.Touches layout schema entry
    · obtain ⟨list, isStored, agrees⟩ := stand entry touched
      exact replay_reverse lawful isStored agrees touched (replays entry)
    · rw [Upkeep.changesOf_of_not_touches (mt Upkeep.touches_reverse.1 touched),
        get_of_not_touches success touched]
      rfl
  obtain ⟨restored, ends⟩ :=
    updateEntries_succeeds (fun _ => Upkeep.target_of_mem_reverse haveEntries) fun entry =>
      ⟨_, restores entry⟩
  refine ⟨restored, ends, ?_⟩
  intro other
  exact Except.ok.inj (((updateEntries_ok ends).2 other).symm.trans (restores other))

end Run

end Effect

/--
What an operation of maintenance that succeeds does to a store.  Each entry of the old
record or of the new one could be read; it lists the key afterwards if it is one of the
new record, and else no longer, and it lists the other keys as before.  An entry whose
list has been changed on the way is stored in the one form of its list, or is absent if
that is empty; the bytes of one whose list has not been changed stay, and so does every
other key of the store.  Hence an entry in that form still is in that form.  If the key
was listed under the new record only, then nothing has changed at all; if it was listed
under the old one only, then the reverse operation succeeds and restores the store.
-/
theorem upkeep_effect
    {R C : Type}
    {store : Store}
    {postings : Codec PostingList}
    {records : Codec R}
    {layout : KeyLayout}
    {schema : Schema R C}
    {key : Bytes}
    {upkeep : Upkeep R}
    {before after : Transaction}
    (lawful : postings.RoundTrips)
    (success :
      outcome (upkeep.run (Transaction.environment store postings records) layout schema key)
          before =
        (.ok (), after)) :
    (∀ entry,
      upkeep.Touches layout schema entry →
        ∃ list later,
          postings.listed (before.get store entry) = .ok list ∧
            postings.listed (after.get store entry) = .ok later ∧
            (upkeep.Gains layout schema entry → later = list.insert key) ∧
            (¬ upkeep.Gains layout schema entry → later = list.erase key) ∧
            (Altered (C := C) store postings records layout schema.typeName key
                (upkeep.updates schema) before entry ↔
              upkeep.Drops layout schema entry ∧ key ∈ list.keys ∨
                upkeep.Gains layout schema entry ∧ key ∉ list.keys) ∧
            (Altered (C := C) store postings records layout schema.typeName key
                (upkeep.updates schema) before entry →
              postings.stored later = .ok (after.get store entry)) ∧
            (¬ Altered (C := C) store postings records layout schema.typeName key
                (upkeep.updates schema) before entry →
              after.get store entry = before.get store entry) ∧
            (postings.stored list = .ok (before.get store entry) →
              postings.stored later = .ok (after.get store entry))) ∧
      (∀ other,
        ¬ upkeep.Touches layout schema other → after.get store other = before.get store other) ∧
      ((∀ entry,
        upkeep.Touches layout schema entry →
          ∃ list,
            postings.stored list = .ok (before.get store entry) ∧
              (key ∈ list.keys ↔ upkeep.Gains layout schema entry)) →
        ∀ other, after.get store other = before.get store other) ∧
      ((∀ entry,
        upkeep.Touches layout schema entry →
          ∃ list,
            postings.stored list = .ok (before.get store entry) ∧
              (key ∈ list.keys ↔ upkeep.Drops layout schema entry)) →
        ∃ restored,
          outcome
              (upkeep.reverse.run (Transaction.environment store postings records) layout schema
                key)
              after =
            (.ok (), restored) ∧
          ∀ other, restored.get store other = before.get store other) := by
  rw [Upkeep.run_eq] at success
  simp only [Upkeep.run_eq]
  refine ⟨?_, fun _ => get_of_not_touches success, upkeep_agrees lawful success,
    upkeep_undone lawful success⟩
  intro entry touched
  have replays := (updateEntries_ok success).2 entry
  obtain ⟨list, read⟩ := listed_of_touches success touched
  obtain ⟨readThen, -⟩ := listed_of_replay lawful read replays
  have alters := altered_upkeep_iff lawful success read
  refine ⟨list, _, read, readThen, ?_, ?_, alters, ?_, ?_, ?_⟩
  · intro gains
    rw [Upkeep.foldl_changesOf_updates.1 gains, Change.applied_add]
  · intro gainsNot
    rw [Upkeep.foldl_changesOf_updates.2 gainsNot (touched.resolve_right gainsNot),
      Change.applied_remove]
  · exact fun altered => stored_of_altered lawful success altered readThen
  · intro unaltered
    have idle :
        ∀ change ∈ changesOf layout schema.typeName entry (upkeep.updates schema),
          ¬ change.Alters key (fun member => member ∈ list.keys) := by
      intro change member alterss
      exact unaltered ((altered_iff lawful success read).2 ⟨change, member, alterss⟩)
    exact Except.ok.inj (replays.symm.trans (replay_of_not_alters read idle))
  · exact fun isStored => stored_of_replay lawful isStored replays

/-- A key that is listed twice and stays in its entry is removed and added, and then listed once. -/
theorem effect_on_repeated_key :
    let postings := PostingList.codec.limited PostingList.fits
    let entry := Bytes.ofText "_khIndex:note:last:" ++ [1]
    postings.RoundTrips ∧
      ∃ after,
        outcome
            ((Upkeep.reindex [7, 1] [8, 1]).run
              (Transaction.environment .empty postings
                (Binary.codec Binary.writeBytes Binary.readBytes.read))
              .standard bounds [5])
            repeating =
          (.ok (), after) ∧
        postings.listed (repeating.get .empty entry) = .ok (.ofKeys [[5]]) ∧
        postings.stored (.ofKeys [[5]]) ≠ .ok (repeating.get .empty entry) ∧
        postings.stored (.ofKeys [[5]]) = .ok (after.get .empty entry) := by
  intro postings entry
  have succeeds :
      (outcome
          ((Upkeep.reindex [7, 1] [8, 1]).run
            (Transaction.environment .empty postings
              (Binary.codec Binary.writeBytes Binary.readBytes.read))
            .standard bounds [5])
          repeating).1 =
        .ok () := by
    decide +kernel
  have read : postings.listed (repeating.get .empty entry) = .ok (.ofKeys [[5]]) := by
    decide +kernel
  have isOld : (Upkeep.reindex [7, 1] [8, 1]).Drops .standard bounds entry :=
    ⟨[7, 1], rfl, _, .tail _ (.head _), [1], rfl, by decide +kernel⟩
  have isNew : (Upkeep.reindex [7, 1] [8, 1]).Gains .standard bounds entry :=
    ⟨[8, 1], rfl, _, .tail _ (.head _), [1], rfl, by decide +kernel⟩
  rcases ends :
      outcome
        ((Upkeep.reindex [7, 1] [8, 1]).run
          (Transaction.environment .empty postings
            (Binary.codec Binary.writeBytes Binary.readBytes.read))
          .standard bounds [5])
        repeating with
    ⟨result, after⟩
  rw [ends] at succeeds
  obtain rfl : result = .ok () := succeeds
  obtain ⟨list, later, readToo, -, inserted, -, alters, stores, -⟩ :=
    (upkeep_effect PostingList.roundTrips_codec ends).1 entry (.inl isOld)
  obtain rfl := Except.ok.inj (read.symm.trans readToo)
  have isAltered := stores (alters.2 (.inl ⟨isOld, by decide +kernel⟩))
  rw [inserted isNew] at isAltered
  have once : PostingList.insert [5] (.ofKeys [[5]]) = .ofKeys [[5]] := by
    decide +kernel
  rw [once] at isAltered
  exact ⟨PostingList.roundTrips_codec, after, rfl, read, by decide +kernel, isAltered⟩

end SecondaryIndex
