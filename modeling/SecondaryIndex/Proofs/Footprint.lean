import SecondaryIndex.Proofs.Maintenance
import SecondaryIndex.Proofs.Versioned.StoreLaws

namespace SecondaryIndex

/-!
# What maintenance reads and writes

Maintenance reads no other keys than those of the entries of its updates.  If
each update has something to change when its entry is met for the first time,
then all of these entries have been written in the end.  In a transaction that
has written the same, and that sees the same under these keys, maintenance does
the same.
-/

open Versioned

/-- Whether a transaction has set or deleted a key. -/
def Versioned.Transaction.Wrote
    (transaction : Transaction)
    (key : Bytes) :
    Prop :=
  (transaction.writes.find? key).isSome

namespace Versioned.Transaction

variable
  {transaction : Transaction}
  {key other value : Bytes}

theorem wrote_set :
    (transaction.set key value).Wrote other ↔ other = key ∨ transaction.Wrote other := by
  by_cases same : other = key <;> simp [Wrote, set, OrderedMap.find?_insert, same]

theorem wrote_delete :
    (transaction.delete key).Wrote other ↔ other = key ∨ transaction.Wrote other := by
  by_cases same : other = key <;> simp [Wrote, delete, OrderedMap.find?_insert, same]

end Versioned.Transaction

/-- Whether a change has something to do: list a key that is not listed, or the other way around. -/
def Change.Alters
    (key : Bytes)
    (members : Bytes → Prop) :
    Change → Prop
  | .add =>
      ¬ members key
  | .remove =>
      members key

/-- A change that has something to do changes the list. -/
theorem Change.revise?_of_alters
    {key : Bytes}
    {list : PostingList}
    {members : Bytes → Prop}
    {change : Change}
    (lists : ∀ other, other ∈ list.keys ↔ members other)
    (alters : change.Alters key members) :
    change.revise? key list ≠ none := by
  intro agrees
  have unchanged := change.revised_of_none lists agrees key
  cases change with
  | add =>
      exact alters (unchanged.2 (.inr rfl))
  | remove =>
      exact (unchanged.1 alters).2 rfl

/-- Updates in a row are the first ones and then the others. -/
theorem Environment.updateEntries_append
    {σ R C : Type}
    (environment : Environment σ R C)
    (layout : KeyLayout)
    (typeName : String)
    (key : Bytes)
    (first second : List (EntryUpdate R)) :
    environment.updateEntries layout typeName key (first ++ second) = (do
      environment.updateEntries layout typeName key first
      environment.updateEntries layout typeName key second) := by
  induction first with
  | nil =>
      rw [List.nil_append, updateEntries, pure_bind]
  | cons update rest inductionHypothesis =>
      simp only [List.cons_append, updateEntries, inductionHypothesis, bind_assoc]

/-- What an update is one of is an entry. -/
theorem EntryUpdate.Targets.isEntry
    {R : Type}
    {layout : KeyLayout}
    {typeName : String}
    {update : EntryUpdate R}
    {entry : Bytes}
    (target : update.Targets layout typeName entry) :
    layout.IsEntry entry := by
  obtain ⟨value, -, isEntry⟩ := target
  exact ⟨typeName, update.index.name, value, isEntry⟩

section Written

variable
  {R C : Type}
  {store : Store}
  {postings : Codec PostingList}
  {records : Codec R}
  {layout : KeyLayout}
  {typeName : String}
  {key entry : Bytes}
  {before after : Transaction}

/-- Maintenance takes back no write. -/
theorem wrote_of_wrote
    {updates : List (EntryUpdate R)}
    (success :
      outcome
          ((Transaction.environment (C := C) store postings records).updateEntries layout typeName
            key updates)
          before =
        (.ok (), after))
    (wrote : before.Wrote entry) :
    after.Wrote entry := by
  have preserved :
      Preserves (fun transaction => transaction.Wrote entry)
        ((Transaction.environment (C := C) store postings records).updateEntries layout typeName
          key updates) := by
    apply preserves_updateEntries
    · intro transaction other bytes _ held
      exact Transaction.wrote_set.2 (.inr held)
    · intro transaction other _ held
      exact Transaction.wrote_delete.2 (.inr held)
  have held := preserved before wrote
  rw [success] at held
  exact held

/-- An update that has something to change writes its entry. -/
theorem wrote_updateEntry
    {update : EntryUpdate R}
    {members : Bytes → Prop}
    (lawful : postings.RoundTrips)
    (success :
      outcome
          ((Transaction.environment (C := C) store postings records).updateEntry layout typeName key
            update)
          before =
        (.ok (), after))
    (target : update.Targets layout typeName entry)
    (holds : Holds postings (before.get store entry) members)
    (alters : update.change.Alters key members) :
    after.Wrote entry := by
  obtain ⟨value, isValue, isEntry⟩ := target
  rcases updateEntry_cases lawful success with
    ⟨noValue, -⟩ | ⟨other, target, list, isOther, isTarget, lists, storing⟩
  · rw [noValue] at isValue
    cases isValue
  · cases isValue.symm.trans isOther
    cases isEntry.symm.trans isTarget
    rcases storing with ⟨agrees, -⟩ | ⟨changed, -, stored⟩
    · exact absurd agrees (Change.revise?_of_alters (lists members holds) alters)
    · rcases storePostings_cases stored with ⟨-, rfl⟩ | ⟨-, bytes, -, rfl⟩
      · exact Transaction.wrote_delete.2 (.inl rfl)
      · exact Transaction.wrote_set.2 (.inl rfl)

/-- Maintenance writes no key but the entries of its updates. -/
theorem targeted_of_wrote
    {updates : List (EntryUpdate R)}
    (lawful : postings.RoundTrips)
    (success :
      outcome
          ((Transaction.environment (C := C) store postings records).updateEntries layout typeName
            key updates)
          before =
        (.ok (), after))
    (wrote : after.Wrote entry) :
    before.Wrote entry ∨ ∃ update ∈ updates, update.Targets layout typeName entry := by
  induction updates generalizing before with
  | nil =>
      cases success
      exact .inl wrote
  | cons update rest inductionHypothesis =>
      obtain ⟨_, middle, first, others⟩ := outcome_bind_ok.1 success
      rcases inductionHypothesis others with wroteThen | ⟨later, member, target⟩
      · rcases updateEntry_cases lawful first with
          ⟨-, rfl⟩ | ⟨value, target, list, isValue, isTarget, -, ⟨-, rfl⟩ | ⟨changed, -, stored⟩⟩
        · exact .inl wroteThen
        · exact .inl wroteThen
        · have wroteTarget : entry = target ∨ before.Wrote entry := by
            rcases storePostings_cases stored with ⟨-, rfl⟩ | ⟨-, bytes, -, rfl⟩
            · exact Transaction.wrote_delete.1 wroteThen
            · exact Transaction.wrote_set.1 wroteThen
          rcases wroteTarget with rfl | wroteBefore
          · exact .inr ⟨update, .head _, value, isValue, isTarget⟩
          · exact .inl wroteBefore
      · exact .inr ⟨later, .tail _ member, target⟩

/-- The same change to some entries writes each of them in which it has something to do. -/
theorem wrote_updateEntries
    {change : Change}
    {updates : List (EntryUpdate R)}
    {members : Bytes → Bytes → Prop}
    (lawful : postings.RoundTrips)
    (success :
      outcome
          ((Transaction.environment (C := C) store postings records).updateEntries layout typeName
            key updates)
          before =
        (.ok (), after))
    (uniform : ∀ update ∈ updates, update.change = change)
    (hold : EntriesHold postings layout (before.get store) members)
    (alters : change.Alters key (members entry))
    (targeted : ∃ update ∈ updates, update.Targets layout typeName entry) :
    after.Wrote entry := by
  induction updates generalizing before members with
  | nil =>
      obtain ⟨update, member, -⟩ := targeted
      cases member
  | cons update rest inductionHypothesis =>
      obtain ⟨_, middle, first, others⟩ := outcome_bind_ok.1 success
      obtain ⟨sameChange, uniformRest⟩ := List.forall_mem_cons.1 uniform
      by_cases target : update.Targets layout typeName entry
      · -- The entry is met for the first time; later updates leave it written.
        have isEntry := target.isEntry
        have altersThen : update.change.Alters key (members entry) := by
          rw [sameChange]
          exact alters
        exact wrote_of_wrote others
          (wrote_updateEntry lawful first target (hold entry isEntry) altersThen)
      · have kept : members entry = update.revised layout typeName key members entry :=
          funext fun other => propext (update.revised_of_no_target target other)
        rw [kept] at alters
        have later : ∃ other ∈ rest, other.Targets layout typeName entry := by
          rcases (List.exists_mem_cons_iff _ _ _).1 targeted with isTarget | later
          · exact absurd isTarget target
          · exact later
        exact inductionHypothesis others uniformRest (entriesHold_updateEntry lawful first hold)
          alters later

end Written

section Mirrored

variable
  {ε α β : Type}
  {shown : Bytes → Prop}
  {store mirror : Store}

/-- Two transactions that have written the same, and that see the same under some keys. -/
structure Mirrors
    (shown : Bytes → Prop)
    (store mirror : Store)
    (transaction image : Transaction) :
    Prop where
  writes : image.writes = transaction.writes
  values : ∀ key, shown key → image.get mirror key = transaction.get store key

namespace Mirrors

variable
  {transaction image : Transaction}

/-- What both write they see alike, and all else shows their snapshots. -/
theorem of_snapshots
    (writes : image.writes = transaction.writes)
    (values :
      ∀ key,
        shown key →
          mirror.valueAt image.snapshot key = store.valueAt transaction.snapshot key) :
    Mirrors shown store mirror transaction image where
  writes :=
    writes
  values key isShown := by
    rw [Transaction.get, Transaction.get, writes, values key isShown]

theorem set
    (mirrors : Mirrors shown store mirror transaction image)
    (key value : Bytes) :
    Mirrors shown store mirror (transaction.set key value) (image.set key value) where
  writes := by
    rw [Transaction.set, Transaction.set, mirrors.writes]
  values other isShown := by
    rw [Transaction.get_set, Transaction.get_set, mirrors.values other isShown]

theorem delete
    (mirrors : Mirrors shown store mirror transaction image)
    (key : Bytes) :
    Mirrors shown store mirror (transaction.delete key) (image.delete key) where
  writes := by
    rw [Transaction.delete, Transaction.delete, mirrors.writes]
  values other isShown := by
    rw [Transaction.get_delete, Transaction.get_delete, mirrors.values other isShown]

end Mirrors

/-- In transactions that mirror each other, two operations come to the same. -/
def Mirrored
    (shown : Bytes → Prop)
    (store mirror : Store)
    (action image : ExceptT ε (StateM Transaction) α) :
    Prop :=
  ∀ before beforeImage,
    Mirrors shown store mirror before beforeImage →
      (outcome image beforeImage).1 = (outcome action before).1 ∧
        Mirrors shown store mirror (outcome action before).2 (outcome image beforeImage).2

namespace Mirrored

theorem pure
    (value : α) :
    Mirrored shown store mirror (Pure.pure value : ExceptT ε (StateM Transaction) α)
      (Pure.pure value) :=
  fun _ _ mirrors => ⟨rfl, mirrors⟩

theorem bind
    {action image : ExceptT ε (StateM Transaction) α}
    {next nextImage : α → ExceptT ε (StateM Transaction) β}
    (first : Mirrored shown store mirror action image)
    (rest : ∀ value, Mirrored shown store mirror (next value) (nextImage value)) :
    Mirrored shown store mirror (action >>= next) (image >>= nextImage) := by
  intro before beforeImage mirrors
  obtain ⟨same, mirrorsThen⟩ := first before beforeImage mirrors
  rw [outcome_bind, outcome_bind]
  rcases shape : outcome action before with ⟨result, middle⟩
  rcases shapeImage : outcome image beforeImage with ⟨resultImage, middleImage⟩
  rw [shape, shapeImage] at same mirrorsThen
  cases same
  cases result with
  | error error =>
      exact ⟨rfl, mirrorsThen⟩
  | ok value =>
      exact rest value middle middleImage mirrorsThen

/-- After an operation that ends as given, only the case that it succeeds has to be followed. -/
theorem bind_ofExcept
    {result : Except IndexError α}
    {next nextImage : α → Action Transaction β}
    (rest :
      ∀ value, result = .ok value → Mirrored shown store mirror (next value) (nextImage value)) :
    Mirrored shown store mirror (Action.ofExcept result >>= next)
      (Action.ofExcept result >>= nextImage) := by
  cases result with
  | error error =>
      exact fun _ _ mirrors => ⟨rfl, mirrors⟩
  | ok value =>
      exact rest value rfl

/-- Where an operation succeeds, so does its image. -/
theorem success
    {action image : ExceptT ε (StateM Transaction) α}
    {before after beforeImage : Transaction}
    {value : α}
    (mirrored : Mirrored shown store mirror action image)
    (ends : outcome action before = (.ok value, after))
    (mirrors : Mirrors shown store mirror before beforeImage) :
    ∃ afterImage,
      outcome image beforeImage = (.ok value, afterImage) ∧
        Mirrors shown store mirror after afterImage := by
  obtain ⟨same, mirrorsThen⟩ := mirrored before beforeImage mirrors
  rw [ends] at same mirrorsThen
  exact ⟨(outcome image beforeImage).2, Prod.ext same rfl, mirrorsThen⟩

end Mirrored

end Mirrored

section Maintenance

variable
  {R C : Type}
  {shown : Bytes → Prop}
  {store mirror : Store}
  {postings : Codec PostingList}
  {records : Codec R}
  {layout : KeyLayout}
  {typeName : String}
  {key entry : Bytes}

theorem mirrored_postings
    (isShown : shown entry) :
    Mirrored shown store mirror
      ((Transaction.environment (C := C) store postings records).postings entry)
      ((Transaction.environment (C := C) mirror postings records).postings entry) := by
  refine .bind ?_ ?_
  · intro before beforeImage mirrors
    refine ⟨?_, mirrors⟩
    show Except.ok (beforeImage.get mirror entry) = Except.ok (before.get store entry)
    rw [mirrors.values entry isShown]
  · intro content
    cases content with
    | none =>
        exact .pure _
    | some bytes =>
        exact fun _ _ mirrors => ⟨rfl, mirrors⟩

theorem mirrored_storePostings
    (index : String)
    (list : PostingList) :
    Mirrored shown store mirror
      ((Transaction.environment (C := C) store postings records).storePostings typeName index entry
        list)
      ((Transaction.environment (C := C) mirror postings records).storePostings typeName index entry
        list) := by
  rw [Environment.storePostings, Environment.storePostings]
  split
  · refine .bind (fun _ _ mirrors => ⟨rfl, mirrors⟩) ?_
    exact fun _ _ _ mirrors => ⟨rfl, mirrors.delete entry⟩
  · refine .bind (fun _ _ mirrors => ⟨rfl, mirrors⟩) ?_
    intro bytes
    refine .bind (fun _ _ mirrors => ⟨rfl, mirrors⟩) ?_
    exact fun _ _ _ mirrors => ⟨rfl, mirrors.set entry bytes⟩

theorem mirrored_updateEntry
    {update : EntryUpdate R}
    (isShown : ∀ entry, update.Targets layout typeName entry → shown entry) :
    Mirrored shown store mirror
      ((Transaction.environment (C := C) store postings records).updateEntry layout typeName key
        update)
      ((Transaction.environment (C := C) mirror postings records).updateEntry layout typeName key
        update) := by
  refine .bind_ofExcept ?_
  intro value? isValue
  cases value? with
  | none =>
      exact .pure _
  | some value =>
      refine .bind_ofExcept ?_
      intro entry isEntry
      refine .bind (mirrored_postings (isShown entry ⟨value, isValue, isEntry⟩)) ?_
      intro list
      cases update.change.revise? key list with
      | none =>
          exact .pure _
      | some changed =>
          exact mirrored_storePostings _ changed

/-- Maintenance does the same where the entries of its updates are seen alike. -/
theorem mirrored_updateEntries
    {updates : List (EntryUpdate R)}
    (isShown : ∀ update ∈ updates, ∀ entry, update.Targets layout typeName entry → shown entry) :
    Mirrored shown store mirror
      ((Transaction.environment (C := C) store postings records).updateEntries layout typeName key
        updates)
      ((Transaction.environment (C := C) mirror postings records).updateEntries layout typeName key
        updates) := by
  induction updates with
  | nil =>
      exact .pure _
  | cons update rest inductionHypothesis =>
      obtain ⟨isShownFirst, isShownRest⟩ := List.forall_mem_cons.1 isShown
      exact .bind (mirrored_updateEntry isShownFirst) fun _ => inductionHypothesis isShownRest

end Maintenance

end SecondaryIndex
