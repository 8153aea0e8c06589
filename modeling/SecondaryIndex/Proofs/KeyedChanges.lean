import Mathlib.Data.List.Induction
import SecondaryIndex.Proofs.MaintenanceEffect

namespace SecondaryIndex

/-!
# Changes for several keys in one entry

Records that share a field value share an entry, so changes for several keys meet in
it.  For its own key a change finds what the earlier changes for that key have left, and
no more.  So neither the list in the end nor whether it was ever changed depends on how
the changes for different keys follow each other, and these two settle the bytes.
-/

/-- Two rows that agree, for each key, on what is done for it and in which order. -/
def AgreeByKey
    {α : Type}
    (keyOf : α → Bytes)
    (row other : List α) :
    Prop :=
  ∀ key,
    row.filter (fun item => keyOf item = key) = other.filter (fun item => keyOf item = key)

namespace AgreeByKey

variable
  {α β : Type}
  {keyOf : α → Bytes}
  {row other : List α}

/-- Rows that agree by key are made of the same items. -/
theorem mem_iff
    (agree : AgreeByKey keyOf row other)
    (item : α) :
    item ∈ row ↔ item ∈ other := by
  have ofKey (items : List α) :
      item ∈ items ↔ item ∈ items.filter (fun each => keyOf each = keyOf item) := by
    simp
  rw [ofKey row, ofKey other, agree (keyOf item)]

/-- What is done for a key by the parts of a row is done by the items for that key. -/
theorem filter_flatMap
    {partKey : β → Bytes}
    {parts : α → List β}
    (ofItem : ∀ item, ∀ part ∈ parts item, partKey part = keyOf item)
    (row : List α)
    (key : Bytes) :
    (row.flatMap parts).filter (fun part => partKey part = key) =
      (row.filter (fun item => keyOf item = key)).flatMap parts := by
  induction row with
  | nil =>
      rfl
  | cons item rest inductionHypothesis =>
      rw [List.flatMap_cons, List.filter_append, inductionHypothesis]
      by_cases isKey : keyOf item = key
      · have all : (parts item).filter (fun part => partKey part = key) = parts item := by
          rw [List.filter_eq_self]
          intro part member
          rw [ofItem item part member, isKey, decide_eq_true rfl]
        rw [all, List.filter_cons, if_pos (decide_eq_true isKey), List.flatMap_cons]
      · have noPart : (parts item).filter (fun part => partKey part = key) = [] := by
          rw [List.filter_eq_nil_iff]
          intro part member
          rw [ofItem item part member]
          exact fun isKeyToo => isKey (of_decide_eq_true isKeyToo)
        rw [noPart, List.filter_cons, decide_eq_false isKey, if_neg Bool.false_ne_true,
          List.nil_append]

/-- Rows that agree by key still do so when each item is taken apart. -/
theorem flatMap
    {partKey : β → Bytes}
    {parts : α → List β}
    (agree : AgreeByKey keyOf row other)
    (ofItem : ∀ item, ∀ part ∈ parts item, partKey part = keyOf item) :
    AgreeByKey partKey (row.flatMap parts) (other.flatMap parts) := by
  intro key
  rw [filter_flatMap ofItem, filter_flatMap ofItem, agree key]

end AgreeByKey

/-- A change that is made for a key. -/
structure KeyedChange where
  key : Bytes
  change : Change
  deriving Repr, DecidableEq

namespace KeyedChange

/-- The posting list that a change leaves. -/
def applied
    (list : PostingList)
    (keyed : KeyedChange) :
    PostingList :=
  keyed.change.applied keyed.key list

/-- Whether a change has something to do in a list. -/
def Alters
    (list : PostingList)
    (keyed : KeyedChange) :
    Prop :=
  keyed.change.Alters keyed.key (fun member => member ∈ list.keys)

/-- What an entry holds after a change. -/
def contentAfter
    (postings : Codec PostingList)
    (content : Option Bytes)
    (keyed : KeyedChange) :
    Except IndexError (Option Bytes) :=
  keyed.change.contentAfter postings keyed.key content

variable
  {list : PostingList}
  {changes others : List KeyedChange}
  {key : Bytes}

/-- A key is listed as the last change for it has left it, or as before if there is none. -/
theorem mem_foldl_applied :
    key ∈ (changes.foldl applied list).keys ↔
      match (changes.filter (fun keyed => keyed.key = key)).getLast? with
      | none => key ∈ list.keys
      | some last => last.change = .add := by
  induction changes using List.reverseRecOn with
  | nil =>
      rfl
  | append_singleton earlier last inductionHypothesis =>
      rw [List.foldl_append, List.foldl_cons, List.foldl_nil, applied, Change.mem_applied,
        List.filter_append, List.filter_singleton]
      by_cases isKey : last.key = key
      · rw [decide_eq_true isKey, cond_true, List.getLast?_concat]
        cases isChange : last.change <;> simp [Change.revised, isKey, isChange]
      · rw [decide_eq_false isKey, cond_false, List.append_nil, ← inductionHypothesis]
        cases last.change <;> simp [Change.revised, Ne.symm isKey]

/-- Changes that agree by key come to the same list. -/
theorem foldl_applied_congr
    (agree : AgreeByKey KeyedChange.key changes others) :
    changes.foldl applied list = others.foldl applied list := by
  apply PostingList.eq_of_mem_iff
  intro key
  rw [mem_foldl_applied, mem_foldl_applied, agree key]

/-- Changes that have nothing to do leave a list as it is. -/
theorem foldl_applied_of_idle
    (idle : ∀ keyed ∈ changes, ¬ keyed.Alters list) :
    changes.foldl applied list = list := by
  induction changes with
  | nil =>
      rfl
  | cons first rest inductionHypothesis =>
      obtain ⟨firstIdle, restIdle⟩ := List.forall_mem_cons.1 idle
      rw [List.foldl_cons, applied, Change.applied_eq_self_iff.2 firstIdle]
      exact inductionHypothesis restIdle

/-- A change lists no key but its own. -/
theorem mem_of_mem_applied
    {keyed : KeyedChange}
    (listed : key ∈ (keyed.applied list).keys) :
    key ∈ list.keys ∨ key = keyed.key := by
  rw [applied, Change.mem_applied] at listed
  cases isChange : keyed.change with
  | add =>
      rw [isChange] at listed
      exact listed
  | remove =>
      rw [isChange] at listed
      exact .inl listed.1

end KeyedChange

/-- What an entry holds after changes for any keys, made up to the first that fails. -/
def replayAll
    (postings : Codec PostingList)
    (changes : List KeyedChange)
    (content : Option Bytes) :
    Except IndexError (Option Bytes) :=
  changes.foldlM (KeyedChange.contentAfter postings) content

/-- A list that is kept can be stored, and what is stored is read as it. -/
theorem Codec.Keeps.stored
    {postings : Codec PostingList}
    {list : PostingList}
    (keeps : postings.Keeps list) :
    ∃ content, postings.stored list = .ok content ∧ postings.listed content = .ok list := by
  obtain ⟨bytes, encoded, decoded⟩ := keeps
  rw [Codec.stored]
  split
  next isEmpty =>
    exact ⟨none, rfl, congrArg Except.ok (PostingList.eq_empty isEmpty).symm⟩
  next =>
    refine ⟨some bytes, ?_, ?_⟩
    · rw [encoded]
      rfl
    · rw [Codec.listed, decoded]
      rfl

section ReplayAll

variable
  {postings : Codec PostingList}
  {content after : Option Bytes}
  {list : PostingList}
  {changes others : List KeyedChange}

theorem replayAll_append_ok :
    replayAll postings (changes ++ others) content = .ok after ↔
      ∃ middle,
        replayAll postings changes content = .ok middle ∧
          replayAll postings others middle = .ok after := by
  rw [replayAll, List.foldlM_append, replayAll]
  cases changes.foldlM (KeyedChange.contentAfter postings) content with
  | error error =>
      exact iff_of_false nofun (by rintro ⟨_, ⟨⟩, _⟩)
  | ok middle =>
      constructor
      · intro success
        exact ⟨middle, rfl, success⟩
      · rintro ⟨_, ⟨⟩, success⟩
        exact success

/-- Changes for one key are changes for any keys. -/
theorem replay_eq_replayAll
    (key : Bytes)
    (changes : List Change)
    (content : Option Bytes) :
    replay postings key changes content =
      replayAll postings (changes.map (KeyedChange.mk key)) content := by
  rw [replayAll, List.foldlM_map]
  rfl

/-- A change that has nothing to do leaves the bytes of an entry alone. -/
theorem contentAfter_of_idle
    {keyed : KeyedChange}
    (read : postings.listed content = .ok list)
    (idle : ¬ keyed.Alters list) :
    keyed.contentAfter postings content = .ok content := by
  simp only [KeyedChange.contentAfter, Change.contentAfter, read,
    Change.revise?_eq_none_iff.2 idle]

/-- A change that has something to do stores its list. -/
theorem contentAfter_of_alters
    {keyed : KeyedChange}
    (read : postings.listed content = .ok list)
    (alters : keyed.Alters list) :
    keyed.contentAfter postings content = postings.stored (keyed.applied list) := by
  simp only [KeyedChange.contentAfter, KeyedChange.applied, Change.contentAfter, Change.applied,
    read]
  cases revision : keyed.change.revise? keyed.key list with
  | none =>
      exact absurd alters (Change.revise?_eq_none_iff.1 revision)
  | some changed =>
      rfl

/--
Changes of lists that are kept succeed.  If one of them has something to do in the list
that is there at first, then the list in the end is stored anew; otherwise the bytes stay.
-/
theorem replayAll_settles
    (read : postings.listed content = .ok list)
    (keeps :
      ∀ row : PostingList,
        (∀ key ∈ row.keys, key ∈ list.keys ∨ ∃ keyed ∈ changes, keyed.key = key) →
          postings.Keeps row) :
    ∃ after,
      replayAll postings changes content = .ok after ∧
        ((∃ keyed ∈ changes, keyed.Alters list) →
          postings.stored (changes.foldl KeyedChange.applied list) = .ok after) ∧
        ((∀ keyed ∈ changes, ¬ keyed.Alters list) → after = content) := by
  induction changes generalizing content list with
  | nil =>
      exact ⟨content, rfl, by rintro ⟨_, ⟨⟩, _⟩, fun _ => rfl⟩
  | cons first rest inductionHypothesis =>
      rw [replayAll, List.foldlM_cons]
      have listsKeys (key : Bytes) (listed : key ∈ (first.applied list).keys) :
          key ∈ list.keys ∨ ∃ keyed ∈ first :: rest, keyed.key = key := by
        rcases KeyedChange.mem_of_mem_applied listed with before | rfl
        · exact .inl before
        · exact .inr ⟨first, .head _, rfl⟩
      have restKeeps (row : PostingList)
          (ofKeys :
            ∀ key ∈ row.keys,
              key ∈ (first.applied list).keys ∨ ∃ keyed ∈ rest, keyed.key = key) :
          postings.Keeps row := by
        apply keeps
        intro key listed
        rcases ofKeys key listed with earlier | ⟨keyed, member, isKey⟩
        · exact listsKeys key earlier
        · exact .inr ⟨keyed, .tail _ member, isKey⟩
      by_cases alters : first.Alters list
      · obtain ⟨middle, isStored, readThen⟩ := (keeps _ listsKeys).stored
        obtain ⟨after, ends, altered, unaltered⟩ := inductionHypothesis readThen restKeeps
        rw [contentAfter_of_alters read alters, isStored]
        refine ⟨after, ends, ?_, fun idle => absurd alters (idle first (.head _))⟩
        rintro -
        rw [List.foldl_cons]
        by_cases later : ∃ keyed ∈ rest, keyed.Alters (first.applied list)
        · exact altered later
        · -- The rest has nothing to do, so what the first change has stored is still there.
          have idle (keyed : KeyedChange) (member : keyed ∈ rest) :
              ¬ keyed.Alters (first.applied list) :=
            fun altersToo => later ⟨keyed, member, altersToo⟩
          rw [KeyedChange.foldl_applied_of_idle idle, unaltered idle, isStored]
      · have sameList : first.applied list = list :=
          Change.applied_eq_self_iff.2 alters
        rw [sameList] at restKeeps
        obtain ⟨after, ends, altered, unaltered⟩ := inductionHypothesis read restKeeps
        rw [contentAfter_of_idle read alters]
        refine ⟨after, ends, ?_, ?_⟩
        · rintro ⟨keyed, member, altersToo⟩
          rw [List.foldl_cons, sameList]
          rcases List.mem_cons.1 member with rfl | later
          · exact absurd altersToo alters
          · exact altered ⟨keyed, later, altersToo⟩
        · intro idle
          exact unaltered fun keyed member => idle keyed (.tail _ member)

/-- Changes that agree by key leave an entry with the same bytes. -/
theorem replayAll_congr
    (read : postings.listed content = .ok list)
    (keeps :
      ∀ row : PostingList,
        (∀ key ∈ row.keys, key ∈ list.keys ∨ ∃ keyed ∈ changes, keyed.key = key) →
          postings.Keeps row)
    (agree : AgreeByKey KeyedChange.key changes others) :
    ∃ after,
      replayAll postings changes content = .ok after ∧
        replayAll postings others content = .ok after := by
  obtain ⟨after, ends, altered, unaltered⟩ := replayAll_settles read keeps
  have othersKeep :
      ∀ row : PostingList,
        (∀ key ∈ row.keys, key ∈ list.keys ∨ ∃ keyed ∈ others, keyed.key = key) →
          postings.Keeps row := by
    simpa only [← agree.mem_iff] using keeps
  obtain ⟨afterOther, endsOther, alteredOther, unalteredOther⟩ :=
    replayAll_settles read othersKeep
  simp only [← agree.mem_iff] at alteredOther unalteredOther
  refine ⟨after, ends, ?_⟩
  rw [endsOther]
  by_cases alters : ∃ keyed ∈ changes, keyed.Alters list
  · have sameStored := altered alters
    rw [KeyedChange.foldl_applied_congr agree, alteredOther alters] at sameStored
    exact sameStored
  · have idle (keyed : KeyedChange) (member : keyed ∈ changes) : ¬ keyed.Alters list :=
      fun altersToo => alters ⟨keyed, member, altersToo⟩
    rw [unaltered idle, unalteredOther idle]

end ReplayAll

end SecondaryIndex
