import SecondaryIndex.Bytes

namespace SecondaryIndex

/-!
# Posting lists

An index entry stores the keys of the records that share one field value.  The
keys form a set, kept as the strictly ascending list of its members, so equal
sets are equal lists and are stored as equal bytes.
-/

/-- A set of record keys, listed by strictly ascending key. -/
structure PostingList where
  keys : List Bytes
  ascending : keys.Pairwise (· < ·)
  deriving Repr, DecidableEq

namespace PostingList

/-- Place a key among keys in ascending order; a key that is there stays alone. -/
def insertKey
    (key : Bytes) :
    List Bytes → List Bytes
  | [] =>
      [key]
  | head :: rest =>
      if key < head then
        key :: head :: rest
      else if head < key then
        head :: insertKey key rest
      else
        head :: rest

theorem mem_insertKey
    {key other : Bytes}
    {keys : List Bytes} :
    other ∈ insertKey key keys ↔ other = key ∨ other ∈ keys := by
  induction keys with
  | nil =>
      simp [insertKey]
  | cons head rest inductionHypothesis =>
      rw [insertKey]
      split
      next =>
        simp only [List.mem_cons]
      next notBefore =>
        split
        next =>
          simp only [List.mem_cons, inductionHypothesis]
          constructor
          · rintro (isHead | isKey | later)
            · exact .inr (.inl isHead)
            · exact .inl isKey
            · exact .inr (.inr later)
          · rintro (isKey | isHead | later)
            · exact .inr (.inl isKey)
            · exact .inl isHead
            · exact .inr (.inr later)
        next notAfter =>
          have equal : head = key :=
            Std.le_antisymm (Std.not_lt.1 notBefore) (Std.not_lt.1 notAfter)
          subst equal
          simp

theorem insertKey_ascending
    (key : Bytes)
    {keys : List Bytes}
    (ascending : keys.Pairwise (· < ·)) :
    (insertKey key keys).Pairwise (· < ·) := by
  induction keys with
  | nil =>
      simp [insertKey]
  | cons head rest inductionHypothesis =>
      obtain ⟨headLeast, restAscending⟩ := List.pairwise_cons.1 ascending
      rw [insertKey]
      split
      next before =>
        refine List.pairwise_cons.2 ⟨?_, ascending⟩
        intro other member
        rcases List.mem_cons.1 member with equal | later
        · exact equal ▸ before
        · exact Std.lt_trans before (headLeast other later)
      next =>
        split
        next after =>
          refine List.pairwise_cons.2 ⟨?_, inductionHypothesis restAscending⟩
          intro other member
          rcases mem_insertKey.1 member with equal | present
          · exact equal ▸ after
          · exact headLeast other present
        next =>
          exact ascending

/-- The empty set. -/
def empty :
    PostingList where
  keys :=
    []
  ascending :=
    .nil

/-- Whether the set has no member. -/
def isEmpty
    (list : PostingList) :
    Bool :=
  list.keys.isEmpty

/-- The number of members. -/
def size
    (list : PostingList) :
    Nat :=
  list.keys.length

/-- Whether a key is a member. -/
def contains
    (list : PostingList)
    (key : Bytes) :
    Bool :=
  list.keys.contains key

/-- The set with a key in it. -/
def insert
    (key : Bytes)
    (list : PostingList) :
    PostingList where
  keys :=
    insertKey key list.keys
  ascending :=
    insertKey_ascending key list.ascending

/-- The set without a key. -/
def erase
    (key : Bytes)
    (list : PostingList) :
    PostingList where
  keys :=
    list.keys.filter (· ≠ key)
  ascending :=
    list.ascending.filter _

/-- The set with a new key; nothing if the key was a member before. -/
def add?
    (key : Bytes)
    (list : PostingList) :
    Option PostingList :=
  if list.contains key then none else some (list.insert key)

/-- The set without a key; nothing if the key was no member before. -/
def remove?
    (key : Bytes)
    (list : PostingList) :
    Option PostingList :=
  if list.contains key then some (list.erase key) else none

/-- The set of the keys of a list, whatever their order and number. -/
def ofKeys
    (keys : List Bytes) :
    PostingList :=
  keys.foldl (fun list key => list.insert key) empty

theorem contains_iff
    {list : PostingList}
    {key : Bytes} :
    list.contains key = true ↔ key ∈ list.keys := by
  simp [contains]

theorem mem_keys_insert
    {list : PostingList}
    {key other : Bytes} :
    other ∈ (list.insert key).keys ↔ other = key ∨ other ∈ list.keys :=
  mem_insertKey

theorem mem_keys_erase
    {list : PostingList}
    {key other : Bytes} :
    other ∈ (list.erase key).keys ↔ other ∈ list.keys ∧ other ≠ key := by
  simp [erase]

theorem mem_keys_ofKeys
    {keys : List Bytes}
    {key : Bytes} :
    key ∈ (ofKeys keys).keys ↔ key ∈ keys := by
  have gathered :
      ∀ (rest : List Bytes) (list : PostingList),
        key ∈ (rest.foldl (fun list key => list.insert key) list).keys ↔
          key ∈ rest ∨ key ∈ list.keys := by
    intro rest
    induction rest with
    | nil =>
        intro list
        simp
    | cons head rest inductionHypothesis =>
        intro list
        rw [List.foldl_cons, inductionHypothesis, mem_keys_insert, List.mem_cons]
        constructor
        · rintro (later | isHead | present)
          · exact .inl (.inr later)
          · exact .inl (.inl isHead)
          · exact .inr present
        · rintro ((isHead | later) | present)
          · exact .inr (.inl isHead)
          · exact .inl later
          · exact .inr (.inr present)
  rw [ofKeys, gathered]
  simp [empty]

theorem nodup_keys
    (list : PostingList) :
    list.keys.Nodup :=
  list.ascending.imp Std.ne_of_lt

/-- Sets with the same members are equal, and so are their lists. -/
theorem eq_of_mem_iff
    {first second : PostingList}
    (sameMembers : ∀ key, key ∈ first.keys ↔ key ∈ second.keys) :
    first = second := by
  have sameKeys : first.keys = second.keys := by
    apply List.Perm.eq_of_pairwise ?_ first.ascending second.ascending
    · exact (List.perm_ext_iff_of_nodup first.nodup_keys second.nodup_keys).2 sameMembers
    · intro one other _ _ before after
      exact absurd (Std.lt_trans before after) Std.lt_irrefl
  cases first
  cases second
  cases sameKeys
  rfl

end PostingList

end SecondaryIndex
