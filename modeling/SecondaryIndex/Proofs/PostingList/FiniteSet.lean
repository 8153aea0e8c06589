import Mathlib.Data.Finset.Sort
import SecondaryIndex.Binary.PostingList
import SecondaryIndex.PostingList.Search

namespace SecondaryIndex

/-!
# Posting lists are finite sets

Whatever is done with a posting list, it answers as the finite set of its members
does, and its keys are the members in ascending order.  A key that comes or goes
leaves all others in their order, since only its own place in the list changes.
-/

namespace PostingList

/-- What a posting list can be asked to do. -/
inductive Request where
  | add (key : Bytes)
  | remove (key : Bytes)
  | contains (key : Bytes)
  | collect (keys : List Bytes)
  | decode (bytes : Bytes)
  deriving Repr, DecidableEq

/-- What a list answers, and the list after it; bytes that cannot be read leave it as it is. -/
def respond
    (list : PostingList) :
    Request → Option Bool × PostingList
  | .add key =>
      (some (list.add? key).isSome, (list.add? key).getD list)
  | .remove key =>
      (some (list.remove? key).isSome, (list.remove? key).getD list)
  | .contains key =>
      (some (list.contains key), list)
  | .collect keys =>
      (none, ofKeys keys)
  | .decode bytes =>
      (none, (decode bytes).toOption.getD list)

/-- What a finite set of keys answers, and the set after it. -/
def respondAsSet
    (members : Finset Bytes) :
    Request → Option Bool × Finset Bytes
  | .add key =>
      (some (key ∉ members), Insert.insert key members)
  | .remove key =>
      (some (key ∈ members), members.erase key)
  | .contains key =>
      (some (key ∈ members), members)
  | .collect keys =>
      (none, keys.toFinset)
  | .decode bytes =>
      match (Binary.readSequence Binary.readBytes).read bytes with
      | .ok keys => (none, keys.toFinset)
      | .error _ => (none, members)

/-- Respond to requests in order; each answer comes with the state after it. -/
def responses
    {σ : Type}
    (respond : σ → Request → Option Bool × σ) :
    σ → List Request → List (Option Bool × σ)
  | _, [] =>
      []
  | state, request :: rest =>
      respond state request :: responses respond (respond state request).2 rest

/-- A list lists a finite set: its keys are the members in ascending order. -/
structure Represents
    (list : PostingList)
    (members : Finset Bytes) :
    Prop where
  listed : list.keys = members.sort (· ≤ ·)
  ascending : list.keys.Pairwise (· < ·)
  size : list.size = members.card
  isEmpty : list.isEmpty = true ↔ members = ∅
  /-- A member stands at the index that a search finds, and nothing else goes when it goes. -/
  found :
    ∀ key index,
      list.position key = .found index →
        key ∈ members ∧ (list.remove? key).map keys = some (list.keys.eraseIdx index)
  /-- A search finds where another key belongs, and it comes to stand there. -/
  missing :
    ∀ key index,
      list.position key = .missing index →
        key ∉ members ∧ (list.add? key).map keys = some (list.keys.insertIdx index key)

/-- The set of the keys that a list holds. -/
def members
    (list : PostingList) :
    Finset Bytes :=
  list.keys.toFinset

variable
  {list : PostingList}
  {key : Bytes}

@[simp]
theorem mem_members :
    key ∈ list.members ↔ key ∈ list.keys := by
  simp [members]

/-- The members of a set in ascending order are its list. -/
theorem sort_members
    (list : PostingList) :
    list.members.sort (· ≤ ·) = list.keys :=
  (List.toFinset_sort (· ≤ ·) list.nodup_keys).2 (list.ascending.imp Std.le_of_lt)

/-- A list lists its members. -/
theorem represents_members
    (list : PostingList) :
    list.Represents list.members where
  listed :=
    list.sort_members.symm
  ascending :=
    list.ascending
  size :=
    (List.toFinset_card_of_nodup list.nodup_keys).symm
  isEmpty := by
    rw [isEmpty, List.isEmpty_iff, members, List.toFinset_eq_empty_iff]
  found key index isFound := by
    have contained := list.contains_eq_position key
    have removed := list.keys_remove?_eq_position key
    rw [isFound] at contained removed
    exact ⟨mem_members.2 (contains_iff.1 contained), removed⟩
  missing key index isMissing := by
    have notContained := list.contains_eq_position key
    have added := list.keys_add?_eq_position key
    rw [isMissing] at notContained added
    have noMember : key ∉ list.keys := by
      rw [← contains_iff, notContained]
      exact Bool.false_ne_true
    exact ⟨fun isMember => noMember (mem_members.1 isMember), added⟩

section Operations

@[simp]
theorem members_insert :
    (list.insert key).members = Insert.insert key list.members := by
  ext other
  simp [mem_keys_insert]

@[simp]
theorem members_erase :
    (list.erase key).members = list.members.erase key := by
  ext other
  simp [mem_keys_erase, and_comm]

/-- Collecting keys makes the set of them. -/
@[simp]
theorem members_ofKeys
    (keys : List Bytes) :
    (ofKeys keys).members = keys.toFinset := by
  ext key
  simp [mem_keys_ofKeys]

end Operations

/-- A list responds to a request as the set of its members does. -/
theorem respond_eq
    (list : PostingList)
    (request : Request) :
    (list.respond request).1 = (respondAsSet list.members request).1 ∧
      (list.respond request).2.members = (respondAsSet list.members request).2 := by
  cases request with
  | add key =>
      by_cases isMember : key ∈ list.keys
      · have contained := contains_iff.2 isMember
        simp [respond, respondAsSet, add?, contained, isMember]
      · have notContained : ¬ list.contains key = true := fun contained =>
          isMember (contains_iff.1 contained)
        simp [respond, respondAsSet, add?, notContained, isMember]
  | remove key =>
      by_cases isMember : key ∈ list.keys
      · have contained := contains_iff.2 isMember
        simp [respond, respondAsSet, remove?, contained, isMember]
      · have notContained : ¬ list.contains key = true := fun contained =>
          isMember (contains_iff.1 contained)
        simp [respond, respondAsSet, remove?, notContained, isMember]
  | contains key =>
      simp [respond, respondAsSet, contains]
  | collect keys =>
      simp [respond, respondAsSet]
  | decode bytes =>
      rw [respond, respondAsSet, decode]
      cases (Binary.readSequence Binary.readBytes).read bytes with
      | error error =>
          exact ⟨rfl, rfl⟩
      | ok keys =>
          exact ⟨rfl, members_ofKeys keys⟩

/-- A list responds to any requests as the set of its members does, and lists that set. -/
theorem responses_eq
    (list : PostingList)
    (requests : List Request) :
    List.Forall₂ (fun given asSet => given.1 = asSet.1 ∧ given.2.Represents asSet.2)
      (responses respond list requests) (responses respondAsSet list.members requests) := by
  induction requests generalizing list with
  | nil =>
      exact .nil
  | cons request rest inductionHypothesis =>
      obtain ⟨sameAnswer, sameMembers⟩ := list.respond_eq request
      have restResponses := inductionHypothesis (list.respond request).2
      have represents := (list.respond request).2.represents_members
      rw [sameMembers] at restResponses represents
      exact .cons ⟨sameAnswer, represents⟩ restResponses

/--
Posting lists are finite sets.  Whatever an empty list is asked to do, and so
whatever a list is asked that has been collected or read, it answers as a finite
set does, and after each request it lists the members of that set.  Which keys
are collected decides what list they make; their order and their number do not.
-/
theorem behaves_as_finite_set :
    (∀ requests,
      List.Forall₂ (fun given asSet => given.1 = asSet.1 ∧ given.2.Represents asSet.2)
        (responses respond empty requests) (responses respondAsSet ∅ requests)) ∧
    ∀ first second : List Bytes,
      ofKeys first = ofKeys second ↔ ∀ key, key ∈ first ↔ key ∈ second := by
  refine ⟨responses_eq empty, ?_⟩
  intro first second
  constructor
  · intro same key
    rw [← mem_keys_ofKeys, same, mem_keys_ofKeys]
  · intro sameKeys
    apply eq_of_mem_iff
    intro key
    rw [mem_keys_ofKeys, mem_keys_ofKeys, sameKeys]

end PostingList

end SecondaryIndex
