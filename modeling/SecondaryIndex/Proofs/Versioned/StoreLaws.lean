import SecondaryIndex.Proofs.OrderedMap
import SecondaryIndex.Versioned.Commit
import SecondaryIndex.Versioned.Transaction

namespace SecondaryIndex.Versioned.Store

/-!
# What the operations of a store change

Each operation of a store is described by what it does to the histories, to the
clock, to the count of open snapshots and to the remembered write sets.
-/

section Release

variable
  (store : Store)
  (snapshot : Nat)

@[simp]
theorem histories_release :
    (store.release snapshot).histories = store.histories := by
  rw [release]
  split
  · rfl
  · split <;> rfl

@[simp]
theorem clock_release :
    (store.release snapshot).clock = store.clock := by
  rw [release]
  split
  · rfl
  · split <;> rfl

@[simp]
theorem recent_release :
    (store.release snapshot).recent = store.recent := by
  rw [release]
  split
  · rfl
  · split <;> rfl

/-- Letting go of a snapshot takes one off its count, and the last one removes it. -/
theorem find?_readers_release
    {count : Nat}
    (counted : store.readers.find? snapshot = some (count + 1))
    (other : Nat) :
    (store.release snapshot).readers.find? other =
      if other = snapshot then
        if count = 0 then none else some count
      else
        store.readers.find? other := by
  rw [release, counted]
  by_cases isLast : count = 0
  · simp [isLast, OrderedMap.find?_erase]
  · have several : ¬ count + 1 ≤ 1 := by
      omega
    simp [isLast, several, OrderedMap.find?_insert]

end Release

section Views

/-- What a snapshot shows depends on the histories only. -/
theorem valueAt_congr
    {store other : Store}
    (same : store.histories = other.histories) :
    store.valueAt = other.valueAt := by
  funext snapshot key
  rw [valueAt, valueAt, same]

/-- What a transaction sees of a store depends on the histories only. -/
theorem get_congr
    {store other : Store}
    (same : store.histories = other.histories)
    (transaction : Transaction) :
    transaction.get store = transaction.get other := by
  funext key
  rw [Transaction.get, Transaction.get, valueAt_congr same]

end Views

/-- Publishing writes puts a version of each written key in front of its history. -/
theorem findD_histories_push
    (stamp : Nat)
    {writes : List (Bytes × Option Bytes)}
    (ascending : writes.Pairwise fun first second => first.1 < second.1)
    (histories : OrderedMap Bytes History)
    (key : Bytes) :
    (writes.foldl
        (fun histories write =>
          histories.insert write.1 (History.push stamp write.2 (histories.findD write.1 [])))
        histories).findD key [] =
      match writes.find? fun write => write.1 = key with
      | some write => History.push stamp write.2 (histories.findD key [])
      | none => histories.findD key [] := by
  induction writes generalizing histories with
  | nil =>
      rfl
  | cons write rest inductionHypothesis =>
      obtain ⟨least, restAscending⟩ := List.pairwise_cons.1 ascending
      rw [List.foldl_cons, inductionHypothesis restAscending, OrderedMap.findD_insert]
      by_cases same : write.1 = key
      · have absent : rest.find? (fun other => other.1 = key) = none := by
          refine List.find?_eq_none.2 ?_
          intro other member
          have different := Std.ne_of_lt (least other member)
          simpa [← same] using different.symm
        simp [same, absent]
      · simp [same, Ne.symm same]

/-- What publishing leaves of the history of a key. -/
theorem findD_histories_publish
    (store : Store)
    (publication : Publication)
    (key : Bytes) :
    (store.publish publication).histories.findD key [] =
      match publication.writes.find? key with
      | some value => History.push publication.stamp value (store.histories.findD key [])
      | none => store.histories.findD key [] := by
  rw [publish, findD_histories_push publication.stamp publication.writes.ascending,
    OrderedMap.find?]
  cases publication.writes.entries.find? fun write => write.1 = key <;> rfl

/-- How a commit ends, and the store it leaves before its snapshot is let go of. -/
theorem commit_cases
    (store : Store)
    (transaction : Transaction) :
    (transaction.writes.isEmpty ∧
      store.commit transaction = (.ok none, store.release transaction.snapshot)) ∨
    (¬ transaction.writes.isEmpty ∧ store.conflicts transaction = [] ∧
      store.commit transaction =
        (.ok (some ⟨nextStamp store.clock, transaction.writes⟩),
          (store.publish ⟨nextStamp store.clock, transaction.writes⟩).prune.release
            transaction.snapshot)) ∨
    (¬ transaction.writes.isEmpty ∧ store.conflicts transaction ≠ [] ∧
      store.commit transaction =
        (.error ⟨store.conflicts transaction⟩, store.release transaction.snapshot)) := by
  by_cases noWrites : transaction.writes.isEmpty
  · simp [commit, noWrites]
  · by_cases noConflict : store.conflicts transaction = []
    · simp [commit, noWrites, noConflict]
    · simp [commit, noWrites, noConflict]

/-- A refusal names the conflicts. -/
theorem keys_of_refused
    {store : Store}
    {transaction : Transaction}
    {conflict : Conflict}
    (refused : (store.commit transaction).1 = .error conflict) :
    conflict.keys = store.conflicts transaction := by
  rcases store.commit_cases transaction with ⟨-, result⟩ | ⟨-, -, result⟩ | ⟨-, -, result⟩
  · rw [result] at refused
    cases refused
  · rw [result] at refused
    cases refused
  · rw [result] at refused
    cases refused
    rfl

/-- A commit is refused exactly if there are conflicts; without writes there are none. -/
theorem refused_iff_conflicts
    {store : Store}
    {transaction : Transaction} :
    (∃ conflict, (store.commit transaction).1 = .error conflict) ↔
      ∃ key, key ∈ store.conflicts transaction := by
  rcases store.commit_cases transaction with
    ⟨noWrites, result⟩ | ⟨-, noConflict, result⟩ | ⟨-, someConflict, result⟩
  · simp [result, conflicts, OrderedMap.find?_of_isEmpty noWrites]
  · simp [result, noConflict]
  · simp only [result, Except.error.injEq, exists_eq']
    exact iff_of_true trivial (List.exists_mem_of_ne_nil _ someConflict)

/-- How a commit ends depends on its conflicts and on the clock only. -/
theorem commit_congr
    {store other : Store}
    {transaction : Transaction}
    (sameConflicts : store.conflicts transaction = other.conflicts transaction)
    (sameClock : store.clock = other.clock) :
    (store.commit transaction).1 = (other.commit transaction).1 := by
  simp only [commit, sameConflicts, sameClock]
  split
  · rfl
  · split <;> rfl

end SecondaryIndex.Versioned.Store
