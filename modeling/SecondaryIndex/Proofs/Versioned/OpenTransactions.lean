import Mathlib.Data.List.Basic
import SecondaryIndex.Proofs.Versioned.World

namespace SecondaryIndex.Versioned

/-!
# Open transactions

A world lists its transactions by number; a transaction that has ended leaves
an empty place.  How many open transactions have a snapshot follows each way in
which the list changes.
-/

namespace World

/-- The number of open transactions with a snapshot. -/
def openAt
    (world : World)
    (snapshot : Nat) :
    Nat :=
  world.transactions.countP fun place =>
    place.any fun transaction => transaction.snapshot = snapshot

section Places

variable
  {world : World}
  {number other snapshot : Nat}
  {transaction : Transaction}

theorem transaction?_eq_some_iff :
    world.transaction? number = some transaction ↔
      world.transactions[number]? = some (some transaction) := by
  rw [transaction?, Option.join_eq_some_iff]

/-- The number of an open transaction has been given. -/
theorem lt_of_open
    (isOpen : world.transaction? number = some transaction) :
    number < world.transactions.length :=
  (List.getElem?_eq_some_iff.1 (transaction?_eq_some_iff.1 isOpen)).1

theorem openAt_eq_zero_iff :
    world.openAt snapshot = 0 ↔
      ∀ number transaction,
        world.transaction? number = some transaction → transaction.snapshot ≠ snapshot := by
  rw [openAt, List.countP_eq_zero]
  constructor
  · intro noneOpen number transaction isOpen same
    have member := List.mem_of_getElem? (transaction?_eq_some_iff.1 isOpen)
    exact noneOpen _ member (by simpa using same)
  · intro different place member matching
    obtain ⟨number, inside, isPlace⟩ := List.mem_iff_getElem.1 member
    cases place with
    | none =>
        cases matching
    | some transaction =>
        have isOpen : world.transaction? number = some transaction := by
          rw [transaction?_eq_some_iff, List.getElem?_eq_getElem inside, isPlace]
        exact different number transaction isOpen (by simpa using matching)

/-- There is an open transaction at the snapshot of each open transaction. -/
theorem openAt_pos
    (isOpen : world.transaction? number = some transaction) :
    0 < world.openAt transaction.snapshot := by
  refine Nat.pos_of_ne_zero ?_
  intro noneOpen
  exact openAt_eq_zero_iff.1 noneOpen number transaction isOpen rfl

/-- A new transaction adds to the open ones at its snapshot. -/
theorem countP_opened
    (places : List (Option Transaction))
    (snapshot : Nat) :
    (places ++ [some transaction]).countP
        (fun place => place.any fun other => other.snapshot = snapshot) =
      places.countP (fun place => place.any fun other => other.snapshot = snapshot) +
        if transaction.snapshot = snapshot then 1 else 0 := by
  by_cases same : transaction.snapshot = snapshot <;> simp [same]

/-- What comes in the place of an open transaction decides its count. -/
theorem countP_replaced
    {places : List (Option Transaction)}
    (place : Option Transaction)
    (isOpen : places[number]? = some (some transaction))
    (snapshot : Nat) :
    (places.set number place).countP
          (fun place => place.any fun other => other.snapshot = snapshot) +
        (if transaction.snapshot = snapshot then 1 else 0) =
      places.countP (fun place => place.any fun other => other.snapshot = snapshot) +
        (if place.any (fun other => other.snapshot = snapshot) then 1 else 0) := by
  obtain ⟨inside, isPlace⟩ := List.getElem?_eq_some_iff.1 isOpen
  have counted :
      transaction.snapshot = snapshot →
        0 < places.countP fun place => place.any fun other => other.snapshot = snapshot := by
    intro same
    refine List.countP_pos_iff.2 ⟨some transaction, List.mem_of_getElem? isOpen, ?_⟩
    simpa using same
  rw [List.countP_set inside, isPlace]
  by_cases same : transaction.snapshot = snapshot
  · have positive := counted same
    simp only [Option.any_some, same, decide_true, if_true]
    omega
  · simp [same]

end Places

section Numbers

/-- What stands at a number after a place has been filled or emptied. -/
theorem join_set
    {places : List (Option Transaction)}
    {number : Nat}
    (inside : number < places.length)
    (place : Option Transaction)
    (other : Nat) :
    (places.set number place)[other]?.join =
      if other = number then place else places[other]?.join := by
  by_cases same : other = number
  · subst same
    simp [inside]
  · simp [same, List.getElem?_set_ne (Ne.symm same)]

/-- The new transaction has the next number, and all others have theirs. -/
theorem transaction?_begin
    (world : World)
    (other : Nat) :
    world.begin.transaction? other =
      if other = world.transactions.length then
        some ⟨world.store.clock, .empty⟩
      else
        world.transaction? other := by
  rcases Nat.lt_trichotomy other world.transactions.length with given | isNext | notGiven
  · have different : other ≠ world.transactions.length :=
      Nat.ne_of_lt given
    simp [transaction?, begin, List.getElem?_append_left given, different]
  · simp [transaction?, begin, isNext, Store.begin]
  · have different : other ≠ world.transactions.length :=
      (Nat.ne_of_lt notGiven).symm
    have beyond : (world.transactions ++ [some world.store.begin.1])[other]? = none :=
      List.getElem?_eq_none (by simp; omega)
    have absent : world.transactions[other]? = none :=
      List.getElem?_eq_none (Nat.le_of_lt notGiven)
    simp [transaction?, begin, beyond, absent, different]

theorem transaction?_revise
    (world : World)
    (number : Nat)
    (change : Transaction → Transaction)
    (other : Nat) :
    (world.revise number change).transaction? other =
      if other = number then (world.transaction? number).map change
      else world.transaction? other := by
  cases isOpen : world.transaction? number with
  | none =>
      by_cases same : other = number
      · simp [revise, isOpen, same]
      · simp [revise, isOpen, same]
  | some transaction =>
      simp only [revise, isOpen, Option.map_some]
      exact join_set (lt_of_open isOpen) _ other

/-- A commit ends its transaction, whether or not it publishes, and no other one. -/
theorem transaction?_commit
    (world : World)
    (number other : Nat) :
    (world.commit number).transaction? other =
      if other = number then none else world.transaction? other := by
  cases isOpen : world.transaction? number with
  | none =>
      by_cases same : other = number
      · simp [commit, isOpen, same]
      · simp [commit, isOpen, same]
  | some transaction =>
      simp only [commit, isOpen]
      exact join_set (lt_of_open isOpen) _ other

theorem transaction?_rollback
    (world : World)
    (number other : Nat) :
    (world.rollback number).transaction? other =
      if other = number then none else world.transaction? other := by
  cases isOpen : world.transaction? number with
  | none =>
      by_cases same : other = number
      · simp [rollback, isOpen, same]
      · simp [rollback, isOpen, same]
  | some transaction =>
      simp only [rollback, isOpen]
      exact join_set (lt_of_open isOpen) _ other

/-- Only a transaction that was open is open after a commit. -/
theorem open_of_commit
    {world : World}
    {number other : Nat}
    {transaction : Transaction}
    (isOpen : (world.commit number).transaction? other = some transaction) :
    world.transaction? other = some transaction := by
  rw [transaction?_commit] at isOpen
  split at isOpen
  · cases isOpen
  · exact isOpen

/-- Only a transaction that was open is open after another one has been given up. -/
theorem open_of_rollback
    {world : World}
    {number other : Nat}
    {transaction : Transaction}
    (isOpen : (world.rollback number).transaction? other = some transaction) :
    world.transaction? other = some transaction := by
  rw [transaction?_rollback] at isOpen
  split at isOpen
  · cases isOpen
  · exact isOpen

end Numbers

end World

end SecondaryIndex.Versioned
