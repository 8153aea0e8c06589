import SecondaryIndex.Proofs.Versioned.Bookkeeping

namespace SecondaryIndex.Versioned

/-!
# Runs

Steps only ever add to what has been published, so as long as a whole run stays
within the range of the clock, so does every part of it.  In such a run the
books are in order after each step, and what an open transaction sees is not
touched by the steps of others.
-/

namespace Step

/-- The transaction that a step belongs to; opening one belongs to none. -/
def number? :
    Step → Option Nat
  | .begin =>
      none
  | .set number _ _ =>
      some number
  | .delete number _ =>
      some number
  | .commit number =>
      some number
  | .rollback number =>
      some number

end Step

/-- A list that every step only adds to stays at the front in a row of steps. -/
theorem prefix_foldl
    {σ α β : Type}
    {list : σ → List β}
    {step : σ → α → σ}
    (grows : ∀ state next, list state <+: list (step state next))
    (state : σ)
    (steps : List α) :
    list state <+: list (steps.foldl step state) := by
  induction steps generalizing state with
  | nil =>
      exact List.prefix_refl _
  | cons next rest inductionHypothesis =>
      exact (grows state next).trans (inductionHypothesis (step state next))

namespace World

theorem published_revise
    (world : World)
    (number : Nat)
    (change : Transaction → Transaction) :
    (world.revise number change).published = world.published := by
  cases isOpen : world.transaction? number <;> simp [revise, isOpen]

/-- What a transaction writes does not concern the store before it commits. -/
theorem store_revise
    (world : World)
    (number : Nat)
    (change : Transaction → Transaction) :
    (world.revise number change).store = world.store := by
  cases isOpen : world.transaction? number <;> simp [revise, isOpen]

theorem published_rollback
    (world : World)
    (number : Nat) :
    (world.rollback number).published = world.published := by
  cases isOpen : world.transaction? number <;> simp [rollback, isOpen]

/-- A commit adds what it publishes to what has been published. -/
theorem published_commit
    (world : World)
    (number : Nat) :
    world.published <+: (world.commit number).published := by
  cases isOpen : world.transaction? number with
  | none =>
      simp [commit, isOpen]
  | some transaction =>
      simp [commit, isOpen]

/-- A step takes back nothing that has been published. -/
theorem published_step
    (world : World)
    (step : Step) :
    world.published <+: (world.step step).published := by
  cases step with
  | begin =>
      simp [World.step, begin]
  | set number key value =>
      simp [World.step, published_revise]
  | delete number key =>
      simp [World.step, published_revise]
  | commit number =>
      exact published_commit world number
  | rollback number =>
      simp [World.step, published_rollback]

@[simp]
theorem steps_cons
    (world : World)
    (step : Step)
    (rest : List Step) :
    world.steps (step :: rest) = (world.step step).steps rest :=
  rfl

theorem steps_append
    (world : World)
    (first second : List Step) :
    world.steps (first ++ second) = (world.steps first).steps second := by
  simp [steps]

/-- What has been published stays at the front of all that will be. -/
theorem published_steps
    (world : World)
    (steps : List Step) :
    world.published <+: (world.steps steps).published :=
  prefix_foldl published_step world steps

end World

namespace Sound

variable
  {world : World}
  {number : Nat}
  {transaction : Transaction}

theorem step
    {step : Step}
    (sound : Sound world)
    (bounded : (world.step step).published.length ≤ lastStamp) :
    Sound (world.step step) := by
  cases step with
  | begin =>
      exact sound.begin
  | set number key value =>
      exact sound.revise fun _ => rfl
  | delete number key =>
      exact sound.revise fun _ => rfl
  | commit number =>
      exact sound.commit bounded
  | rollback number =>
      exact sound.rollback

theorem steps
    {steps : List Step}
    (sound : Sound world)
    (bounded : (world.steps steps).published.length ≤ lastStamp) :
    Sound (world.steps steps) := by
  induction steps generalizing world with
  | nil =>
      exact sound
  | cons step rest inductionHypothesis =>
      have stepBounded : (world.step step).published.length ≤ lastStamp :=
        Nat.le_trans (World.published_steps (world.step step) rest).length_le bounded
      exact inductionHypothesis (sound.step stepBounded) bounded

/-- What a transaction sees is settled by the publications up to its snapshot. -/
theorem get_eq_of_prefix
    {later : World}
    (sound : Sound world)
    (laterSound : Sound later)
    (grown : world.published <+: later.published)
    (shown : transaction.snapshot ≤ world.published.length) :
    transaction.get later.store = transaction.get world.store := by
  obtain ⟨added, shape⟩ := grown
  rw [sound.get, laterSound.get, ← shape, List.take_append_of_le_length shown]

end Sound

/-- In a run within the range of the clock the books are in order. -/
theorem sound_run
    {steps : List Step}
    (bounded : (run steps).published.length ≤ lastStamp) :
    Sound (run steps) :=
  Sound.start.steps bounded

namespace World

/-- A step of another transaction leaves a transaction as it is. -/
theorem transaction?_step_other
    {world : World}
    {number : Nat}
    {transaction : Transaction}
    {step : Step}
    (isOpen : world.transaction? number = some transaction)
    (other : step.number? ≠ some number) :
    (world.step step).transaction? number = some transaction := by
  cases step with
  | begin =>
      have given : number ≠ world.transactions.length :=
        Nat.ne_of_lt (lt_of_open isOpen)
      simp [World.step, transaction?_begin, given, isOpen]
  | set owner key value =>
      have different : number ≠ owner := by
        rintro rfl
        exact other rfl
      simp [World.step, transaction?_revise, different, isOpen]
  | delete owner key =>
      have different : number ≠ owner := by
        rintro rfl
        exact other rfl
      simp [World.step, transaction?_revise, different, isOpen]
  | commit owner =>
      have different : number ≠ owner := by
        rintro rfl
        exact other rfl
      simp [World.step, transaction?_commit, different, isOpen]
  | rollback owner =>
      have different : number ≠ owner := by
        rintro rfl
        exact other rfl
      simp [World.step, transaction?_rollback, different, isOpen]

end World

end SecondaryIndex.Versioned
