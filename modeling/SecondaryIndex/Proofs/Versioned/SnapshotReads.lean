import SecondaryIndex.Proofs.Versioned.Run

namespace SecondaryIndex.Versioned

/-!
# Snapshot reads

A transaction sees its own last write of a key, and behind it the map that had
been published when it was opened.  What others do in the meantime does not
show, and an end that publishes nothing shows to nobody.
-/

namespace Step

/-- What a step of a transaction writes to a key, if it writes to it. -/
def written?
    (number : Nat)
    (key : Bytes) :
    Step → Option (Option Bytes)
  | .set owner other value =>
      if owner = number ∧ other = key then some (some value) else none
  | .delete owner other =>
      if owner = number ∧ other = key then some none else none
  | _ =>
      none

/-- Whether a step ends a transaction. -/
def Ends
    (number : Nat)
    (step : Step) :
    Prop :=
  step = .commit number ∨ step = .rollback number

instance
    (number : Nat)
    (step : Step) :
    Decidable (step.Ends number) :=
  inferInstanceAs (Decidable (_ ∨ _))

/-- An end that publishes nothing: giving up, a refusal, or a commit without writes. -/
def Quiet
    (world : World) :
    Step → Prop
  | .commit number =>
      ∀ transaction, world.transaction? number = some transaction →
        transaction.writes.isEmpty ∨
          ∃ conflict, (world.store.commit transaction).1 = .error conflict
  | .rollback _ =>
      True
  | _ =>
      False

end Step

/-- What a transaction wrote last to a key in the course of some steps. -/
def lastWrite
    (number : Nat)
    (key : Bytes) :
    List Step → Option (Option Bytes)
  | [] =>
      none
  | step :: rest =>
      (lastWrite number key rest).or (step.written? number key)

namespace World

/-- The map after a number of publications. -/
def publishedMap
    (world : World)
    (count : Nat) :
    Bytes → Option Bytes :=
  committed (world.published.take count)

variable
  {world : World}
  {number : Nat}
  {transaction : Transaction}

/-- A step that does not end a transaction adds to its writes what it writes itself. -/
theorem writes_step
    {step : Step}
    (isOpen : world.transaction? number = some transaction)
    (goesOn : ¬ step.Ends number) :
    ∃ later,
      (world.step step).transaction? number = some later ∧
        later.snapshot = transaction.snapshot ∧
          ∀ key, later.writes.find? key =
            (step.written? number key).or (transaction.writes.find? key) := by
  by_cases own : step.number? = some number
  · cases step with
    | begin =>
        cases own
    | set owner other value =>
        cases own
        refine ⟨transaction.set other value, ?_, rfl, ?_⟩
        · simp [World.step, transaction?_revise, isOpen]
        · intro key
          by_cases same : other = key
          · simp [Step.written?, Transaction.set, OrderedMap.find?_insert, same]
          · simp [Step.written?, Transaction.set, OrderedMap.find?_insert, same, Ne.symm same]
    | delete owner other =>
        cases own
        refine ⟨transaction.delete other, ?_, rfl, ?_⟩
        · simp [World.step, transaction?_revise, isOpen]
        · intro key
          by_cases same : other = key
          · simp [Step.written?, Transaction.delete, OrderedMap.find?_insert, same]
          · simp [Step.written?, Transaction.delete, OrderedMap.find?_insert, same, Ne.symm same]
    | commit owner =>
        cases own
        exact absurd (.inl rfl) goesOn
    | rollback owner =>
        cases own
        exact absurd (.inr rfl) goesOn
  · refine ⟨transaction, transaction?_step_other isOpen own, rfl, ?_⟩
    intro key
    have noWrite : step.written? number key = none := by
      cases step <;> simp_all [Step.written?, Step.number?]
    simp [noWrite]

/-- While a transaction goes on, its writes are its last ones. -/
theorem writes_steps
    {steps : List Step}
    (isOpen : world.transaction? number = some transaction)
    (goesOn : ∀ step ∈ steps, ¬ step.Ends number) :
    ∃ later,
      (world.steps steps).transaction? number = some later ∧
        later.snapshot = transaction.snapshot ∧
          ∀ key, later.writes.find? key =
            (lastWrite number key steps).or (transaction.writes.find? key) := by
  induction steps generalizing world transaction with
  | nil =>
      exact ⟨transaction, isOpen, rfl, fun _ => rfl⟩
  | cons step rest inductionHypothesis =>
      obtain ⟨next, nextOpen, nextSnapshot, nextWrites⟩ :=
        writes_step isOpen (goesOn step List.mem_cons_self)
      obtain ⟨later, laterOpen, laterSnapshot, laterWrites⟩ :=
        inductionHypothesis nextOpen fun step member =>
          goesOn step (List.mem_cons_of_mem _ member)
      refine ⟨later, laterOpen, laterSnapshot.trans nextSnapshot, ?_⟩
      intro key
      rw [laterWrites, nextWrites, lastWrite, Option.or_assoc]

/-- A quiet end changes neither what is published nor what the store has recorded of it. -/
theorem step_of_quiet
    {step : Step}
    (quiet : step.Quiet world) :
    (world.step step).published = world.published ∧
      (world.step step).store.histories = world.store.histories ∧
        (world.step step).store.clock = world.store.clock ∧
          (world.step step).store.recent = world.store.recent := by
  cases step with
  | begin =>
      exact quiet.elim
  | set owner key value =>
      exact quiet.elim
  | delete owner key =>
      exact quiet.elim
  | rollback owner =>
      cases isOpen : world.transaction? owner with
      | none =>
          simp [World.step, rollback, isOpen]
      | some transaction =>
          simp [World.step, rollback, isOpen, Store.rollback]
  | commit owner =>
      cases isOpen : world.transaction? owner with
      | none =>
          simp [World.step, commit, isOpen]
      | some transaction =>
          have publishesNothing := quiet transaction isOpen
          rcases Store.commit_cases world.store transaction with
            ⟨-, result⟩ | ⟨someWrites, -, result⟩ | ⟨-, -, result⟩
          · simp [World.step, commit, isOpen, result, publication?]
          · rcases publishesNothing with noWrites | ⟨conflict, refused⟩
            · exact absurd noWrites someWrites
            · rw [result] at refused
              cases refused
          · simp [World.step, commit, isOpen, result, publication?]

/-- Only a commit publishes. -/
theorem published_of_not_commit
    {step : Step}
    (noCommit : ∀ number, step ≠ .commit number) :
    (world.step step).published = world.published := by
  cases step with
  | begin =>
      rfl
  | set owner key value =>
      exact published_revise ..
  | delete owner key =>
      exact published_revise ..
  | commit owner =>
      exact absurd rfl (noCommit owner)
  | rollback owner =>
      exact published_rollback ..

/-- A commit that is not refused publishes the writes, if there are any. -/
theorem published_of_success
    {publication : Option Publication}
    (isOpen : world.transaction? number = some transaction)
    (someWrites : ¬ transaction.writes.isEmpty)
    (success : (world.store.commit transaction).1 = .ok publication) :
    (world.step (.commit number)).published =
      world.published ++ [⟨nextStamp world.store.clock, transaction.writes⟩] := by
  rcases Store.commit_cases world.store transaction with
    ⟨noWrites, -⟩ | ⟨-, -, result⟩ | ⟨-, -, result⟩
  · exact absurd noWrites someWrites
  · simp [World.step, commit, isOpen, result, publication?]
  · rw [result] at success
    cases success

/-- A commit that publishes adds one map, its writes over the last one, and keeps the others. -/
theorem publishedMap_of_success
    {publication : Option Publication}
    (isOpen : world.transaction? number = some transaction)
    (someWrites : ¬ transaction.writes.isEmpty)
    (success : (world.store.commit transaction).1 = .ok publication) :
    (world.step (.commit number)).published.length = world.published.length + 1 ∧
      (world.step (.commit number)).publishedMap (world.published.length + 1) =
        overlay transaction.writes (world.publishedMap world.published.length) ∧
          ∀ count ≤ world.published.length,
            (world.step (.commit number)).publishedMap count = world.publishedMap count := by
  have added := published_of_success isOpen someWrites success
  refine ⟨?_, ?_, ?_⟩
  · rw [added, List.length_append, List.length_singleton]
  · have all : ∀ publication : Publication,
        (world.published ++ [publication]).take (world.published.length + 1) =
          world.published ++ [publication] := by
      intro publication
      apply List.take_of_length_le
      simp
    rw [publishedMap, added, all, committed_append, publishedMap, List.take_length]
  · intro count within
    rw [publishedMap, added, List.take_append_of_le_length within, publishedMap]

/-- A quiet end is observed by nobody: views, later snapshots and other commits stay as they are. -/
theorem unobserved_of_quiet
    {step : Step}
    (quiet : step.Quiet world)
    (transaction : Transaction) :
    transaction.get (world.step step).store = transaction.get world.store ∧
      (world.step step).store.begin.1 = world.store.begin.1 ∧
        ((world.step step).store.commit transaction).1 = (world.store.commit transaction).1 := by
  obtain ⟨-, sameHistories, sameClock, sameRecent⟩ := step_of_quiet quiet
  refine ⟨Store.get_congr sameHistories transaction, ?_, ?_⟩
  · rw [Store.begin, Store.begin, sameClock]
  · have sameConflicts :
        (world.step step).store.conflicts transaction = world.store.conflicts transaction := by
      rw [Store.conflicts, Store.conflicts, sameRecent]
    exact Store.commit_congr sameConflicts sameClock

end World

section Opened

variable
  {earlier later : List Step}

/-- A transaction that has not ended is open, with its opening as snapshot and its last writes. -/
theorem opened_run
    (bounded : (run (earlier ++ .begin :: later)).published.length ≤ lastStamp)
    (goesOn : ∀ step ∈ later, ¬ step.Ends (run earlier).transactions.length) :
    ∃ transaction,
      (run (earlier ++ .begin :: later)).transaction? (run earlier).transactions.length =
          some transaction ∧
        transaction.snapshot = (run earlier).published.length ∧
          ∀ key,
            transaction.writes.find? key =
              lastWrite (run earlier).transactions.length key later := by
  have continued :
      run (earlier ++ .begin :: later) = (run earlier).begin.steps later :=
    World.steps_append ..
  rw [continued] at bounded ⊢
  have grown : (run earlier).published <+: ((run earlier).begin.steps later).published :=
    World.published_steps (run earlier).begin later
  have soundEarlier : Sound (run earlier) :=
    sound_run (Nat.le_trans grown.length_le bounded)
  have opened :
      (run earlier).begin.transaction? (run earlier).transactions.length =
        some ⟨(run earlier).store.clock, .empty⟩ := by
    rw [World.transaction?_begin, if_pos rfl]
  obtain ⟨transaction, isOpen, sameSnapshot, itsWrites⟩ := World.writes_steps opened goesOn
  refine ⟨transaction, isOpen, sameSnapshot.trans soundEarlier.clock, ?_⟩
  intro key
  rw [itsWrites, OrderedMap.find?_empty, Option.or_none]

/--
A transaction that has not ended sees its own last write of a key, and else the
map that had been published when it was opened.
-/
theorem get_since_begin
    (bounded : (run (earlier ++ .begin :: later)).published.length ≤ lastStamp)
    (goesOn : ∀ step ∈ later, ¬ step.Ends (run earlier).transactions.length) :
    ∃ transaction,
      (run (earlier ++ .begin :: later)).transaction? (run earlier).transactions.length =
          some transaction ∧
        ∀ key,
          transaction.get (run (earlier ++ .begin :: later)).store key =
            (lastWrite (run earlier).transactions.length key later).getD
              ((run (earlier ++ .begin :: later)).publishedMap
                (run earlier).published.length key) := by
  obtain ⟨transaction, isOpen, sameSnapshot, itsWrites⟩ := opened_run bounded goesOn
  refine ⟨transaction, isOpen, ?_⟩
  intro key
  rw [(sound_run bounded).get, overlay, itsWrites, sameSnapshot, World.publishedMap]

end Opened

/--
Snapshot reads.  The first of the published maps is empty, and each commit that
publishes adds its writes to the last of them; no other step adds a map.  From
its opening until its end, a transaction sees its own last write of a key, and
else the map that was the last one when it was opened.  Giving up, a refused
commit and a commit without writes leave all maps as they are and are observed
by nobody.
-/
theorem snapshot_reads
    {steps : List Step}
    (bounded : (run steps).published.length ≤ lastStamp) :
    ((run steps).publishedMap 0 = fun _ => none) ∧
      (∀ number transaction publication,
        (run steps).transaction? number = some transaction →
          ¬ transaction.writes.isEmpty →
            ((run steps).store.commit transaction).1 = .ok publication →
              ((run steps).step (.commit number)).published.length =
                  (run steps).published.length + 1 ∧
                ((run steps).step (.commit number)).publishedMap
                    ((run steps).published.length + 1) =
                  overlay transaction.writes
                    ((run steps).publishedMap (run steps).published.length) ∧
                ∀ count ≤ (run steps).published.length,
                  ((run steps).step (.commit number)).publishedMap count =
                    (run steps).publishedMap count) ∧
      (∀ step,
        (∀ number, step ≠ .commit number) →
          ((run steps).step step).published = (run steps).published) ∧
      (∀ earlier later,
        steps = earlier ++ .begin :: later →
          (∀ step ∈ later, ¬ step.Ends (run earlier).transactions.length) →
            ∃ transaction,
              (run steps).transaction? (run earlier).transactions.length = some transaction ∧
                ∀ key,
                  transaction.get (run steps).store key =
                    (lastWrite (run earlier).transactions.length key later).getD
                      ((run steps).publishedMap (run earlier).published.length key)) ∧
      ∀ step,
        step.Quiet (run steps) →
          ((run steps).step step).published = (run steps).published ∧
            ∀ transaction : Transaction,
              transaction.get ((run steps).step step).store = transaction.get (run steps).store ∧
                ((run steps).step step).store.begin.1 = (run steps).store.begin.1 ∧
                  (((run steps).step step).store.commit transaction).1 =
                    ((run steps).store.commit transaction).1 := by
  refine ⟨rfl, ?_, ?_, ?_, ?_⟩
  · intro number transaction publication isOpen someWrites success
    exact World.publishedMap_of_success isOpen someWrites success
  · intro step noCommit
    exact World.published_of_not_commit noCommit
  · rintro earlier later rfl goesOn
    exact get_since_begin bounded goesOn
  · intro step quiet
    exact ⟨(World.step_of_quiet quiet).1, World.unobserved_of_quiet quiet⟩

/-- Two transactions on one key: the second one opened before the first one committed. -/
theorem snapshot_reads_interleaved :
    (run [.begin, .begin, .set 0 [1] [7], .commit 0, .set 1 [2] [9]]).published.length ≤
        lastStamp ∧
      ∃ transaction,
        (run [.begin, .begin, .set 0 [1] [7], .commit 0, .set 1 [2] [9]]).transaction? 1 =
            some transaction ∧
          transaction.get
              (run [.begin, .begin, .set 0 [1] [7], .commit 0, .set 1 [2] [9]]).store [1] =
            none ∧
          transaction.get
              (run [.begin, .begin, .set 0 [1] [7], .commit 0, .set 1 [2] [9]]).store [2] =
            some [9] := by
  have bounded :
      (run [.begin, .begin, .set 0 [1] [7], .commit 0, .set 1 [2] [9]]).published.length ≤
        lastStamp := by
    decide
  obtain ⟨transaction, isOpen, sees⟩ :=
    (snapshot_reads bounded).2.2.2.1 [.begin] [.set 0 [1] [7], .commit 0, .set 1 [2] [9]] rfl
      (by decide)
  exact ⟨bounded, transaction, isOpen, sees [1], sees [2]⟩

end SecondaryIndex.Versioned
