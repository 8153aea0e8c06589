import SecondaryIndex.Proofs.Versioned.SnapshotReads

namespace SecondaryIndex.Versioned

/-!
# The first committer wins

A commit is refused exactly on the keys that have been written, since its
transaction was opened, by commits that succeeded.  The store forgets write sets
as soon as no open snapshot can conflict with them, so what it remembers settles
each commit as the whole past would.
-/

namespace Transaction

/-- The written keys that some publications wrote as well, once for each of them. -/
def clashes
    (transaction : Transaction)
    (publications : List Publication) :
    List Bytes :=
  publications.flatMap fun publication =>
    publication.writes.keys.filter fun key => (transaction.writes.find? key).isSome

variable
  {transaction : Transaction}
  {publications : List Publication}
  {key : Bytes}

theorem mem_clashes :
    key ∈ transaction.clashes publications ↔
      ∃ publication ∈ publications,
        (publication.writes.find? key).isSome ∧ (transaction.writes.find? key).isSome := by
  simp only [clashes, List.mem_flatMap, List.mem_filter, OrderedMap.mem_keys_iff,
    Option.isSome_iff_exists]

/-- A clash is listed once for each publication that has a part in it. -/
theorem count_clashes
    (transaction : Transaction)
    (publications : List Publication)
    (key : Bytes) :
    (transaction.clashes publications).count key =
      if (transaction.writes.find? key).isSome then
        publications.countP fun publication => (publication.writes.find? key).isSome
      else
        0 := by
  by_cases written : (transaction.writes.find? key).isSome
  · rw [if_pos written]
    induction publications with
    | nil =>
        rfl
    | cons publication rest inductionHypothesis =>
        have own :
            (publication.writes.keys.filter fun key =>
                (transaction.writes.find? key).isSome).count key =
              if (publication.writes.find? key).isSome then 1 else 0 := by
          have listed :
              key ∈ publication.writes.keys ↔ (publication.writes.find? key).isSome := by
            rw [OrderedMap.mem_keys_iff, Option.isSome_iff_exists]
          simp [List.count_filter, written, publication.writes.nodup_keys.count, listed]
        have shape :
            transaction.clashes (publication :: rest) =
              (publication.writes.keys.filter fun key =>
                (transaction.writes.find? key).isSome) ++ transaction.clashes rest :=
          List.flatMap_cons
        rw [shape, List.count_append, own, inductionHypothesis, List.countP_cons, Nat.add_comm]
  · rw [if_neg written]
    refine List.count_eq_zero.2 ?_
    intro member
    obtain ⟨_, -, -, alsoWritten⟩ := mem_clashes.1 member
    exact written alsoWritten

end Transaction

section Remembered

variable
  {publications : List Publication}
  {transaction : Transaction}

/-- Remembering the write sets behind a point that the snapshot shows finds all clashes. -/
theorem conflicts_of_recent
    {store : Store}
    {floor : Nat}
    (numbered : Numbered publications)
    (recent : store.recent.entries = (publications.drop floor).map Publication.remembered)
    (behind : floor ≤ transaction.snapshot) :
    store.conflicts transaction =
      transaction.clashes (publications.drop transaction.snapshot) := by
  have newer :
      (fun commit : Nat × List Bytes => decide (transaction.snapshot < commit.1)) ∘
          Publication.remembered =
        fun publication => decide (transaction.snapshot < publication.stamp) :=
    rfl
  rw [Store.conflicts, recent, List.filter_map, newer, numbered.filter_newer behind,
    List.flatMap_map]
  rfl

/-- Publications are stamped in ascending order. -/
theorem Numbered.ascending
    (numbered : Numbered publications) :
    publications.Pairwise fun first second => first.stamp < second.stamp := by
  refine List.pairwise_iff_getElem.2 ?_
  intro first second firstInside secondInside before
  rw [numbered first _ (List.getElem?_eq_getElem firstInside),
    numbered second _ (List.getElem?_eq_getElem secondInside)]
  exact Nat.succ_lt_succ before

end Remembered

/-- The store with the write sets of all publications, as if none had been forgotten. -/
def World.unpruned
    (world : World) :
    Store :=
  { world.store with
    recent := OrderedMap.ofList (world.published.map Publication.remembered) }

namespace Sound

variable
  {world : World}
  {number : Nat}
  {transaction : Transaction}

/-- The conflicts of an open transaction are its clashes with what its snapshot does not show. -/
theorem conflicts
    (sound : Sound world)
    (isOpen : world.transaction? number = some transaction) :
    world.store.conflicts transaction =
      transaction.clashes (world.published.drop transaction.snapshot) := by
  obtain ⟨floor, retained⟩ := sound.retained
  exact conflicts_of_recent sound.numbered retained.recent (retained.openBehind isOpen)

/-- Forgetting write sets makes no difference to a commit. -/
theorem commit_unpruned
    (sound : Sound world)
    (isOpen : world.transaction? number = some transaction) :
    (world.unpruned.commit transaction).1 = (world.store.commit transaction).1 := by
  have ascending :
      (world.published.map Publication.remembered).Pairwise
        fun first second => first.1 < second.1 :=
    List.pairwise_map.2 sound.numbered.ascending
  have recent :
      world.unpruned.recent.entries =
        (world.published.drop 0).map Publication.remembered :=
    OrderedMap.entries_ofList ascending
  have sameConflicts :
      world.unpruned.conflicts transaction = world.store.conflicts transaction := by
    rw [conflicts_of_recent sound.numbered recent (Nat.zero_le _), sound.conflicts isOpen]
  exact Store.commit_congr sameConflicts rfl

/-- A commit with writes is refused exactly if it has a clash. -/
theorem refused_iff
    (sound : Sound world)
    (isOpen : world.transaction? number = some transaction)
    (someWrites : ¬ transaction.writes.isEmpty) :
    (∃ conflict, (world.store.commit transaction).1 = .error conflict) ↔
      ∃ publication ∈ world.published.drop transaction.snapshot,
        ∃ key,
          (publication.writes.find? key).isSome ∧ (transaction.writes.find? key).isSome := by
  have clashing :
      (∃ publication ∈ world.published.drop transaction.snapshot,
        ∃ key,
          (publication.writes.find? key).isSome ∧ (transaction.writes.find? key).isSome) ↔
        ∃ key, key ∈ world.store.conflicts transaction := by
    simp only [sound.conflicts isOpen, Transaction.mem_clashes]
    constructor
    · rintro ⟨publication, member, key, both⟩
      exact ⟨key, publication, member, both⟩
    · rintro ⟨key, publication, member, both⟩
      exact ⟨publication, member, key, both⟩
  rw [clashing]
  rcases Store.commit_cases world.store transaction with
    ⟨noWrites, -⟩ | ⟨-, noConflict, result⟩ | ⟨-, someConflict, result⟩
  · exact absurd noWrites someWrites
  · simp [result, noConflict]
  · simp only [result, Except.error.injEq, exists_eq']
    exact iff_of_true trivial (List.exists_mem_of_ne_nil _ someConflict)

/-- A refusal names each clashing key once for each commit it clashes with. -/
theorem count_refused
    {conflict : Conflict}
    (sound : Sound world)
    (isOpen : world.transaction? number = some transaction)
    (refused : (world.store.commit transaction).1 = .error conflict)
    (key : Bytes) :
    conflict.keys.count key =
      if (transaction.writes.find? key).isSome then
        (world.published.drop transaction.snapshot).countP fun publication =>
          (publication.writes.find? key).isSome
      else
        0 := by
  rw [Store.keys_of_refused refused, sound.conflicts isOpen, Transaction.count_clashes]

/-- Nothing newer than the snapshot writes a key that a commit gets through with. -/
theorem unwritten_of_success
    {publication : Option Publication}
    {key : Bytes}
    (sound : Sound world)
    (isOpen : world.transaction? number = some transaction)
    (success : (world.store.commit transaction).1 = .ok publication)
    (written : (transaction.writes.find? key).isSome) :
    ∀ newer ∈ world.published.drop transaction.snapshot, newer.writes.find? key = none := by
  intro newer member
  have someWrites : ¬ transaction.writes.isEmpty := by
    intro noWrites
    rw [OrderedMap.find?_of_isEmpty noWrites] at written
    cases written
  cases alsoWritten : newer.writes.find? key with
  | none =>
      rfl
  | some value =>
      have refused :=
        (sound.refused_iff isOpen someWrites).2
          ⟨newer, member, key, by simp [alsoWritten], written⟩
      obtain ⟨conflict, isRefused⟩ := refused
      rw [isRefused] at success
      cases success

/-- A commit that succeeds follows, for each key it writes, on the state its snapshot holds. -/
theorem no_lost_update
    {publication : Option Publication}
    {key : Bytes}
    (sound : Sound world)
    (isOpen : world.transaction? number = some transaction)
    (success : (world.store.commit transaction).1 = .ok publication)
    (written : (transaction.writes.find? key).isSome) :
    (∀ version ∈ world.store.histories.findD key [], version.stamp ≤ transaction.snapshot) ∧
      world.store.valueAt world.store.clock key =
        world.store.valueAt transaction.snapshot key := by
  have unwritten := sound.unwritten_of_success isOpen success written
  constructor
  · intro version member
    rw [sound.histories] at member
    obtain ⟨publication, published, shape⟩ := List.mem_filterMap.1 member
    obtain ⟨value, alsoWritten, rfl⟩ := Option.map_eq_some_iff.1 shape
    rw [List.mem_reverse, ← List.take_append_drop transaction.snapshot world.published,
      List.mem_append] at published
    rcases published with shown | newer
    · exact sound.numbered.stamp_le_of_mem_take shown
    · rw [unwritten publication newer] at alsoWritten
      cases alsoWritten
  · rw [sound.valueAt, sound.valueAt, sound.clock, List.take_length,
      ← List.take_append_drop transaction.snapshot world.published,
      committed_append_of_not_written _ unwritten, List.take_append_drop]

end Sound

/-- A refused commit ends its transaction and changes nothing else. -/
theorem World.step_of_refused
    {world : World}
    {number : Nat}
    {transaction : Transaction}
    {conflict : Conflict}
    (isOpen : world.transaction? number = some transaction)
    (refused : (world.store.commit transaction).1 = .error conflict) :
    (world.step (.commit number)).published = world.published ∧
      (world.step (.commit number)).store.histories = world.store.histories ∧
        (world.step (.commit number)).store.clock = world.store.clock ∧
          (world.step (.commit number)).store.recent = world.store.recent ∧
            ∀ other,
              (world.step (.commit number)).transaction? other =
                if other = number then none else world.transaction? other := by
  have quiet : (Step.commit number).Quiet world := by
    intro other otherOpen
    rw [isOpen] at otherOpen
    cases otherOpen
    exact .inr ⟨conflict, refused⟩
  obtain ⟨samePublished, sameHistories, sameClock, sameRecent⟩ := World.step_of_quiet quiet
  exact ⟨samePublished, sameHistories, sameClock, sameRecent,
    World.transaction?_commit world number⟩

/--
The first committer wins.  A transaction with writes, still open, is refused
exactly if a commit that succeeded since its opening wrote one of its keys, and
the refusal names each such key once for each such commit.  The outcome is the
one of a store that forgets no write sets.  A refusal changes nothing but that
the transaction has ended.  Where a commit succeeds, the keys it writes have not
been written since the transaction was opened, so the last committed value of
each of them is the one that its snapshot holds.
-/
theorem first_committer_wins
    (earlier later : List Step)
    (bounded : (run (earlier ++ .begin :: later)).published.length ≤ lastStamp)
    (goesOn : ∀ step ∈ later, ¬ step.Ends (run earlier).transactions.length) :
    let world := run (earlier ++ .begin :: later)
    let number := (run earlier).transactions.length
    let since := world.published.drop (run earlier).published.length
    ∃ transaction,
      world.transaction? number = some transaction ∧
        (∀ key, transaction.writes.find? key = lastWrite number key later) ∧
        (¬ transaction.writes.isEmpty →
          ((∃ conflict, (world.store.commit transaction).1 = .error conflict) ↔
            ∃ publication ∈ since,
              ∃ key,
                (publication.writes.find? key).isSome ∧
                  (transaction.writes.find? key).isSome)) ∧
        (∀ conflict,
          (world.store.commit transaction).1 = .error conflict →
            (∀ key,
              conflict.keys.count key =
                if (transaction.writes.find? key).isSome then
                  since.countP fun publication => (publication.writes.find? key).isSome
                else
                  0) ∧
            (world.step (.commit number)).published = world.published ∧
            (world.step (.commit number)).store.histories = world.store.histories ∧
            (world.step (.commit number)).store.clock = world.store.clock ∧
            (world.step (.commit number)).store.recent = world.store.recent ∧
            ∀ other,
              (world.step (.commit number)).transaction? other =
                if other = number then none else world.transaction? other) ∧
        (world.unpruned.commit transaction).1 = (world.store.commit transaction).1 ∧
        ∀ publication,
          (world.store.commit transaction).1 = .ok publication →
            ∀ key,
              (transaction.writes.find? key).isSome →
                (∀ version ∈ world.store.histories.findD key [],
                  version.stamp ≤ transaction.snapshot) ∧
                  world.store.valueAt world.store.clock key =
                    world.store.valueAt transaction.snapshot key := by
  intro world number since
  have sound : Sound world :=
    sound_run bounded
  obtain ⟨transaction, isOpen, sameSnapshot, itsWrites⟩ := opened_run bounded goesOn
  refine ⟨transaction, isOpen, itsWrites, ?_, ?_, ?_, ?_⟩
  · intro someWrites
    rw [sound.refused_iff isOpen someWrites, sameSnapshot]
  · intro conflict refused
    refine ⟨?_, World.step_of_refused isOpen refused⟩
    intro key
    rw [sound.count_refused isOpen refused, sameSnapshot]
  · exact sound.commit_unpruned isOpen
  · intro publication success key written
    exact sound.no_lost_update isOpen success written

/-- Of two transactions that write one key, the second one to commit is refused on it. -/
theorem first_committer_wins_overlapping :
    ∃ transaction conflict,
      (run [.begin, .begin, .delete 0 [1], .set 1 [1] [9], .commit 0]).transaction? 1 =
          some transaction ∧
        ((run [.begin, .begin, .delete 0 [1], .set 1 [1] [9], .commit 0]).store.commit
            transaction).1 = .error conflict ∧
          conflict.keys.count [1] = 1 := by
  have bounded :
      (run [.begin, .begin, .delete 0 [1], .set 1 [1] [9], .commit 0]).published.length ≤
        lastStamp := by
    decide
  obtain ⟨transaction, isOpen, itsWrites, refusal, named, -⟩ :=
    first_committer_wins [.begin] [.delete 0 [1], .set 1 [1] [9], .commit 0] bounded (by decide)
  have someWrites : ¬ transaction.writes.isEmpty := by
    intro noWrites
    have written := itsWrites [1]
    rw [OrderedMap.find?_of_isEmpty noWrites] at written
    cases written
  obtain ⟨conflict, refused⟩ :=
    (refusal someWrites).2 ⟨_, List.mem_singleton_self _, [1], rfl, by rw [itsWrites]; rfl⟩
  refine ⟨transaction, conflict, isOpen, refused, ?_⟩
  have counted := (named conflict refused).1 [1]
  rw [itsWrites] at counted
  exact counted

end SecondaryIndex.Versioned
