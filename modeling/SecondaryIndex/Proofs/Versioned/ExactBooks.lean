import Mathlib.Data.List.Nodup
import SecondaryIndex.Proofs.Versioned.FirstCommitter

namespace SecondaryIndex.Versioned

/-!
# The books are exact

A store counts its readers by snapshot, stamps its versions, and remembers the
write sets of recent commits.  In every world that steps lead to, the counts are
those of the open transactions, each stamp has been given once, and what is
remembered suffices for every open snapshot.  Each transaction is let go of once,
by the step that ends it, and a commit that publishes leaves nothing remembered
that every snapshot shows.
-/

namespace Publication

/-- The places that a publication writes to: its keys, each under its stamp. -/
def places
    (publication : Publication) :
    List (Bytes × Nat) :=
  publication.writes.keys.map fun key => (key, publication.stamp)

theorem mem_places
    {publication : Publication}
    {key : Bytes}
    {stamp : Nat} :
    (key, stamp) ∈ publication.places ↔
      stamp = publication.stamp ∧ ∃ value, publication.writes.find? key = some value := by
  simp [places, OrderedMap.mem_keys_iff, and_comm, eq_comm]

end Publication

namespace Store

/-- The places of the versions in a store: the key and the stamp of each. -/
def places
    (store : Store) :
    List (Bytes × Nat) :=
  store.histories.entries.flatMap fun history =>
    history.2.map fun version => (history.1, version.stamp)

theorem mem_places
    {store : Store}
    {key : Bytes}
    {stamp : Nat} :
    (key, stamp) ∈ store.places ↔
      ∃ version ∈ store.histories.findD key [], version.stamp = stamp := by
  rw [places, List.mem_flatMap, OrderedMap.findD]
  constructor
  · rintro ⟨history, listed, member⟩
    obtain ⟨version, isVersion, place⟩ := List.mem_map.1 member
    cases place
    have found : store.histories.find? history.1 = some history.2 :=
      OrderedMap.find?_eq_some_iff.2 listed
    refine ⟨version, ?_, rfl⟩
    simpa [found] using isVersion
  · rintro ⟨version, isVersion, rfl⟩
    cases found : store.histories.find? key with
    | none =>
        simp [found] at isVersion
    | some history =>
        have listed := OrderedMap.find?_eq_some_iff.1 found
        refine ⟨(key, history), listed, List.mem_map.2 ⟨version, ?_, rfl⟩⟩
        simpa [found] using isVersion

end Store

namespace World

/-- How often steps end a transaction while it is open, and so let go of its snapshot. -/
def releases
    (number : Nat)
    (world : World) :
    List Step → Nat
  | [] =>
      0
  | step :: rest =>
      (if step.Ends number ∧ (world.transaction? number).isSome then 1 else 0) +
        releases number (world.step step) rest

/-- Whether a transaction has been opened and is no longer open. -/
def Ended
    (world : World)
    (number : Nat) :
    Prop :=
  number < world.transactions.length ∧ world.transaction? number = none

instance
    (world : World)
    (number : Nat) :
    Decidable (world.Ended number) :=
  decidable_of_iff
    (number < world.transactions.length ∧ (world.transaction? number).isNone)
    (and_congr_right fun _ => Option.isNone_iff_eq_none)

variable
  {world changed : World}
  {number owner : Nat}

/-- Opening a transaction adds its place; no other step adds or removes one. -/
theorem length_step
    (world : World)
    (step : Step) :
    (world.step step).transactions.length =
      world.transactions.length + if step = .begin then 1 else 0 := by
  cases step with
  | begin =>
      simp [World.step, begin]
  | set owner key value =>
      cases isOpen : world.transaction? owner <;> simp [World.step, revise, isOpen]
  | delete owner key =>
      cases isOpen : world.transaction? owner <;> simp [World.step, revise, isOpen]
  | commit owner =>
      cases isOpen : world.transaction? owner <;> simp [World.step, commit, isOpen]
  | rollback owner =>
      cases isOpen : world.transaction? owner <;> simp [World.step, rollback, isOpen]

/-- Emptying a place ends the transaction that is open there, if one is. -/
theorem ended_of_emptied
    (sameLength : changed.transactions.length = world.transactions.length)
    (emptied :
      changed.transaction? number = if number = owner then none else world.transaction? number) :
    changed.Ended number ↔
      world.Ended number ∨ owner = number ∧ (world.transaction? number).isSome := by
  rw [Ended, sameLength, emptied]
  by_cases own : number = owner
  · subst own
    cases isOpen : world.transaction? number with
    | none =>
        simp [Ended, isOpen]
    | some transaction =>
        simp [Ended, isOpen, lt_of_open isOpen]
  · simp [Ended, own, Ne.symm own]

/-- The transactions that have ended are those that had, and the one that the step ends. -/
theorem ended_step_iff
    (world : World)
    (step : Step)
    (number : Nat) :
    (world.step step).Ended number ↔
      world.Ended number ∨ step.Ends number ∧ (world.transaction? number).isSome := by
  have length := length_step world step
  cases step with
  | begin =>
      by_cases isNext : number = world.transactions.length
      · simp [Ended, World.step, transaction?_begin, isNext, Step.Ends]
      · have given : number < world.begin.transactions.length ↔
            number < world.transactions.length := by
          simp only [World.step, if_true] at length
          omega
        simp [Ended, World.step, transaction?_begin, isNext, given, Step.Ends]
  | set owner key value =>
      by_cases own : number = owner <;>
        simp_all [Ended, World.step, transaction?_revise, Step.Ends]
  | delete owner key =>
      by_cases own : number = owner <;>
        simp_all [Ended, World.step, transaction?_revise, Step.Ends]
  | commit owner =>
      have ends : (Step.commit owner).Ends number ↔ owner = number := by
        simp [Step.Ends]
      rw [ends]
      exact ended_of_emptied length (transaction?_commit world owner number)
  | rollback owner =>
      have ends : (Step.rollback owner).Ends number ↔ owner = number := by
        simp [Step.Ends]
      rw [ends]
      exact ended_of_emptied length (transaction?_rollback world owner number)

/-- In the course of steps, each transaction that comes to its end is let go of once. -/
theorem releases_eq
    (number : Nat)
    (world : World)
    (steps : List Step) :
    world.releases number steps + (if world.Ended number then 1 else 0) =
      if (world.steps steps).Ended number then 1 else 0 := by
  induction steps generalizing world with
  | nil =>
      exact Nat.zero_add _
  | cons step rest inductionHypothesis =>
      have endedThen := ended_step_iff world step number
      have notTwice : ¬ (world.Ended number ∧ (world.transaction? number).isSome) := by
        rintro ⟨⟨-, closed⟩, isOpen⟩
        simp [closed] at isOpen
      rw [steps_cons, ← inductionHypothesis, releases]
      by_cases ends : step.Ends number ∧ (world.transaction? number).isSome
      · have notBefore : ¬ world.Ended number := fun ended => notTwice ⟨ended, ends.2⟩
        simp [ends, notBefore, endedThen, Nat.add_comm]
      · simp [ends, endedThen]

end World

/-- What the books of a store say of its readers, its versions and its commits. -/
structure Exact
    (world : World) :
    Prop where
  /-- A snapshot is counted if a transaction is open at it, and then as often as one is. -/
  counted :
    ∀ snapshot count,
      (snapshot, count) ∈ world.store.readers.entries ↔
        0 < count ∧ world.openAt snapshot = count
  stampsDistinct : (world.published.map Publication.stamp).Nodup
  writtenOnce : (world.published.flatMap Publication.places).Nodup
  versions :
    ∀ place,
      place ∈ world.store.places ↔ place ∈ world.published.flatMap Publication.places
  versionStamps : ∀ place ∈ world.store.places, 1 ≤ place.2 ∧ place.2 ≤ world.store.clock
  recentStamps : ∀ stamp ∈ world.store.recent.keys, 1 ≤ stamp ∧ stamp ≤ world.store.clock
  /-- The write sets of all commits that some open snapshot does not show are remembered. -/
  remembered :
    ∀ number transaction publication,
      world.transaction? number = some transaction →
        publication ∈ world.published →
          transaction.snapshot < publication.stamp →
            publication.remembered ∈ world.store.recent.entries

/-- One reader of a snapshot, which has one, is let go of, and no other reader. -/
structure LetsGo
    (snapshot : Nat)
    (before after : Store) :
    Prop where
  held : ∃ count, before.readers.find? snapshot = some (count + 1)
  released :
    ∀ other,
      after.readers.findD other 0 + (if other = snapshot then 1 else 0) =
        before.readers.findD other 0

/-- Writes go to places that nothing has been written to, and old write sets are forgotten. -/
structure PublishesAfresh
    (publication : Publication)
    (before after : World) :
    Prop where
  fresh : ∀ place ∈ publication.places, place ∉ before.store.places
  /-- Nothing is remembered that the oldest of the snapshots open before shows. -/
  pruned :
    ∃ number oldest,
      before.transaction? number = some oldest ∧
        (∀ other transaction,
          before.transaction? other = some transaction →
            oldest.snapshot ≤ transaction.snapshot) ∧
          ∀ stamp ∈ after.store.recent.keys, oldest.snapshot < stamp

/-- Publications that are numbered write to no place twice. -/
theorem Numbered.nodup_places
    {publications : List Publication}
    (numbered : Numbered publications) :
    (publications.flatMap Publication.places).Nodup := by
  refine List.nodup_flatMap.2 ⟨?_, ?_⟩
  · intro publication _
    refine publication.writes.nodup_keys.map ?_
    intro first second same
    exact (Prod.mk.inj same).1
  · refine numbered.ascending.imp ?_
    rintro first second before ⟨key, stamp⟩ ofFirst ofSecond
    have isFirst := (Publication.mem_places.1 ofFirst).1
    have isSecond := (Publication.mem_places.1 ofSecond).1
    omega

namespace Sound

variable
  {world : World}
  {number : Nat}
  {transaction : Transaction}
  {publication : Publication}
  {step : Step}

/-- The stamps of the publications are those from one up to the clock. -/
theorem stamp_within
    (sound : Sound world)
    (member : publication ∈ world.published) :
    1 ≤ publication.stamp ∧ publication.stamp ≤ world.store.clock := by
  refine ⟨?_, sound.clock ▸ sound.numbered.stamp_le member⟩
  have behindNone : publication ∈ world.published.drop 0 := member
  exact sound.numbered.lt_stamp_of_mem_drop behindNone

/-- The versions in the store are at the places that have been written to. -/
theorem mem_places
    (sound : Sound world)
    (place : Bytes × Nat) :
    place ∈ world.store.places ↔ place ∈ world.published.flatMap Publication.places := by
  obtain ⟨key, stamp⟩ := place
  rw [Store.mem_places, sound.histories, List.mem_flatMap]
  simp only [Publication.mem_places, versionsOf, List.mem_filterMap, List.mem_reverse]
  constructor
  · rintro ⟨version, ⟨publication, published, shape⟩, rfl⟩
    obtain ⟨value, written, rfl⟩ := Option.map_eq_some_iff.1 shape
    exact ⟨publication, published, rfl, value, written⟩
  · rintro ⟨publication, published, rfl, value, written⟩
    exact ⟨⟨publication.stamp, value⟩, ⟨publication, published, by rw [written]; rfl⟩, rfl⟩

/-- The readers of a snapshot are as many as there are transactions open at it. -/
theorem findD_readers
    (sound : Sound world)
    (snapshot : Nat) :
    world.store.readers.findD snapshot 0 = world.openAt snapshot := by
  rw [OrderedMap.findD, sound.readers, getD_tally]

theorem mem_readers
    (sound : Sound world)
    (snapshot count : Nat) :
    (snapshot, count) ∈ world.store.readers.entries ↔
      0 < count ∧ world.openAt snapshot = count := by
  rw [← OrderedMap.find?_eq_some_iff, sound.readers]
  cases world.openAt snapshot with
  | zero =>
      exact ⟨nofun, by omega⟩
  | succ others =>
      rw [tally_succ, Option.some.injEq]
      omega

/-- A remembered write set is that of a publication. -/
theorem mem_recent
    {stamp : Nat}
    (sound : Sound world)
    (member : stamp ∈ world.store.recent.keys) :
    ∃ publication ∈ world.published, publication.stamp = stamp := by
  obtain ⟨floor, retained⟩ := sound.retained
  rw [OrderedMap.keys, retained.recent, List.map_map] at member
  obtain ⟨publication, behind, isStamp⟩ := List.mem_map.1 member
  exact ⟨publication, List.mem_of_mem_drop behind, isStamp⟩

/-- What an open snapshot does not show has its write set remembered. -/
theorem remembered
    (sound : Sound world)
    (isOpen : world.transaction? number = some transaction)
    (published : publication ∈ world.published)
    (newer : transaction.snapshot < publication.stamp) :
    publication.remembered ∈ world.store.recent.entries := by
  obtain ⟨floor, retained⟩ := sound.retained
  have behindFloor := retained.openBehind isOpen
  rw [retained.recent]
  refine List.mem_map_of_mem ?_
  rw [← List.take_append_drop floor world.published, List.mem_append] at published
  rcases published with shown | behind
  · have older := sound.numbered.stamp_le_of_mem_take shown
    omega
  · exact behind

/-- Books that are in order are exact. -/
theorem exact
    (sound : Sound world) :
    Exact world where
  counted :=
    sound.mem_readers
  stampsDistinct :=
    List.pairwise_map.2 (sound.numbered.ascending.imp Nat.ne_of_lt)
  writtenOnce :=
    sound.numbered.nodup_places
  versions :=
    sound.mem_places
  versionStamps place member := by
    obtain ⟨publication, published, ofPublication⟩ :=
      List.mem_flatMap.1 ((sound.mem_places place).1 member)
    rw [(Publication.mem_places.1 ofPublication).1]
    exact sound.stamp_within published
  recentStamps stamp member := by
    obtain ⟨publication, published, rfl⟩ := sound.mem_recent member
    exact sound.stamp_within published
  remembered _ _ _ isOpen published newer :=
    sound.remembered isOpen published newer

/-- A step that ends a transaction takes it out of the open ones at its snapshot. -/
theorem openAt_step_of_ends
    (isOpen : world.transaction? number = some transaction)
    (ends : step.Ends number)
    (snapshot : Nat) :
    (world.step step).openAt snapshot + (if snapshot = transaction.snapshot then 1 else 0) =
      world.openAt snapshot := by
  have emptied : (world.step step).transactions = world.transactions.set number none := by
    rcases ends with rfl | rfl
    · simp [World.step, World.commit, isOpen]
    · simp [World.step, World.rollback, isOpen]
  have replaced :=
    World.countP_replaced none (World.transaction?_eq_some_iff.1 isOpen) snapshot
  rw [World.openAt, World.openAt, emptied]
  simpa [eq_comm] using replaced

/-- A step that ends a transaction lets go of its snapshot. -/
theorem letsGo
    (sound : Sound world)
    (soundThen : Sound (world.step step))
    (isOpen : world.transaction? number = some transaction)
    (ends : step.Ends number) :
    LetsGo transaction.snapshot world.store (world.step step).store where
  held := by
    obtain ⟨others, openThere⟩ :=
      Nat.exists_eq_succ_of_ne_zero (Nat.ne_of_gt (World.openAt_pos isOpen))
    exact ⟨others, by rw [sound.readers, openThere, tally_succ]⟩
  released snapshot := by
    rw [sound.findD_readers, soundThen.findD_readers]
    exact openAt_step_of_ends isOpen ends snapshot

/-- What a commit publishes are its writes under the next stamp. -/
theorem step_of_published
    (sound : Sound world)
    (bounded : (world.step (.commit number)).published.length ≤ lastStamp)
    (isOpen : world.transaction? number = some transaction)
    (success : (world.store.commit transaction).1 = .ok (some publication)) :
    publication.stamp = world.published.length + 1 ∧
      (world.step (.commit number)).published = world.published ++ [publication] ∧
        (world.step (.commit number)).store.recent =
          (world.store.publish publication).prune.recent := by
  rcases Store.commit_cases world.store transaction with
    ⟨-, result⟩ | ⟨-, -, result⟩ | ⟨-, -, result⟩
  · rw [result] at success
    cases success
  · rw [result] at success
    cases success
    have added :
        (world.step (.commit number)).published =
          world.published ++ [⟨nextStamp world.store.clock, transaction.writes⟩] := by
      simp [World.step, World.commit, isOpen, result, World.publication?]
    rw [added, List.length_append, List.length_singleton, ← sound.clock] at bounded
    refine ⟨?_, added, ?_⟩
    · rw [← sound.clock]
      exact Nat.min_eq_left bounded
    · simp [World.step, World.commit, isOpen, result]
  · rw [result] at success
    cases success

/-- A commit writes afresh, and forgets what every snapshot shows. -/
theorem publishesAfresh
    (sound : Sound world)
    (bounded : (world.step (.commit number)).published.length ≤ lastStamp)
    (isOpen : world.transaction? number = some transaction)
    (success : (world.store.commit transaction).1 = .ok (some publication)) :
    PublishesAfresh publication world (world.step (.commit number)) := by
  obtain ⟨next, added, recent⟩ := sound.step_of_published bounded isOpen success
  rw [added, List.length_append, List.length_singleton] at bounded
  constructor
  · rintro ⟨key, stamp⟩ ofPublication member
    have within := (sound.exact.versionStamps _ member).2
    rw [(Publication.mem_places.1 ofPublication).1, next, sound.clock] at within
    omega
  · obtain ⟨horizon, least, ⟨other, oldest, oldestOpen, rfl⟩, everyOpen⟩ := sound.horizon isOpen
    refine ⟨other, oldest, oldestOpen, fun _ _ laterOpen => everyOpen laterOpen, ?_⟩
    obtain ⟨floor, retained⟩ := sound.retained
    have kept :=
      sound.recent_prune retained next bounded least (retained.openBehind oldestOpen)
        (sound.snapshots oldestOpen)
    intro stamp member
    rw [recent, OrderedMap.keys, kept, List.map_map] at member
    obtain ⟨newer, behind, rfl⟩ := List.mem_map.1 member
    exact (sound.numbered.append next).lt_stamp_of_mem_drop behind

end Sound

/--
The books are exact.  In every world that steps lead to, a snapshot is counted as
often as transactions are open at it; stamps are given once, and so is each key
under each stamp; versions and remembered write sets have stamps that have been
given; and what an open snapshot does not show is remembered.  A transaction that
has ended has been let go of once, by the step that ended it, which found its
snapshot counted; one that has not ended has not been let go of.  A commit that
publishes writes to new places, and leaves nothing remembered that the oldest
snapshot shows.
-/
theorem books_are_exact
    {steps : List Step}
    (bounded : (run steps).published.length ≤ lastStamp) :
    Exact (run steps) ∧
      (∀ number,
        World.start.releases number steps = if (run steps).Ended number then 1 else 0) ∧
      ∀ earlier step later,
        steps = earlier ++ step :: later →
          ∀ number transaction,
            (run earlier).transaction? number = some transaction →
              (step.Ends number →
                LetsGo transaction.snapshot (run earlier).store ((run earlier).step step).store) ∧
              ∀ publication,
                step = .commit number →
                  ((run earlier).store.commit transaction).1 = .ok (some publication) →
                    PublishesAfresh publication (run earlier) ((run earlier).step step) := by
  refine ⟨(sound_run bounded).exact, ?_, ?_⟩
  · intro number
    have noneEnded : ¬ World.start.Ended number := by
      simp [World.Ended, World.start]
    have released := World.releases_eq number World.start steps
    rw [if_neg noneEnded] at released
    exact released
  · rintro earlier step later rfl number transaction isOpen
    have continued :
        run (earlier ++ step :: later) = ((run earlier).step step).steps later :=
      World.steps_append ..
    rw [continued] at bounded
    have boundedThen : ((run earlier).step step).published.length ≤ lastStamp :=
      Nat.le_trans (World.published_steps _ later).length_le bounded
    have sound : Sound (run earlier) :=
      sound_run (Nat.le_trans (World.published_step _ step).length_le boundedThen)
    constructor
    · intro ends
      exact sound.letsGo (sound.step boundedThen) isOpen ends
    · rintro publication rfl success
      exact sound.publishesAfresh boundedThen isOpen success

/-- A commit, a refusal and a reader that gives up let go of one snapshot each. -/
theorem books_after_refusal :
    let steps : List Step :=
      [.begin, .begin, .set 0 [1] [7], .commit 0, .begin, .delete 1 [1], .commit 1, .rollback 2,
        .rollback 1]
    (run steps).published.length ≤ lastStamp ∧
      Exact (run steps) ∧
        (∀ number < 3, World.start.releases number steps = 1) ∧
          LetsGo 0 (run (steps.take 6)).store (run (steps.take 7)).store := by
  intro steps
  have bounded : (run steps).published.length ≤ lastStamp := by
    decide
  obtain ⟨exact, released, goes⟩ := books_are_exact bounded
  refine ⟨bounded, exact, ?_, ?_⟩
  · intro number given
    rw [released number, if_pos]
    revert number
    decide
  · exact
      (goes (steps.take 6) (.commit 1) [.rollback 2, .rollback 1] rfl 1 _ rfl).1 (by decide)

end SecondaryIndex.Versioned
