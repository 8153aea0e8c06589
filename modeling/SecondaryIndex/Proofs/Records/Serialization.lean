import SecondaryIndex.Proofs.Records.Chronicle
import SecondaryIndex.Proofs.Records.Interleaving

namespace SecondaryIndex.Records

/-!
# Serializability

Commits compare writes only, and yet transactions whose operations take effect are
serializable, because such operations write what they read.  The scripts of the
committed transactions come to the same writes when they are carried out one after
the other, in the order in which they were committed: by then no key that a script
writes has changed since the snapshot of its transaction.
-/

open Versioned

variable
  {ι : Type}
  {catalog : Catalog ι}

/-- The sessions of some scripts go through and publish as given. -/
structure Serial
    (scripts : List (List (Operation catalog)))
    (published : List Publication) :
    Prop where
  effective : RecordWorld.admitsAll ⟨World.start, []⟩ (sessions scripts)
  unbroken : (chronicle (sessions scripts)).world.broken = []
  numbered : (chronicle (sessions scripts)).world.transactions.length = scripts.length
  committed : (chronicle (sessions scripts)).committed = scripts
  published : (chronicle (sessions scripts)).world.published = published

namespace Serial

variable
  {scripts : List (List (Operation catalog))}
  {published : List Publication}

theorem nil :
    Serial ([] : List (List (Operation catalog))) [] where
  effective :=
    rfl
  unbroken :=
    rfl
  numbered :=
    rfl
  committed :=
    rfl
  published :=
    rfl

/-- One more script comes to its writes if no key of these has changed meanwhile. -/
theorem snoc
    {base : Bytes → Option Bytes}
    {script : List (Operation catalog)}
    {writes : OrderedMap Bytes (Option Bytes)}
    (lawful : catalog.Lawful)
    (serial : Serial scripts published)
    (bounded : published.length ≤ lastStamp)
    (repeatable : Repeatable base script writes)
    (unchanged : ∀ key, (writes.find? key).isSome → Versioned.committed published key = base key) :
    Serial (scripts ++ [script]) (published ++ publications published.length writes) := by
  have sameWorld := world_chronicle (sessions scripts)
  have sound : Sound (chronicle (sessions scripts)).world.toWorld := by
    have boundedToo : (recordRun (sessions scripts)).published.length ≤ lastStamp := by
      rw [← sameWorld, serial.published]
      exact bounded
    rw [sameWorld]
    exact (Consistent.start.steps lawful boundedToo).sound
  have clock : (chronicle (sessions scripts)).world.store.clock = published.length := by
    rw [sound.clock, serial.published]
  have shows :
      (chronicle (sessions scripts)).world.begin.store.valueAt
          (chronicle (sessions scripts)).world.store.clock =
        Versioned.committed published := by
    have samePublished : (chronicle (sessions scripts)).world.begin.published = published :=
      serial.published
    rw [clock, sound.begin.valueAt, samePublished, List.take_length]
  have carriesOut :=
    repeatable (chronicle (sessions scripts)).world.begin.store
      (chronicle (sessions scripts)).world.store.clock
      fun key written => by rw [shows, unchanged key written]
  obtain ⟨publishes, unbroken, numbered, committed, admitted⟩ :=
    Chronicle.foldl_session sound serial.numbered.symm serial.unbroken carriesOut
  have continued :
      chronicle (sessions (scripts ++ [script])) =
        (session scripts.length script).foldl Chronicle.step (chronicle (sessions scripts)) := by
    rw [chronicle, sessions_append_singleton, List.foldl_append]
    rfl
  refine ⟨?_, ?_, ?_, ?_, ?_⟩
  · rw [sessions_append_singleton, RecordWorld.admitsAll_append, serial.effective, Bool.true_and]
    rw [sameWorld] at admitted
    exact admitted
  · rw [continued, unbroken]
  · rw [continued, numbered, List.length_append, List.length_singleton]
  · rw [continued, committed, serial.committed]
  · rw [continued, publishes, serial.published, clock]

end Serial

/--
The world is consistent, the scripts account for what the open transactions have
written, and the sessions of the committed scripts publish what has been published.
-/
structure Accounted
    (chronicle : Chronicle catalog) :
    Prop where
  consistent : Consistent catalog chronicle.world
  repeatable :
    ∀ {number : Nat} {transaction : Transaction},
      chronicle.world.transaction? number = some transaction →
        number ∉ chronicle.world.broken →
          Repeatable (committed (chronicle.world.published.take transaction.snapshot))
            (chronicle.scripts number) transaction.writes
  serial : Serial chronicle.committed chronicle.world.published

namespace Accounted

variable {chronicle : Chronicle catalog}

theorem start :
    Accounted (Chronicle.start : Chronicle catalog) where
  consistent :=
    .start
  repeatable isOpen := by
    cases isOpen
  serial :=
    .nil

/-- What is published later does not concern the scripts of those who are open. -/
theorem repeatable_of_prefix
    {number : Nat}
    {transaction : Transaction}
    {later : List Publication}
    (accounted : Accounted chronicle)
    (isOpen : chronicle.world.transaction? number = some transaction)
    (unbroken : number ∉ chronicle.world.broken)
    (grown : chronicle.world.published <+: later) :
    Repeatable (committed (later.take transaction.snapshot)) (chronicle.scripts number)
      transaction.writes := by
  obtain ⟨added, rfl⟩ := grown
  rw [List.take_append_of_le_length (accounted.consistent.sound.snapshots isOpen)]
  exact accounted.repeatable isOpen unbroken

/-- A transaction is opened with an empty script. -/
theorem repeatable_begin
    {number : Nat}
    {transaction : Transaction}
    (accounted : Accounted chronicle)
    (isOpen : chronicle.world.begin.transaction? number = some transaction)
    (unbroken : number ∉ chronicle.world.broken) :
    Repeatable (committed (chronicle.world.published.take transaction.snapshot))
      (Function.update chronicle.scripts chronicle.world.transactions.length [] number)
      transaction.writes := by
  rw [World.transaction?_begin] at isOpen
  split at isOpen
  next isNew =>
    cases isOpen
    rw [isNew, Function.update_self]
    exact .nil
  next different =>
    rw [Function.update_of_ne different]
    exact accounted.repeatable isOpen unbroken

/-- An operation that succeeds, and takes effect, goes on with its script. -/
theorem repeatable_operate
    {number other : Nat}
    {operation : Operation catalog}
    {later : Transaction}
    (lawful : catalog.Lawful)
    (accounted : Accounted chronicle)
    (admits : chronicle.world.admits (.operate number operation))
    (isOpen : (chronicle.world.operate number operation).transaction? other = some later)
    (unbroken : other ∉ (chronicle.world.operate number operation).broken) :
    Repeatable (committed (chronicle.world.published.take later.snapshot))
      ((chronicle.step (.operate number operation)).scripts other) later.writes := by
  obtain ⟨wasUnbroken, ⟨different, wasOpen⟩ | ⟨rfl, before, wasOpen, success⟩⟩ :=
    RecordWorld.open_of_operate isOpen unbroken
  · have sameScript :
        (chronicle.step (.operate number operation)).scripts other = chronicle.scripts other := by
      simp only [Chronicle.step]
      split
      · exact Function.update_of_ne different ..
      · rfl
    rw [sameScript]
    exact accounted.repeatable wasOpen wasUnbroken
  · have itsScript :
        (chronicle.step (.operate other operation)).scripts other =
          chronicle.scripts other ++ [operation] := by
      simp [Chronicle.step, wasOpen]
    have effective : operation.isEffective (before.get chronicle.world.store) := by
      simpa [RecordWorld.admits, wasOpen, wasUnbroken, success, Except.isOk, Except.toBool]
        using admits
    have sameSnapshot : later.snapshot = before.snapshot := by
      have kept :
          (outcome (operation.action chronicle.world.store) before).2.snapshot = before.snapshot :=
        snapshot_operation operation before
      rw [success] at kept
      exact kept
    rw [itsScript, sameSnapshot]
    apply Repeatable.snoc lawful (accounted.consistent.views wasOpen wasUnbroken)
      (accounted.repeatable wasOpen wasUnbroken) ?_ effective success
    intro key
    rw [accounted.consistent.sound.valueAt]

/-- A commit that gets through publishes what one more session does. -/
theorem serial_commit
    {number : Nat}
    (lawful : catalog.Lawful)
    (accounted : Accounted chronicle)
    (bounded : chronicle.world.published.length ≤ lastStamp)
    (commits : chronicle.world.commits number) :
    Serial (chronicle.committed ++ [chronicle.scripts number])
      (chronicle.world.toWorld.commit number).published := by
  obtain ⟨transaction, publication, isOpen, unbroken, success⟩ := RecordWorld.commits_iff.1 commits
  have sound := accounted.consistent.sound
  rw [published_of_commit isOpen success, sound.clock]
  refine accounted.serial.snoc lawful bounded (accounted.repeatable isOpen unbroken) ?_
  intro key written
  have unchanged := (sound.no_lost_update isOpen success written).2
  rw [sound.valueAt, sound.valueAt, sound.clock, List.take_length] at unchanged
  exact unchanged

theorem serial_step
    {step : RecordStep catalog}
    (lawful : catalog.Lawful)
    (accounted : Accounted chronicle)
    (bounded : chronicle.world.published.length ≤ lastStamp) :
    Serial (chronicle.step step).committed (chronicle.step step).world.published := by
  cases step with
  | begin =>
      exact accounted.serial
  | operate number operation =>
      rw [Chronicle.world_step, RecordWorld.step, RecordWorld.published_operate]
      exact accounted.serial
  | commit number =>
      rw [Chronicle.world_step]
      by_cases commits : chronicle.world.commits number
      · have added :
            (chronicle.step (.commit number)).committed =
              chronicle.committed ++ [chronicle.scripts number] :=
          if_pos commits
        rw [added, RecordWorld.step_of_commits commits]
        exact accounted.serial_commit lawful bounded commits
      · have unchanged : (chronicle.step (.commit number)).committed = chronicle.committed :=
          if_neg commits
        rw [unchanged, RecordWorld.published_of_not_commits commits]
        exact accounted.serial
  | rollback number =>
      rw [Chronicle.world_step]
      simp only [RecordWorld.step, World.published_rollback]
      exact accounted.serial

theorem step
    {step : RecordStep catalog}
    (lawful : catalog.Lawful)
    (accounted : Accounted chronicle)
    (admits : chronicle.world.admits step)
    (bounded : (chronicle.world.step step).published.length ≤ lastStamp) :
    Accounted (chronicle.step step) where
  consistent := by
    rw [Chronicle.world_step]
    exact accounted.consistent.step lawful.keeps_agrees bounded
  repeatable {number transaction} isOpen unbroken := by
    have grown := RecordWorld.published_step chronicle.world step
    cases step with
    | begin =>
        exact accounted.repeatable_begin isOpen unbroken
    | operate number operation =>
        rw [Chronicle.world_step, RecordWorld.step] at *
        rw [RecordWorld.published_operate]
        exact accounted.repeatable_operate lawful admits isOpen unbroken
    | commit other =>
        rw [Chronicle.world_step] at isOpen unbroken ⊢
        rw [RecordWorld.broken_commit] at unbroken
        exact accounted.repeatable_of_prefix (RecordWorld.open_of_commit isOpen) unbroken grown
    | rollback other =>
        exact accounted.repeatable_of_prefix (World.open_of_rollback isOpen) unbroken grown
  serial := by
    have grown := RecordWorld.published_step chronicle.world step
    exact accounted.serial_step lawful (Nat.le_trans grown.length_le bounded)

/-- After every step of a run, the sessions of the committed scripts publish the same. -/
theorem steps
    {steps : List (RecordStep catalog)}
    (lawful : catalog.Lawful)
    (accounted : Accounted chronicle)
    (admits : chronicle.world.admitsAll steps)
    (bounded : (steps.foldl RecordWorld.step chronicle.world).published.length ≤ lastStamp) :
    Accounted (steps.foldl Chronicle.step chronicle) := by
  induction steps generalizing chronicle with
  | nil =>
      exact accounted
  | cons step rest inductionHypothesis =>
      rw [RecordWorld.admitsAll, Bool.and_eq_true] at admits
      obtain ⟨admitsFirst, admitsRest⟩ := admits
      have grown := prefix_foldl RecordWorld.published_step (chronicle.world.step step) rest
      have stepBounded := Nat.le_trans grown.length_le bounded
      rw [← Chronicle.world_step] at admitsRest
      apply inductionHypothesis (accounted.step lawful admitsFirst stepBounded) admitsRest
      rw [Chronicle.world_step]
      exact bounded

end Accounted

/--
Transactions whose operations take effect are serializable.  Take any run in which
every operation, unless it fails, finds a record or none as it expects.  If the
scripts of the committed transactions are carried out one after the other, each in
a transaction of its own, in the order in which they were committed, then all
operations take effect, no operation fails, all commits get through, and the map
that is committed in the end is the same.
-/
theorem serializable
    {steps : List (RecordStep catalog)}
    (lawful : catalog.Lawful)
    (bounded : (recordRun steps).published.length ≤ lastStamp)
    (effective : RecordWorld.admitsAll ⟨World.start, []⟩ steps) :
    let scripts := (chronicle steps).committed
    let serial := recordRun (sessions scripts)
    RecordWorld.admitsAll ⟨World.start, []⟩ (sessions scripts) ∧
      serial.broken = [] ∧
        (chronicle (sessions scripts)).committed = scripts ∧
          serial.store.begin.1.get serial.store.begin.2 =
            (recordRun steps).store.begin.1.get (recordRun steps).store.begin.2 := by
  have accounted : Accounted (chronicle steps) :=
    Accounted.start.steps lawful effective bounded
  have serial := accounted.serial
  have samePublished :
      (recordRun (sessions (chronicle steps).committed)).published =
        (recordRun steps).published := by
    rw [← world_chronicle, ← world_chronicle, serial.published]
  have boundedToo :
      (recordRun (sessions (chronicle steps).committed)).published.length ≤ lastStamp := by
    rw [samePublished]
    exact bounded
  have consistent : Consistent catalog (recordRun steps) :=
    Consistent.start.steps lawful bounded
  have consistentToo : Consistent catalog (recordRun (sessions (chronicle steps).committed)) :=
    Consistent.start.steps lawful boundedToo
  refine ⟨serial.effective, ?_, serial.committed, ?_⟩
  · rw [← world_chronicle, serial.unbroken]
  · rw [consistent.sound.get_begin, consistentToo.sound.get_begin, samePublished]

/-- Transactions that overlap: the second one commits first, and the third one is refused. -/
def overlapping :
    List (RecordStep initials) :=
  [.begin, .begin, .begin, .operate 0 (.insert () [1] [7]), .operate 1 (.insert () [2] [8]),
    .operate 2 (.insert () [3] [7, 7]), .operate 1 (.update () [2] [9]), .commit 1, .commit 0,
    .commit 2, .begin, .operate 3 (.remove () [1]), .commit 3]

theorem serializable_overlapping :
    initials.Lawful ∧
      (recordRun overlapping).published.length ≤ lastStamp ∧
        RecordWorld.admitsAll ⟨World.start, []⟩ overlapping ∧
          (chronicle overlapping).committed.map List.length = [2, 1, 1] ∧
            let serial := recordRun (sessions (chronicle overlapping).committed)
            serial.broken = [] ∧
              serial.store.begin.1.get serial.store.begin.2 =
                (recordRun overlapping).store.begin.1.get
                  (recordRun overlapping).store.begin.2 := by
  have bounded : (recordRun overlapping).published.length ≤ lastStamp := by
    decide +kernel
  have effective : RecordWorld.admitsAll ⟨World.start, []⟩ overlapping := by
    decide +kernel
  have scripts : (chronicle overlapping).committed.map List.length = [2, 1, 1] := by
    decide +kernel
  obtain ⟨-, unbroken, -, sameMap⟩ := serializable initials_lawful bounded effective
  exact ⟨initials_lawful, bounded, effective, scripts, unbroken, sameMap⟩

/-- Transactions that each look in vain for the record that the other one inserts. -/
def crossing :
    List (RecordStep initials) :=
  [.begin, .begin, .operate 0 (.update () [1] [7]), .operate 1 (.update () [2] [8]),
    .operate 0 (.insert () [2] [9]), .operate 1 (.insert () [1] [6]), .commit 0, .commit 1]

/-- Operations that take no effect read keys that they do not write, and may fail to serialize. -/
example :
    let serial := recordRun (sessions (chronicle crossing).committed)
    serial.store.begin.1.entries serial.store.begin.2 ≠
      (recordRun crossing).store.begin.1.entries (recordRun crossing).store.begin.2 := by
  decide +kernel

end SecondaryIndex.Records
