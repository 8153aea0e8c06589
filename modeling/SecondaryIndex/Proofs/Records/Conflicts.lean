import SecondaryIndex.Proofs.Records.Chronicle
import SecondaryIndex.Proofs.Records.Interleaving
import SecondaryIndex.Proofs.Records.WriteSets

namespace SecondaryIndex.Records

/-!
# Conflicts between transactions on records

A transaction that carries out a script writes what the script touches, on
whatever store it has been opened, as long as the entries there agree with the
records.  If of two such transactions one has committed since the other was
opened, and no third one has, then the other one is refused exactly if they have
touched a key in common, and it is refused on just the keys in common.
-/

open Versioned

variable
  {ι : Type}
  {catalog : Catalog ι}

namespace RecordStep

/-- Whether a step ends a transaction. -/
def Ends
    (number : Nat) :
    RecordStep catalog → Prop
  | .commit other =>
      other = number
  | .rollback other =>
      other = number
  | _ =>
      False

instance
    (number : Nat)
    (step : RecordStep catalog) :
    Decidable (step.Ends number) :=
  match step with
  | .begin => inferInstanceAs (Decidable False)
  | .operate _ _ => inferInstanceAs (Decidable False)
  | .commit other => inferInstanceAs (Decidable (other = number))
  | .rollback other => inferInstanceAs (Decidable (other = number))

/-- The operations of a transaction in a row of steps. -/
def operationsOf
    (number : Nat)
    (steps : List (RecordStep catalog)) :
    List (Operation catalog) :=
  steps.filterMap fun step =>
    match step with
    | .operate other operation => if other = number then some operation else none
    | _ => none

end RecordStep

namespace RecordWorld

/-- Whether a step takes effect if it is an operation of a transaction. -/
def takesEffect
    (world : RecordWorld)
    (number : Nat) :
    RecordStep catalog → Bool
  | .operate other operation =>
      other ≠ number ||
        (world.transaction? number).all fun transaction =>
          operation.isEffective (transaction.get world.store)
  | _ =>
      true

/-- Whether each operation of a transaction, when its turn comes, takes effect. -/
def takesEffectAll
    (world : RecordWorld)
    (number : Nat) :
    List (RecordStep catalog) → Bool
  | [] =>
      true
  | step :: rest =>
      world.takesEffect number step && (world.step step).takesEffectAll number rest

end RecordWorld

/-- A transaction that has come to what its script makes of a published map. -/
structure Follows
    (world : RecordWorld)
    (number : Nat)
    (base : List Publication)
    (script : List (Operation catalog)) :
    Prop where
  sound : Sound world.toWorld
  grown : base <+: world.published
  isOpen :
    ∃ transaction,
      world.transaction? number = some transaction ∧
        transaction.snapshot = base.length ∧
          (number ∉ world.broken →
            catalog.Agrees (transaction.get world.store) ∧
              Repeatable (committed base) script transaction.writes)

section Running

variable
  {world : RecordWorld}
  {number : Nat}
  {base : List Publication}
  {script : List (Operation catalog)}

/-- The books stay in order, whatever is carried out on records. -/
theorem RecordWorld.sound_steps
    {steps : List (RecordStep catalog)}
    (sound : Sound world.toWorld)
    (bounded : (steps.foldl RecordWorld.step world).published.length ≤ lastStamp) :
    Sound (steps.foldl RecordWorld.step world).toWorld := by
  have keeps : catalog.Keeps fun _ => True :=
    ⟨trivial, fun _ _ => trivial, fun _ _ _ _ => trivial⟩
  have kept : Kept (fun _ => True) world :=
    ⟨sound, fun _ => trivial, fun _ _ => trivial⟩
  exact (kept.steps keeps bounded).sound

theorem RecordWorld.sound_step
    {step : RecordStep catalog}
    (sound : Sound world.toWorld)
    (bounded : (world.step step).published.length ≤ lastStamp) :
    Sound (world.step step).toWorld := by
  have boundedToo : ([step].foldl RecordWorld.step world).published.length ≤ lastStamp :=
    bounded
  exact RecordWorld.sound_steps sound boundedToo

/-- A transaction that is not broken after a step has not been broken before. -/
theorem RecordWorld.unbroken_of_step
    {step : RecordStep catalog}
    (unbroken : number ∉ (world.step step).broken) :
    number ∉ world.broken := by
  cases step with
  | begin =>
      exact unbroken
  | operate other operation =>
      rw [RecordWorld.step, RecordWorld.operate] at unbroken
      split at unbroken
      · exact unbroken
      · dsimp only at unbroken
        split at unbroken
        · exact unbroken
        · exact fun isBroken => unbroken (.tail _ isBroken)
  | commit other =>
      rw [RecordWorld.broken_commit] at unbroken
      exact unbroken
  | rollback other =>
      exact unbroken

/-- An operation leaves its transaction open, and all others as they are. -/
theorem RecordWorld.transaction?_operate
    (world : RecordWorld)
    (number : Nat)
    (operation : Operation catalog)
    (other : Nat) :
    (world.operate number operation).transaction? other =
      if other = number then
        (world.transaction? number).map fun transaction =>
          (outcome (operation.action world.store) transaction).2
      else
        world.transaction? other := by
  rw [operate]
  split
  next notOpen =>
    by_cases same : other = number
    · rw [if_pos same, same, notOpen]
      rfl
    · rw [if_neg same]
  next =>
    exact World.transaction?_revise ..

namespace Follows

/-- A transaction is opened with an empty script. -/
theorem begin
    (sound : Sound world.toWorld)
    (agrees : catalog.Agrees (committed world.published)) :
    Follows (world.step (.begin : RecordStep catalog)) world.transactions.length world.published
      ([] : List (Operation catalog)) where
  sound :=
    sound.begin
  grown :=
    List.prefix_refl _
  isOpen := by
    refine ⟨⟨world.store.clock, .empty⟩, ?_, sound.clock, ?_⟩
    · have opened := World.transaction?_begin world.toWorld world.transactions.length
      rw [if_pos rfl] at opened
      exact opened
    · intro _
      refine ⟨?_, .nil⟩
      show catalog.Agrees (world.store.begin.1.get world.store.begin.2)
      rw [sound.get_begin]
      exact agrees

theorem shows
    (follows : Follows world number base script) :
    world.store.valueAt base.length = committed base := by
  rw [follows.sound.valueAt, ← List.prefix_iff_eq_take.1 follows.grown]

/-- A step that leaves a transaction as it is leaves it where its script leads. -/
theorem of_unchanged
    {step : RecordStep catalog}
    (follows : Follows world number base script)
    (bounded : (world.step step).published.length ≤ lastStamp)
    (silent : RecordStep.operationsOf number [step] = [])
    (unchanged :
      ∀ {transaction},
        world.transaction? number = some transaction →
          (world.step step).transaction? number = some transaction) :
    Follows (world.step step) number base (script ++ RecordStep.operationsOf number [step]) where
  sound :=
    RecordWorld.sound_step follows.sound bounded
  grown :=
    follows.grown.trans (RecordWorld.published_step world step)
  isOpen := by
    obtain ⟨transaction, isOpen, isSnapshot, leads⟩ := follows.isOpen
    refine ⟨transaction, unchanged isOpen, isSnapshot, ?_⟩
    intro unbroken
    rw [silent, List.append_nil,
      follows.sound.get_eq_of_prefix (RecordWorld.sound_step follows.sound bounded)
        (RecordWorld.published_step world step) (follows.sound.snapshots isOpen)]
    exact leads (RecordWorld.unbroken_of_step unbroken)

/-- An operation that takes effect goes on with the script of its transaction. -/
theorem operate
    {operation : Operation catalog}
    (lawful : catalog.Lawful)
    (follows : Follows world number base script)
    (bounded : (world.step (.operate number operation)).published.length ≤ lastStamp)
    (effective :
      ∀ transaction,
        world.transaction? number = some transaction →
          operation.isEffective (transaction.get world.store)) :
    Follows (world.step (.operate number operation)) number base (script ++ [operation]) where
  sound :=
    RecordWorld.sound_step follows.sound bounded
  grown :=
    follows.grown.trans (RecordWorld.published_step world _)
  isOpen := by
    obtain ⟨before, wasOpen, isSnapshot, leads⟩ := follows.isOpen
    have isOpenThen := RecordWorld.transaction?_operate world number operation number
    rw [if_pos rfl, wasOpen, Option.map_some] at isOpenThen
    have sameSnapshot :
        (outcome (operation.action world.store) before).2.snapshot = before.snapshot :=
      snapshot_operation operation before
    refine ⟨_, isOpenThen, sameSnapshot.trans isSnapshot, ?_⟩
    intro unbroken
    obtain ⟨agrees, repeatable⟩ := leads (RecordWorld.unbroken_of_step unbroken)
    obtain ⟨-, ⟨different, -⟩ | ⟨-, _, wasOpenToo, success⟩⟩ :=
      RecordWorld.open_of_operate isOpenThen unbroken
    · exact absurd rfl different
    · cases wasOpen.symm.trans wasOpenToo
      rw [RecordWorld.step, RecordWorld.store_operate]
      refine ⟨agrees_operation lawful agrees success, ?_⟩
      apply Repeatable.snoc lawful agrees repeatable ?_ (effective before wasOpen) success
      intro key
      rw [isSnapshot, follows.shows]

theorem step
    {step : RecordStep catalog}
    (lawful : catalog.Lawful)
    (follows : Follows world number base script)
    (bounded : (world.step step).published.length ≤ lastStamp)
    (goesOn : ¬ step.Ends number)
    (effective : world.takesEffect number step) :
    Follows (world.step step) number base (script ++ RecordStep.operationsOf number [step]) := by
  cases step with
  | begin =>
      apply follows.of_unchanged bounded rfl
      intro transaction isOpen
      have given : number ≠ world.transactions.length :=
        Nat.ne_of_lt (World.lt_of_open isOpen)
      have standing := World.transaction?_begin world.toWorld number
      rw [if_neg given, isOpen] at standing
      exact standing
  | operate other operation =>
      by_cases same : other = number
      · subst same
        have itsOperations :
            RecordStep.operationsOf other [.operate other operation] = [operation] := by
          simp [RecordStep.operationsOf]
        rw [itsOperations]
        apply follows.operate lawful bounded
        intro transaction isOpen
        simpa [RecordWorld.takesEffect, isOpen] using effective
      · apply follows.of_unchanged bounded (by simp [RecordStep.operationsOf, same])
        intro transaction isOpen
        rw [RecordWorld.step, RecordWorld.transaction?_operate, if_neg (Ne.symm same)]
        exact isOpen
  | commit other =>
      apply follows.of_unchanged bounded rfl
      intro transaction isOpen
      rw [RecordWorld.step]
      split
      · exact isOpen
      · have standing := World.transaction?_commit world.toWorld other number
        rw [if_neg (Ne.symm goesOn), isOpen] at standing
        exact standing
  | rollback other =>
      apply follows.of_unchanged bounded rfl
      intro transaction isOpen
      have standing := World.transaction?_rollback world.toWorld other number
      rw [if_neg (Ne.symm goesOn), isOpen] at standing
      exact standing

/-- In a run, a transaction comes to where its operations lead. -/
theorem steps
    {steps : List (RecordStep catalog)}
    (lawful : catalog.Lawful)
    (follows : Follows world number base script)
    (bounded : (steps.foldl RecordWorld.step world).published.length ≤ lastStamp)
    (goesOn : ∀ step ∈ steps, ¬ step.Ends number)
    (effective : world.takesEffectAll number steps) :
    Follows (steps.foldl RecordWorld.step world) number base
      (script ++ RecordStep.operationsOf number steps) := by
  induction steps generalizing world script with
  | nil =>
      rw [RecordStep.operationsOf, List.filterMap_nil, List.append_nil]
      exact follows
  | cons step rest inductionHypothesis =>
      obtain ⟨goesOnFirst, goesOnRest⟩ := List.forall_mem_cons.1 goesOn
      rw [RecordWorld.takesEffectAll, Bool.and_eq_true] at effective
      obtain ⟨effectiveFirst, effectiveRest⟩ := effective
      have grown := prefix_foldl RecordWorld.published_step (world.step step) rest
      have stepBounded := Nat.le_trans grown.length_le bounded
      have goes :=
        inductionHypothesis (follows.step lawful stepBounded goesOnFirst effectiveFirst) bounded
          goesOnRest effectiveRest
      rw [List.append_assoc] at goes
      have split :
          RecordStep.operationsOf number [step] ++ RecordStep.operationsOf number rest =
            RecordStep.operationsOf number (step :: rest) :=
        List.filterMap_append.symm
      rw [split] at goes
      exact goes

/-- A transaction that is not broken has carried out its script on its snapshot. -/
theorem carriesOut
    (follows : Follows world number base script)
    (unbroken : number ∉ world.broken) :
    ∃ transaction,
      world.transaction? number = some transaction ∧
        transaction.snapshot = base.length ∧
          CarriesOut world.store ⟨base.length, .empty⟩ script transaction := by
  obtain ⟨⟨snapshot, writes⟩, isOpen, rfl, leads⟩ := follows.isOpen
  refine ⟨_, isOpen, rfl, ?_⟩
  apply (leads unbroken).2 world.store base.length
  intro key _
  rw [follows.shows]

end Follows

end Running

/-- The clashes with one more publication are the keys that both have written. -/
theorem clashes_publications
    (transaction : Transaction)
    (clock : Nat)
    (writes : OrderedMap Bytes (Option Bytes)) :
    (∀ key,
      key ∈ transaction.clashes (publications clock writes) ↔
        (writes.find? key).isSome ∧ transaction.Wrote key) ∧
      (transaction.clashes (publications clock writes)).Nodup := by
  rw [publications]
  split
  next noWrites =>
    refine ⟨?_, .nil⟩
    intro key
    simp [Transaction.clashes, OrderedMap.find?_of_isEmpty noWrites]
  next =>
    refine ⟨?_, ?_⟩
    · intro key
      simp [Transaction.mem_clashes, Transaction.Wrote]
    · simp only [Transaction.clashes, List.flatMap_singleton]
      exact writes.nodup_keys.filter _

/-- With one publication since its snapshot, a transaction conflicts on what both have written. -/
theorem conflicts_of_publications
    {world : World}
    {number : Nat}
    {transaction : Transaction}
    {earlier : List Publication}
    {clock : Nat}
    {writes : OrderedMap Bytes (Option Bytes)}
    (sound : Sound world)
    (isOpen : world.transaction? number = some transaction)
    (isSnapshot : transaction.snapshot = earlier.length)
    (published : world.published = earlier ++ publications clock writes) :
    (∀ key,
      key ∈ world.store.conflicts transaction ↔
        (writes.find? key).isSome ∧ transaction.Wrote key) ∧
      (world.store.conflicts transaction).Nodup := by
  rw [sound.conflicts isOpen, published, isSnapshot, List.drop_left]
  exact clashes_publications transaction clock writes

/--
A transaction that is opened after some steps, on a map in which entries and records
agree, and that has gone on since: its operations have taken effect, and none has failed.
-/
structure Engages
    (start : RecordWorld)
    (earlier since : List (RecordStep catalog))
    (number : Nat) :
    Prop where
  isNext : number = (earlier.foldl RecordWorld.step start).transactions.length
  agrees :
    catalog.Agrees
      ((earlier.foldl RecordWorld.step start).store.begin.1.get
        (earlier.foldl RecordWorld.step start).store.begin.2)
  goesOn : ∀ step ∈ since, ¬ step.Ends number
  effective :
    ((earlier.foldl RecordWorld.step start).step (.begin : RecordStep catalog)).takesEffectAll
      number since
  unbroken : number ∉ ((earlier ++ .begin :: since).foldl RecordWorld.step start).broken

/-- What a transaction has come to that is engaged in operations on records. -/
theorem Engages.reaches
    {start : RecordWorld}
    {earlier since : List (RecordStep catalog)}
    {number : Nat}
    (lawful : catalog.Lawful)
    (sound : Sound start.toWorld)
    (bounded :
      ((earlier ++ .begin :: since).foldl RecordWorld.step start).published.length ≤ lastStamp)
    (engages : Engages start earlier since number) :
    ∃ transaction,
      ((earlier ++ .begin :: since).foldl RecordWorld.step start).transaction? number =
          some transaction ∧
        transaction.snapshot = (earlier.foldl RecordWorld.step start).published.length ∧
          ∀ key,
            transaction.Wrote key ↔
              Touched ((earlier ++ .begin :: since).foldl RecordWorld.step start).store
                ⟨transaction.snapshot, .empty⟩ (RecordStep.operationsOf number since) key := by
  have unbroken := engages.unbroken
  rw [List.foldl_append, List.foldl_cons] at bounded unbroken ⊢
  have opened :=
    prefix_foldl RecordWorld.published_step (earlier.foldl RecordWorld.step start)
      (.begin :: since)
  have soundThen : Sound (earlier.foldl RecordWorld.step start).toWorld :=
    RecordWorld.sound_steps sound (Nat.le_trans opened.length_le bounded)
  have agrees := engages.agrees
  rw [soundThen.get_begin] at agrees
  have begins := Follows.begin soundThen agrees
  rw [← engages.isNext] at begins
  have follows := begins.steps lawful bounded engages.goesOn engages.effective
  rw [List.nil_append] at follows
  obtain ⟨transaction, isOpen, isSnapshot, carries⟩ := follows.carriesOut unbroken
  refine ⟨transaction, isOpen, isSnapshot, ?_⟩
  intro key
  rw [isSnapshot]
  apply wrote_iff_touched_of_snapshot lawful ?_ carries
  rw [follows.shows]
  exact agrees

/--
Transactions on records conflict on the records and entries that they share.  On any
store, and from any snapshot in which entries and records agree, a script of operations
that take effect writes the keys of the records that it operates on and the entries of
their old and new records, and nothing else.  Take any history of a store, and in a run
that goes on from there two transactions on records, both open when the first of them
commits.  If nothing else is published from the opening of either of them until the other
one is to commit, then the first commit gets through, and the second one is refused
exactly if both have touched a key, and on just the keys that both have touched.
-/
theorem conflicts_are_shared
    (lawful : catalog.Lawful) :
    (∀ (store : Store) (snapshot : Nat) (script : List (Operation catalog)) (after : Transaction)
        (key : Bytes),
      catalog.Agrees (store.valueAt snapshot) →
        CarriesOut store ⟨snapshot, .empty⟩ script after →
          (after.Wrote key ↔ Touched store ⟨snapshot, .empty⟩ script key)) ∧
    ∀ (history : List Step)
      (steps earlierOne sinceOne earlierOther sinceOther between : List (RecordStep catalog))
      (one other : Nat),
      let start : RecordWorld := ⟨run history, []⟩
      let atOne := steps.foldl RecordWorld.step start
      let atOther := (steps ++ .commit one :: between).foldl RecordWorld.step start
      atOther.published.length ≤ lastStamp →
        steps = earlierOne ++ .begin :: sinceOne →
        steps = earlierOther ++ .begin :: sinceOther →
        Engages start earlierOne sinceOne one →
        Engages start earlierOther (sinceOther ++ .commit one :: between) other →
        atOne.published = (earlierOne.foldl RecordWorld.step start).published →
        atOne.published = (earlierOther.foldl RecordWorld.step start).published →
        atOther.published = (atOne.step (.commit one : RecordStep catalog)).published →
          ∃ first second,
            atOne.transaction? one = some first ∧
            atOther.transaction? other = some second ∧
            let touchedByOne :=
              Touched atOne.store ⟨first.snapshot, .empty⟩ (RecordStep.operationsOf one sinceOne)
            let touchedByOther :=
              Touched atOther.store ⟨second.snapshot, .empty⟩
                (RecordStep.operationsOf other (sinceOther ++ .commit one :: between))
            (∀ key, first.Wrote key ↔ touchedByOne key) ∧
            (∀ key, second.Wrote key ↔ touchedByOther key) ∧
            (∃ publication, (atOne.store.commit first).1 = .ok publication) ∧
            ((∃ conflict, (atOther.store.commit second).1 = .error conflict) ↔
              ∃ key, touchedByOne key ∧ touchedByOther key) ∧
            ∀ conflict,
              (atOther.store.commit second).1 = .error conflict →
                conflict.keys.Nodup ∧
                  ∀ key, key ∈ conflict.keys ↔ touchedByOne key ∧ touchedByOther key := by
  refine ⟨fun _ _ _ _ _ agrees carries => wrote_iff_touched_of_snapshot lawful agrees carries, ?_⟩
  intro history steps earlierOne sinceOne earlierOther sinceOther between one other start atOne
    atOther bounded isOne isOther engagesOne engagesOther sameOne sameOther onlyOne
  have goesOn : atOther = (RecordStep.commit one :: between).foldl RecordWorld.step atOne :=
    List.foldl_append
  have grownOne : atOne.published <+: atOther.published := by
    rw [goesOn]
    exact prefix_foldl RecordWorld.published_step atOne _
  have boundedOne : atOne.published.length ≤ lastStamp :=
    Nat.le_trans grownOne.length_le bounded
  have soundStart : Sound start.toWorld := by
    have grown : start.published <+: atOne.published :=
      prefix_foldl RecordWorld.published_step start steps
    exact sound_run (Nat.le_trans grown.length_le boundedOne)
  have soundOne : Sound atOne.toWorld :=
    RecordWorld.sound_steps soundStart boundedOne
  have soundOther : Sound atOther.toWorld :=
    RecordWorld.sound_steps soundStart bounded
  have unbroken := engagesOne.unbroken
  -- Both have come to what their scripts make of the map published before the first commit.
  have reachesOne := engagesOne.reaches lawful soundStart (isOne ▸ boundedOne)
  have reachesOther := engagesOther.reaches lawful soundStart
  rw [← isOne] at reachesOne unbroken
  rw [← List.cons_append, ← List.append_assoc, ← isOther] at reachesOther
  obtain ⟨first, firstOpen, firstSnapshot, firstWrote⟩ := reachesOne
  obtain ⟨second, secondOpen, secondSnapshot, secondWrote⟩ := reachesOther bounded
  rw [← sameOne] at firstSnapshot
  rw [← sameOther] at secondSnapshot
  obtain ⟨publication, success⟩ :=
    commit_of_no_conflict (conflicts_of_latest soundOne firstSnapshot)
  have published :
      atOther.published =
        atOne.published ++ publications atOne.store.clock first.writes := by
    rw [onlyOne, RecordWorld.step, if_neg unbroken]
    exact published_of_commit firstOpen success
  -- All that the second snapshot does not show is what the first transaction has published.
  obtain ⟨inBoth, nodup⟩ :=
    conflicts_of_publications soundOther secondOpen secondSnapshot published
  have shared (key : Bytes) :
      key ∈ atOther.store.conflicts second ↔
        Touched atOne.store ⟨first.snapshot, .empty⟩ (RecordStep.operationsOf one sinceOne) key ∧
          Touched atOther.store ⟨second.snapshot, .empty⟩
            (RecordStep.operationsOf other (sinceOther ++ .commit one :: between)) key := by
    rw [inBoth, secondWrote, ← firstWrote]
    rfl
  refine ⟨first, second, firstOpen, secondOpen, firstWrote, secondWrote, ⟨publication, success⟩,
    ?_, ?_⟩
  · simp only [← shared]
    exact Store.refused_iff_conflicts
  · intro conflict refused
    rw [Store.keys_of_refused refused]
    exact ⟨nodup, shared⟩

/-- Two transactions that are opened, and insert records with the same value. -/
def alike :
    List (RecordStep initials) :=
  [.begin, .begin, .operate 0 (.insert () [1] [7]), .operate 1 (.insert () [2] [7, 7])]

/-- The second transaction moves its record to another entry, but it has touched the first one. -/
theorem conflicts_are_shared_alike :
    let entry := Bytes.ofText "_khIndex:note:initial:" ++ [7]
    let atOne := alike.foldl RecordWorld.step ⟨run [], []⟩
    let later : List (RecordStep initials) := [.commit 0, .operate 1 (.update () [2] [8])]
    let atOther := (alike ++ later).foldl RecordWorld.step ⟨run [], []⟩
    let one : List (Operation initials) := [.insert () [1] [7]]
    let other : List (Operation initials) := [.insert () [2] [7, 7], .update () [2] [8]]
    initials.Lawful ∧
      ∃ first second,
        atOne.transaction? 0 = some first ∧
          atOther.transaction? 1 = some second ∧
          ∀ key,
            key = entry ↔
              Touched atOne.store ⟨first.snapshot, .empty⟩ one key ∧
                Touched atOther.store ⟨second.snapshot, .empty⟩ other key := by
  intro entry atOne later atOther one other
  have bounded : atOther.published.length ≤ lastStamp := by
    decide +kernel
  have agrees (earlier : List (RecordStep initials))
      (nothing : (earlier.foldl RecordWorld.step ⟨run [], []⟩).published.length = 0) :
      initials.Agrees
        ((earlier.foldl RecordWorld.step ⟨run [], []⟩).store.begin.1.get
          (earlier.foldl RecordWorld.step ⟨run [], []⟩).store.begin.2) := by
    have bounded :
        (earlier.foldl RecordWorld.step ⟨World.start, []⟩).published.length ≤ lastStamp :=
      nothing ▸ Nat.zero_le _
    exact (Consistent.start.steps initials_lawful bounded).fresh
  have engagesOne :
      Engages ⟨run [], []⟩ []
        ([.begin, .operate 0 (.insert () [1] [7]), .operate 1 (.insert () [2] [7, 7])] :
          List (RecordStep initials))
        0 :=
    ⟨rfl, agrees [] rfl, by decide, by decide +kernel, by decide +kernel⟩
  have engagesOther :
      Engages ⟨run [], []⟩ [.begin]
        ([.operate 0 (.insert () [1] [7]), .operate 1 (.insert () [2] [7, 7]), .commit 0,
            .operate 1 (.update () [2] [8])] :
          List (RecordStep initials))
        1 :=
    ⟨rfl, agrees [.begin] rfl, by decide, by decide +kernel, by decide +kernel⟩
  have refusal :
      ((atOther.transaction? 1).bind fun second =>
        match (atOther.store.commit second).1 with
        | .error conflict => some conflict.keys
        | .ok _ => none) =
      some [entry] := by
    decide +kernel
  obtain ⟨first, second, firstOpen, secondOpen, -, -, -, -, shared⟩ :=
    (conflicts_are_shared initials_lawful).2 [] alike [] _ [.begin] _ _ 0 1 bounded rfl rfl
      engagesOne engagesOther rfl rfl rfl
  have isSecond : atOther.transaction? 1 = some second :=
    secondOpen
  refine ⟨initials_lawful, first, second, firstOpen, isSecond, ?_⟩
  rw [isSecond, Option.bind_some] at refusal
  cases refused : (atOther.store.commit second).1 with
  | ok publication =>
      rw [refused] at refusal
      cases refusal
  | error conflict =>
      rw [refused] at refusal
      have keys : conflict.keys = [entry] :=
        Option.some.inj refusal
      intro key
      rw [← List.mem_singleton, ← keys]
      exact (shared conflict refused).2 key

end SecondaryIndex.Records
