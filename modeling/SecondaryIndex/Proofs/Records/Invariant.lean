import SecondaryIndex.Proofs.Records.Operations
import SecondaryIndex.Proofs.Versioned.FirstCommitter

namespace SecondaryIndex.Records

/-!
# What holds of every map under every interleaving

Suppose that operations keep a property of maps in the view of their transaction,
and that writes keep it over a later map in which no written key has changed.
Then all published maps have it, and so has the view of every open transaction
that is not broken: steps within a transaction keep it in the view, and a commit
that is not refused lays its writes over a map in which no written key has
changed since its snapshot.
-/

open Versioned

/--
A property of maps that operations keep in the view of their transaction, and that
writes keep when they are published and no written key has changed in between.
-/
structure Catalog.Keeps
    {ι : Type}
    (catalog : Catalog ι)
    (good : (Bytes → Option Bytes) → Prop) :
    Prop where
  empty : good fun _ => none
  operation :
    ∀ {store : Store} {operation : Operation catalog} {before after : Transaction},
      good (before.get store) →
        outcome (operation.action store) before = (.ok (), after) →
          good (after.get store)
  overlay :
    ∀ {writes : OrderedMap Bytes (Option Bytes)} {snapshot latest : Bytes → Option Bytes},
      good snapshot →
        good (overlay writes snapshot) →
          good latest →
            (∀ key, (writes.find? key).isSome → latest key = snapshot key) →
              good (overlay writes latest)

/-- The books are in order, and the published maps and the views of transactions are good. -/
structure Kept
    (good : (Bytes → Option Bytes) → Prop)
    (world : RecordWorld) :
    Prop where
  sound : Sound world.toWorld
  published : ∀ count, good (committed (world.published.take count))
  views :
    ∀ {number : Nat} {transaction : Transaction},
      world.transaction? number = some transaction →
        number ∉ world.broken →
          good (transaction.get world.store)

section Steps

namespace RecordWorld

variable
  {ι : Type}
  {catalog : Catalog ι}
  {world : RecordWorld}
  {number other : Nat}
  {operation : Operation catalog}

theorem store_operate :
    (world.operate number operation).store = world.store := by
  rw [operate]
  split
  · rfl
  · exact World.store_revise ..

theorem published_operate :
    (world.operate number operation).published = world.published := by
  rw [operate]
  split
  · rfl
  · exact World.published_revise ..

/--
A transaction that is open and not broken after an operation is another one, which
the operation leaves alone, or the operation has succeeded in it.
-/
theorem open_of_operate
    {later : Transaction}
    (isOpen : (world.operate number operation).transaction? other = some later)
    (unbroken : other ∉ (world.operate number operation).broken) :
    other ∉ world.broken ∧
      ((other ≠ number ∧ world.transaction? other = some later) ∨
        other = number ∧
          ∃ before,
            world.transaction? number = some before ∧
              outcome (operation.action world.store) before = (.ok (), later)) := by
  cases wasOpen : world.transaction? number with
  | none =>
      rw [operate, wasOpen] at isOpen unbroken
      refine ⟨unbroken, .inl ⟨?_, isOpen⟩⟩
      rintro rfl
      rw [wasOpen] at isOpen
      cases isOpen
  | some before =>
      simp only [operate, wasOpen] at isOpen unbroken
      rw [World.transaction?_revise, wasOpen] at isOpen
      rcases ended : outcome (operation.action world.store) before with ⟨result, after⟩
      rw [ended] at unbroken
      cases result with
      | ok value =>
          refine ⟨unbroken, ?_⟩
          split at isOpen
          next same =>
            rw [Option.map_some, ended] at isOpen
            cases isOpen
            exact .inr ⟨same, before, rfl, ended⟩
          next different =>
            exact .inl ⟨different, isOpen⟩
      | error error =>
          rw [List.mem_cons, not_or] at unbroken
          obtain ⟨different, wasUnbroken⟩ := unbroken
          rw [if_neg different] at isOpen
          exact ⟨wasUnbroken, .inl ⟨different, isOpen⟩⟩

/-- Only a transaction that was open is open after a commit. -/
theorem open_of_commit
    {later : Transaction}
    (isOpen : (world.step (.commit number : RecordStep catalog)).transaction? other = some later) :
    world.transaction? other = some later := by
  rw [step] at isOpen
  split at isOpen
  · exact isOpen
  · exact World.open_of_commit isOpen

theorem broken_commit :
    (world.step (.commit number : RecordStep catalog)).broken = world.broken := by
  rw [step]
  split <;> rfl

/-- A step takes back nothing that has been published. -/
theorem published_step
    (world : RecordWorld)
    (step : RecordStep catalog) :
    world.published <+: (world.step step).published := by
  cases step with
  | begin =>
      simp [RecordWorld.step, World.begin]
  | operate number operation =>
      simp [RecordWorld.step, published_operate]
  | commit number =>
      rw [RecordWorld.step]
      split
      · exact List.prefix_refl _
      · exact World.published_commit world.toWorld number
  | rollback number =>
      simp [RecordWorld.step, World.published_rollback]

end RecordWorld

end Steps

namespace Kept

variable
  {ι : Type}
  {catalog : Catalog ι}
  {good : (Bytes → Option Bytes) → Prop}
  {world : RecordWorld}

theorem start
    (empty : good fun _ => none) :
    Kept good ⟨World.start, []⟩ where
  sound :=
    Sound.start
  published count := by
    rw [World.start, List.take_nil, committed_nil]
    exact empty
  views isOpen := by
    cases isOpen

/-- The map that has been published last is good. -/
theorem latest
    (kept : Kept good world) :
    good (committed world.published) := by
  have last := kept.published world.published.length
  rw [List.take_length] at last
  exact last

/-- A transaction that has just been opened sees a good map. -/
theorem fresh
    (kept : Kept good world) :
    good (world.store.begin.1.get world.store.begin.2) := by
  rw [kept.sound.get_begin]
  exact kept.latest

/-- Ending a transaction leaves the views of the others alone. -/
theorem others
    {next : RecordWorld}
    (kept : Kept good world)
    (sound : Sound next.toWorld)
    (grown : world.published <+: next.published)
    (published : ∀ count, good (committed (next.published.take count)))
    (wereOpen :
      ∀ {number : Nat} {transaction : Transaction},
        next.transaction? number = some transaction →
          world.transaction? number = some transaction)
    (sameBroken : next.broken = world.broken) :
    Kept good next where
  sound :=
    sound
  published :=
    published
  views {number transaction} isOpen unbroken := by
    have wasOpen := wereOpen isOpen
    have shown := kept.sound.snapshots wasOpen
    rw [kept.sound.get_eq_of_prefix sound grown shown]
    exact kept.views wasOpen (sameBroken ▸ unbroken)

theorem begin
    (kept : Kept good world) :
    Kept good (world.step (.begin : RecordStep catalog)) where
  sound :=
    kept.sound.begin
  published :=
    kept.published
  views {number transaction} isOpen unbroken := by
    have standing := World.transaction?_begin world.toWorld number
    rw [show world.begin.transaction? number = some transaction from isOpen] at standing
    split at standing
    · cases standing
      exact kept.fresh
    · exact kept.views standing.symm unbroken

/-- An operation that succeeds keeps the view of its transaction good. -/
theorem operate
    {number : Nat}
    {operation : Operation catalog}
    (keeps : catalog.Keeps good)
    (kept : Kept good world) :
    Kept good (world.operate number operation) where
  sound := by
    rw [RecordWorld.operate]
    split
    · exact kept.sound
    · exact kept.sound.revise (snapshot_operation operation)
  published count := by
    rw [RecordWorld.published_operate]
    exact kept.published count
  views {other later} isOpen unbroken := by
    rw [RecordWorld.store_operate]
    obtain ⟨wasUnbroken, ⟨-, wasOpen⟩ | ⟨rfl, before, wasOpen, success⟩⟩ :=
      RecordWorld.open_of_operate isOpen unbroken
    · exact kept.views wasOpen wasUnbroken
    · exact keeps.operation (kept.views wasOpen wasUnbroken) success

/-- Writes that are published lie over a map in which no written key has changed. -/
theorem good_publication
    {number : Nat}
    {transaction : Transaction}
    {publication : Option Publication}
    (keeps : catalog.Keeps good)
    (kept : Kept good world)
    (isOpen : world.transaction? number = some transaction)
    (unbroken : number ∉ world.broken)
    (success : (world.store.commit transaction).1 = .ok publication) :
    good (overlay transaction.writes (committed world.published)) := by
  have view := kept.views isOpen unbroken
  rw [kept.sound.get] at view
  apply keeps.overlay (kept.published transaction.snapshot) view
    kept.latest
  intro key written
  have unchanged := (kept.sound.no_lost_update isOpen success written).2
  rw [kept.sound.valueAt, kept.sound.valueAt, kept.sound.clock,
    List.take_length] at unchanged
  exact unchanged

/-- A commit publishes a good map, or no map. -/
theorem published_commit
    {number : Nat}
    (keeps : catalog.Keeps good)
    (kept : Kept good world)
    (unbroken : number ∉ world.broken)
    (count : Nat) :
    good (committed ((world.toWorld.commit number).published.take count)) := by
  cases isOpen : world.transaction? number with
  | none =>
      simpa [World.commit, isOpen] using kept.published count
  | some transaction =>
      rcases Store.commit_cases world.store transaction with
        ⟨-, result⟩ | ⟨-, -, result⟩ | ⟨-, -, result⟩
      · simpa [World.commit, isOpen, result, World.publication?] using kept.published count
      · have added :
            (world.toWorld.commit number).published =
              world.published ++
                [Publication.mk (nextStamp world.store.clock) transaction.writes] := by
          simp [World.commit, isOpen, result, World.publication?]
        rw [added]
        by_cases older : count ≤ world.published.length
        · rw [List.take_append_of_le_length older]
          exact kept.published count
        · have within :
              (world.published ++
                [Publication.mk (nextStamp world.store.clock) transaction.writes]).length ≤
                  count := by
            rw [List.length_append, List.length_singleton]
            omega
          rw [List.take_of_length_le within, committed_append]
          apply kept.good_publication keeps isOpen unbroken
          rw [result]
      · simpa [World.commit, isOpen, result, World.publication?] using kept.published count

theorem commit
    {number : Nat}
    (keeps : catalog.Keeps good)
    (kept : Kept good world)
    (unbroken : number ∉ world.broken)
    (bounded : (world.toWorld.commit number).published.length ≤ lastStamp) :
    Kept good { world.toWorld.commit number with broken := world.broken } := by
  apply kept.others (kept.sound.commit bounded) (World.published_commit world.toWorld number)
  · exact kept.published_commit keeps unbroken
  · intro other later isOpen
    exact World.open_of_commit isOpen
  · rfl

/-- Giving a transaction up changes no map. -/
theorem rollback
    {number : Nat}
    (kept : Kept good world) :
    Kept good (world.step (.rollback number : RecordStep catalog)) := by
  have samePublished := World.published_rollback world.toWorld number
  apply kept.others kept.sound.rollback
  · simp [RecordWorld.step, samePublished]
  · intro count
    simp only [RecordWorld.step, samePublished]
    exact kept.published count
  · intro other later isOpen
    exact World.open_of_rollback isOpen
  · rfl

theorem step
    {step : RecordStep catalog}
    (keeps : catalog.Keeps good)
    (kept : Kept good world)
    (bounded : (world.step step).published.length ≤ lastStamp) :
    Kept good (world.step step) := by
  cases step with
  | begin =>
      exact kept.begin
  | operate number operation =>
      exact kept.operate keeps
  | commit number =>
      rw [RecordWorld.step] at bounded ⊢
      split at bounded
      next isBroken =>
        rw [if_pos isBroken]
        exact kept
      next unbroken =>
        rw [if_neg unbroken]
        exact kept.commit keeps unbroken bounded
  | rollback number =>
      exact kept.rollback

/-- Every step of a run within the range of the clock leaves good maps and views. -/
theorem steps
    {steps : List (RecordStep catalog)}
    (keeps : catalog.Keeps good)
    (kept : Kept good world)
    (bounded : (steps.foldl RecordWorld.step world).published.length ≤ lastStamp) :
    Kept good (steps.foldl RecordWorld.step world) := by
  induction steps generalizing world with
  | nil =>
      exact kept
  | cons step rest inductionHypothesis =>
      have grown := prefix_foldl RecordWorld.published_step (world.step step) rest
      have stepBounded := Nat.le_trans grown.length_le bounded
      exact inductionHypothesis (kept.step keeps stepBounded) bounded

end Kept

end SecondaryIndex.Records
