import Mathlib.Logic.Function.Basic
import SecondaryIndex.Proofs.Records.Script
import SecondaryIndex.Proofs.Versioned.FirstCommitter

namespace SecondaryIndex.Records

/-!
# Chronicles of transactions

A chronicle keeps, beside the world, the scripts of the transactions: what each
has carried out so far, and which scripts have been committed, in order.  A
session is a transaction that carries out a script and commits it before any
other transaction is opened.
-/

open Versioned

variable
  {ι : Type}
  {catalog : Catalog ι}

namespace RecordWorld

/-- Whether the commit of a transaction gets through: it is open, not broken, and not refused. -/
def commits
    (world : RecordWorld)
    (number : Nat) :
    Bool :=
  match world.transaction? number with
  | none =>
      false
  | some transaction =>
      number ∉ world.broken && (world.store.commit transaction).1.isOk

/--
Whether a step is one of a transaction whose operations take effect.  Operations
that fail, and operations in a broken transaction, are exempt.
-/
def admits
    (world : RecordWorld) :
    RecordStep catalog → Bool
  | .operate number operation =>
      match world.transaction? number with
      | none =>
          true
      | some transaction =>
          number ∈ world.broken ||
            !(outcome (operation.action world.store) transaction).1.isOk ||
              operation.isEffective (transaction.get world.store)
  | _ =>
      true

/-- Whether all steps, one after the other, are of transactions whose operations take effect. -/
def admitsAll
    (world : RecordWorld) :
    List (RecordStep catalog) → Bool
  | [] =>
      true
  | step :: rest =>
      world.admits step && (world.step step).admitsAll rest

end RecordWorld

/-- A world with the scripts of its transactions, and with those that have been committed. -/
structure Chronicle
    {ι : Type}
    (catalog : Catalog ι) where
  world : RecordWorld
  scripts : Nat → List (Operation catalog)
  committed : List (List (Operation catalog))

namespace Chronicle

/-- The empty store before any transaction. -/
def start :
    Chronicle catalog :=
  ⟨⟨World.start, []⟩, fun _ => [], []⟩

/-- Carry out a step and note what it adds to the scripts. -/
def step
    (chronicle : Chronicle catalog) :
    RecordStep catalog → Chronicle catalog
  | .begin =>
      { chronicle with
        world := chronicle.world.step (.begin : RecordStep catalog)
        scripts := Function.update chronicle.scripts chronicle.world.transactions.length [] }
  | .operate number operation =>
      { chronicle with
        world := chronicle.world.step (.operate number operation)
        scripts :=
          if (chronicle.world.transaction? number).isSome then
            Function.update chronicle.scripts number (chronicle.scripts number ++ [operation])
          else
            chronicle.scripts }
  | .commit number =>
      { chronicle with
        world := chronicle.world.step (.commit number : RecordStep catalog)
        committed :=
          if chronicle.world.commits number then
            chronicle.committed ++ [chronicle.scripts number]
          else
            chronicle.committed }
  | .rollback number =>
      { chronicle with
        world := chronicle.world.step (.rollback number : RecordStep catalog) }

end Chronicle

/-- The chronicle of some steps on an empty store. -/
def chronicle
    (steps : List (RecordStep catalog)) :
    Chronicle catalog :=
  steps.foldl Chronicle.step .start

/-- The steps of a transaction that carries out a script and commits it. -/
def session
    (number : Nat)
    (script : List (Operation catalog)) :
    List (RecordStep catalog) :=
  .begin :: (script.map (RecordStep.operate number) ++ [.commit number])

/-- The sessions of some scripts, one after the other. -/
def sessions
    (scripts : List (List (Operation catalog))) :
    List (RecordStep catalog) :=
  scripts.zipIdx.flatMap fun place => session place.2 place.1

section Laws

theorem Chronicle.world_step
    (chronicle : Chronicle catalog)
    (step : RecordStep catalog) :
    (chronicle.step step).world = chronicle.world.step step := by
  cases step <;> rfl

/-- A chronicle accompanies the run of its steps. -/
theorem world_foldl_step
    (chronicle : Chronicle catalog)
    (steps : List (RecordStep catalog)) :
    (steps.foldl Chronicle.step chronicle).world =
      steps.foldl RecordWorld.step chronicle.world := by
  induction steps generalizing chronicle with
  | nil =>
      rfl
  | cons step rest inductionHypothesis =>
      rw [List.foldl_cons, inductionHypothesis, Chronicle.world_step, List.foldl_cons]

theorem world_chronicle
    (steps : List (RecordStep catalog)) :
    (chronicle steps).world = recordRun steps :=
  world_foldl_step .start steps

theorem RecordWorld.admitsAll_append
    (world : RecordWorld)
    (first second : List (RecordStep catalog)) :
    world.admitsAll (first ++ second) =
      (world.admitsAll first && (first.foldl RecordWorld.step world).admitsAll second) := by
  induction first generalizing world with
  | nil =>
      rfl
  | cons step rest inductionHypothesis =>
      rw [List.cons_append, admitsAll, inductionHypothesis, admitsAll, List.foldl_cons,
        Bool.and_assoc]

theorem sessions_append_singleton
    (scripts : List (List (Operation catalog)))
    (script : List (Operation catalog)) :
    sessions (scripts ++ [script]) = sessions scripts ++ session scripts.length script := by
  simp [sessions, List.zipIdx_append]

end Laws

section Operating

variable
  {chronicle : Chronicle catalog}
  {number : Nat}
  {before after : Transaction}
  {script : List (Operation catalog)}

/-- An operation that takes effect is admitted. -/
theorem RecordWorld.admits_of_effective
    {world : RecordWorld}
    {operation : Operation catalog}
    (isOpen : world.transaction? number = some before)
    (effective : operation.isEffective (before.get world.store)) :
    world.admits (.operate number operation) := by
  simp [RecordWorld.admits, isOpen, effective]

namespace Chronicle

/-- The chronicle with another state of a transaction and another script. -/
def revise
    (chronicle : Chronicle catalog)
    (number : Nat)
    (transaction : Transaction)
    (script : List (Operation catalog)) :
    Chronicle catalog :=
  { chronicle with
    world := { chronicle.world with
      transactions := chronicle.world.transactions.set number (some transaction) }
    scripts := Function.update chronicle.scripts number script }

theorem transaction?_revise
    (isOpen : chronicle.world.transaction? number = some before) :
    (chronicle.revise number after script).world.transaction? number = some after := by
  simp [revise, World.transaction?, World.join_set (World.lt_of_open isOpen)]

theorem revise_self
    (isOpen : chronicle.world.transaction? number = some before) :
    chronicle.revise number before (chronicle.scripts number) = chronicle := by
  obtain ⟨inside, isPlace⟩ := List.getElem?_eq_some_iff.1 (World.transaction?_eq_some_iff.1 isOpen)
  simp [revise, ← isPlace]

/-- An operation that succeeds changes its transaction and adds to its script. -/
theorem step_operate
    {operation : Operation catalog}
    (isOpen : chronicle.world.transaction? number = some before)
    (success : outcome (operation.action chronicle.world.store) before = (.ok (), after)) :
    chronicle.step (.operate number operation) =
      chronicle.revise number after (chronicle.scripts number ++ [operation]) := by
  simp [step, revise, RecordWorld.step, RecordWorld.operate, isOpen, success, World.revise]

/-- Carrying out a script changes its transaction and adds to what it has carried out. -/
theorem foldl_operate
    (isOpen : chronicle.world.transaction? number = some before)
    (carriesOut : CarriesOut chronicle.world.store before script after) :
    (script.map (RecordStep.operate number)).foldl step chronicle =
        chronicle.revise number after (chronicle.scripts number ++ script) ∧
      chronicle.world.admitsAll (script.map (RecordStep.operate number)) := by
  induction carriesOut with
  | nil =>
      rw [List.append_nil, revise_self isOpen]
      exact ⟨rfl, rfl⟩
  | @snoc script operation middle after earlier effective success inductionHypothesis =>
      obtain ⟨reached, admitted⟩ := inductionHypothesis
      have sameWorld := world_foldl_step chronicle (script.map (RecordStep.operate number))
      rw [reached] at sameWorld
      have isOpenThen :
          (chronicle.revise number middle (chronicle.scripts number ++ script)).world.transaction?
              number =
            some middle :=
        transaction?_revise isOpen
      rw [List.map_append, List.foldl_append, reached, RecordWorld.admitsAll_append, admitted,
        ← sameWorld]
      refine ⟨?_, ?_⟩
      · refine (step_operate isOpenThen success).trans ?_
        simp [revise]
      · have admits := RecordWorld.admits_of_effective isOpenThen effective
        simp [RecordWorld.admitsAll, admits]

end Chronicle

end Operating

section Committing

variable
  {number : Nat}
  {transaction : Transaction}

/-- What a commit that is not refused adds to what has been published. -/
def publications
    (clock : Nat)
    (writes : OrderedMap Bytes (Option Bytes)) :
    List Publication :=
  if writes.isEmpty then [] else [⟨nextStamp clock, writes⟩]

theorem published_of_commit
    {world : World}
    {publication : Option Publication}
    (isOpen : world.transaction? number = some transaction)
    (success : (world.store.commit transaction).1 = .ok publication) :
    (world.commit number).published =
      world.published ++ publications world.store.clock transaction.writes := by
  by_cases noWrites : transaction.writes.isEmpty
  · have quiet : (Step.commit number).Quiet world := by
      intro other otherOpen
      rw [isOpen] at otherOpen
      cases otherOpen
      exact .inl noWrites
    rw [publications, if_pos noWrites, List.append_nil]
    exact (World.step_of_quiet quiet).1
  · rw [publications, if_neg noWrites]
    exact World.published_of_success isOpen noWrites success

/-- A snapshot that shows everything that has been published has no conflicts. -/
theorem conflicts_of_latest
    {world : World}
    (sound : Sound world)
    (latest : transaction.snapshot = world.published.length) :
    world.store.conflicts transaction = [] := by
  obtain ⟨floor, retained⟩ := sound.retained
  have behind : floor ≤ transaction.snapshot := by
    rw [latest]
    exact retained.shown
  rw [conflicts_of_recent sound.numbered retained.recent behind, latest, List.drop_length]
  rfl

/-- A commit without conflicts is not refused. -/
theorem commit_of_no_conflict
    {store : Store}
    (noConflict : store.conflicts transaction = []) :
    ∃ publication, (store.commit transaction).1 = .ok publication := by
  rcases Store.commit_cases store transaction with
    ⟨-, result⟩ | ⟨-, -, result⟩ | ⟨-, someConflict, -⟩
  · exact ⟨none, by rw [result]⟩
  · exact ⟨_, by rw [result]⟩
  · exact absurd noConflict someConflict

theorem RecordWorld.commits_iff
    {world : RecordWorld} :
    world.commits number ↔
      ∃ transaction publication,
        world.transaction? number = some transaction ∧
          number ∉ world.broken ∧ (world.store.commit transaction).1 = .ok publication := by
  rw [commits]
  cases world.transaction? number with
  | none =>
      simp
  | some transaction =>
      rcases result : (world.store.commit transaction).1 with conflict | publication <;>
        simp [result, Except.isOk, Except.toBool]

/-- A commit that gets through is one of a transaction that is not broken. -/
theorem RecordWorld.step_of_commits
    {world : RecordWorld}
    (commits : world.commits number) :
    world.step (.commit number : RecordStep catalog) =
      { world.toWorld.commit number with broken := world.broken } := by
  obtain ⟨_, _, -, unbroken, -⟩ := commits_iff.1 commits
  rw [step, if_neg unbroken]

/-- A commit that does not get through publishes nothing. -/
theorem RecordWorld.published_of_not_commits
    {world : RecordWorld}
    (fails : ¬ world.commits number) :
    (world.step (.commit number : RecordStep catalog)).published = world.published := by
  rw [step]
  split
  · rfl
  next unbroken =>
    cases isOpen : world.transaction? number with
    | none =>
        simp [World.commit, isOpen]
    | some transaction =>
        cases result : (world.store.commit transaction).1 with
        | ok publication =>
            exact absurd (commits_iff.2 ⟨transaction, publication, isOpen, unbroken, result⟩) fails
        | error conflict =>
            exact (World.step_of_refused isOpen result).1

/-- A commit without conflicts publishes its writes and adds its script to the committed ones. -/
theorem Chronicle.step_commit
    {chronicle : Chronicle catalog}
    (isOpen : chronicle.world.transaction? number = some transaction)
    (unbroken : number ∉ chronicle.world.broken)
    (noConflict : chronicle.world.store.conflicts transaction = []) :
    let later := chronicle.step (.commit number)
    later.world.published =
        chronicle.world.published ++
          publications chronicle.world.store.clock transaction.writes ∧
      later.world.broken = chronicle.world.broken ∧
        later.world.transactions.length = chronicle.world.transactions.length ∧
          later.committed = chronicle.committed ++ [chronicle.scripts number] := by
  obtain ⟨publication, success⟩ := commit_of_no_conflict noConflict
  have commits : chronicle.world.commits number :=
    RecordWorld.commits_iff.2 ⟨transaction, publication, isOpen, unbroken, success⟩
  have published := published_of_commit isOpen success
  have sameLength :
      (chronicle.world.toWorld.commit number).transactions.length =
        chronicle.world.transactions.length := by
    simp [World.commit, isOpen]
  simp [step, RecordWorld.step, unbroken, commits, published, sameLength]

/-- A session publishes what its script writes, and goes into the chronicle as committed. -/
theorem Chronicle.foldl_session
    {chronicle : Chronicle catalog}
    {script : List (Operation catalog)}
    {writes : OrderedMap Bytes (Option Bytes)}
    (sound : Sound chronicle.world.toWorld)
    (isNext : number = chronicle.world.transactions.length)
    (unbroken : chronicle.world.broken = [])
    (carriesOut :
      CarriesOut chronicle.world.begin.store ⟨chronicle.world.store.clock, .empty⟩ script
        ⟨chronicle.world.store.clock, writes⟩) :
    let later := (session number script).foldl step chronicle
    later.world.published =
        chronicle.world.published ++ publications chronicle.world.store.clock writes ∧
      later.world.broken = [] ∧
        later.world.transactions.length = number + 1 ∧
          later.committed = chronicle.committed ++ [script] ∧
            chronicle.world.admitsAll (session number script) := by
  have isOpen :
      (chronicle.step (.begin : RecordStep catalog)).world.transaction? number =
        some ⟨chronicle.world.store.clock, .empty⟩ := by
    have opened := World.transaction?_begin chronicle.world.toWorld number
    rw [if_pos isNext] at opened
    exact opened
  have noScript : (chronicle.step (.begin : RecordStep catalog)).scripts number = [] := by
    simp [step, isNext]
  obtain ⟨carried, admitted⟩ := foldl_operate isOpen carriesOut
  rw [noScript, List.nil_append] at carried
  have stillUnbroken : number ∉ (chronicle.step (.begin : RecordStep catalog)).world.broken := by
    show number ∉ chronicle.world.broken
    simp [unbroken]
  have noConflict :
      chronicle.world.begin.store.conflicts ⟨chronicle.world.store.clock, writes⟩ = [] :=
    conflicts_of_latest sound.begin sound.clock
  have filledOpen :
      ((chronicle.step (.begin : RecordStep catalog)).revise number
          ⟨chronicle.world.store.clock, writes⟩ script).world.transaction? number =
        some ⟨chronicle.world.store.clock, writes⟩ :=
    transaction?_revise isOpen
  obtain ⟨published, broken, length, committed⟩ := step_commit filledOpen stillUnbroken noConflict
  rw [session, List.foldl_cons, List.foldl_append, carried, List.foldl_cons, List.foldl_nil]
  refine ⟨published, broken.trans unbroken, length.trans ?_, ?_, ?_⟩
  · simp [revise, step, RecordWorld.step, World.begin, isNext]
  · refine committed.trans ?_
    simp [revise, step]
  · rw [RecordWorld.admitsAll, RecordWorld.admitsAll_append, Bool.and_eq_true, Bool.and_eq_true]
    exact ⟨rfl, admitted, rfl⟩

end Committing

end SecondaryIndex.Records
