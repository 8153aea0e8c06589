import SecondaryIndex.Proofs.Versioned.Listing
import SecondaryIndex.Proofs.Versioned.Run

namespace SecondaryIndex.Versioned

/-!
# Cursors among the steps of others

A transaction moves any number of cursors while other transactions open, write,
commit and give up.  Its view stands still, so each move leads to the entry that
the view has there, and a scan under a lead lists the view under the lead.
-/

/-- A move of a cursor of one transaction, or a step of somebody else. -/
inductive CursorStep where
  | seek (cursor : Nat) (key : Bytes)
  | next (cursor : Nat)
  | foreign (step : Step)
  deriving Repr, DecidableEq

namespace CursorStep

/-- Whether what happens is left to other cursors and other transactions. -/
def Spares
    (number cursor : Nat) :
    CursorStep → Prop
  | .seek other _ =>
      other ≠ cursor
  | .next other =>
      other ≠ cursor
  | .foreign step =>
      step.number? ≠ some number

/-- Whether a foreign step is one of another transaction. -/
def Foreign
    (number : Nat) :
    CursorStep → Prop
  | .foreign step =>
      step.number? ≠ some number
  | _ =>
      True

theorem Spares.foreign
    {number cursor : Nat}
    {step : CursorStep}
    (spares : step.Spares number cursor) :
    step.Foreign number := by
  cases step with
  | seek other key =>
      trivial
  | next other =>
      trivial
  | foreign step =>
      exact spares

end CursorStep

/-- A world with the cursors of one of its transactions. -/
structure Reading where
  world : World
  cursors : OrderedMap Nat Cursor

namespace Reading

/-- A cursor; one that has not been moved stands nowhere. -/
def cursor
    (reading : Reading)
    (name : Nat) :
    Cursor :=
  reading.cursors.findD name .unpositioned

/-- Move a cursor of a transaction, as long as the transaction is open. -/
def move
    (reading : Reading)
    (number name : Nat)
    (moved : Store → Transaction → Cursor) :
    Reading :=
  match reading.world.transaction? number with
  | none =>
      reading
  | some transaction =>
      { reading with
        cursors := reading.cursors.insert name (moved reading.world.store transaction) }

/-- Carry out a move or the step of somebody else. -/
def step
    (number : Nat)
    (reading : Reading) :
    CursorStep → Reading
  | .seek name key =>
      reading.move number name fun store transaction => Cursor.seek store transaction key
  | .next name =>
      reading.move number name fun store transaction =>
        (reading.cursor name).advance store transaction
  | .foreign step =>
      { reading with world := reading.world.step step }

/-- Carry out a script of moves and steps in order. -/
def steps
    (number : Nat)
    (reading : Reading)
    (script : List CursorStep) :
    Reading :=
  script.foldl (step number) reading

/--
Take the entry under a cursor and move on, as long as the entry is under a lead.
Before each move something else may happen; the scan stops when nothing is left
of what happens in between.
-/
def scan
    (number name : Nat)
    (lead : Bytes) :
    List (List CursorStep) → Reading → List Entry
  | [], _ =>
      []
  | pause :: pauses, reading =>
      match (reading.cursor name).current with
      | none =>
          []
      | some entry =>
          if entry.1.startsWith lead then
            entry ::
              scan number name lead pauses ((reading.steps number pause).step number (.next name))
          else
            []

/-- A transaction is open and sees a map. -/
structure Serves
    (reading : Reading)
    (number : Nat)
    (transaction : Transaction)
    (view : Bytes → Option Bytes) :
    Prop where
  sound : Sound reading.world
  isOpen : reading.world.transaction? number = some transaction
  sees : transaction.get reading.world.store = view

variable
  {reading : Reading}
  {number name : Nat}
  {transaction : Transaction}
  {view : Bytes → Option Bytes}

section Steps

/-- A move of a cursor is a new value of this cursor and of no other one. -/
theorem cursor_move
    (isOpen : reading.world.transaction? number = some transaction)
    (moved : Store → Transaction → Cursor)
    (other : Nat) :
    (reading.move number name moved).cursor other =
      if other = name then moved reading.world.store transaction else reading.cursor other := by
  simp only [move, isOpen, cursor, OrderedMap.findD_insert]

/-- Moves of cursors are not seen by the store. -/
theorem world_move
    (reading : Reading)
    (number name : Nat)
    (moved : Store → Transaction → Cursor) :
    (reading.move number name moved).world = reading.world := by
  rw [move]
  split <;> rfl

@[simp]
theorem world_seek
    (number : Nat)
    (reading : Reading)
    (name : Nat)
    (key : Bytes) :
    (reading.step number (.seek name key)).world = reading.world :=
  world_move ..

@[simp]
theorem world_next
    (number : Nat)
    (reading : Reading)
    (name : Nat) :
    (reading.step number (.next name)).world = reading.world :=
  world_move ..

/-- What has been published stays at the front of all that will be. -/
theorem published_step
    (number : Nat)
    (reading : Reading)
    (step : CursorStep) :
    reading.world.published <+: (reading.step number step).world.published := by
  cases step with
  | seek other key =>
      simp
  | next other =>
      simp
  | foreign step =>
      exact reading.world.published_step step

theorem published_steps
    (number : Nat)
    (reading : Reading)
    (script : List CursorStep) :
    reading.world.published <+: (reading.steps number script).world.published :=
  prefix_foldl (published_step number) reading script

/-- Where the cursors stand is of no account to the world. -/
theorem world_steps_congr
    {first second : Reading}
    (sameWorld : first.world = second.world)
    (number : Nat)
    (script : List CursorStep) :
    (first.steps number script).world = (second.steps number script).world := by
  induction script generalizing first second with
  | nil =>
      exact sameWorld
  | cons step rest inductionHypothesis =>
      apply inductionHypothesis
      cases step with
      | seek other key =>
          simp only [world_seek, sameWorld]
      | next other =>
          simp only [world_next, sameWorld]
      | foreign step =>
          simp only [Reading.step, sameWorld]

theorem steps_append
    (number : Nat)
    (reading : Reading)
    (first second : List CursorStep) :
    reading.steps number (first ++ second) = (reading.steps number first).steps number second := by
  simp [steps]

/-- What leaves a cursor to itself leaves it where it is. -/
theorem cursor_step_of_spares
    {step : CursorStep}
    (serves : reading.Serves number transaction view)
    (spares : step.Spares number name) :
    (reading.step number step).cursor name = reading.cursor name := by
  cases step with
  | seek other key =>
      rw [Reading.step, cursor_move serves.isOpen, if_neg (Ne.symm spares)]
  | next other =>
      rw [Reading.step, cursor_move serves.isOpen, if_neg (Ne.symm spares)]
  | foreign step =>
      rfl

end Steps

namespace Serves

/-- Moves and the steps of others leave an open transaction open with its view. -/
theorem step
    {step : CursorStep}
    (serves : reading.Serves number transaction view)
    (foreign : step.Foreign number)
    (bounded : (reading.step number step).world.published.length ≤ lastStamp) :
    (reading.step number step).Serves number transaction view := by
  obtain ⟨sound, isOpen, sees⟩ := serves
  cases step with
  | seek other key =>
      have sameWorld := world_seek number reading other key
      exact ⟨sameWorld ▸ sound, sameWorld ▸ isOpen, sameWorld ▸ sees⟩
  | next other =>
      have sameWorld := world_next number reading other
      exact ⟨sameWorld ▸ sound, sameWorld ▸ isOpen, sameWorld ▸ sees⟩
  | foreign step =>
      have soundAfter : Sound (reading.world.step step) :=
        sound.step bounded
      have grown := reading.published_step number (.foreign step)
      refine ⟨soundAfter, World.transaction?_step_other isOpen foreign, ?_⟩
      exact (sound.get_eq_of_prefix soundAfter grown (sound.snapshots isOpen)).trans sees

theorem steps
    {script : List CursorStep}
    (serves : reading.Serves number transaction view)
    (foreign : ∀ step ∈ script, step.Foreign number)
    (bounded : (reading.steps number script).world.published.length ≤ lastStamp) :
    (reading.steps number script).Serves number transaction view := by
  induction script generalizing reading with
  | nil =>
      exact serves
  | cons step rest inductionHypothesis =>
      have grown := published_steps number (reading.step number step) rest
      have stepBounded := Nat.le_trans grown.length_le bounded
      have stepServes := serves.step (foreign step List.mem_cons_self) stepBounded
      have restForeign : ∀ step ∈ rest, step.Foreign number := by
        intro other member
        exact foreign other (List.mem_cons_of_mem _ member)
      exact inductionHypothesis stepServes restForeign bounded

/-- In a pause that leaves a cursor to itself, the cursor stays where it is. -/
theorem cursor_steps
    {script : List CursorStep}
    (serves : reading.Serves number transaction view)
    (spares : ∀ step ∈ script, step.Spares number name)
    (bounded : (reading.steps number script).world.published.length ≤ lastStamp) :
    (reading.steps number script).cursor name = reading.cursor name := by
  induction script generalizing reading with
  | nil =>
      rfl
  | cons step rest inductionHypothesis =>
      have stepSpares := spares step List.mem_cons_self
      have grown := published_steps number (reading.step number step) rest
      have stepBounded := Nat.le_trans grown.length_le bounded
      have stepServes := serves.step stepSpares.foreign stepBounded
      have restSpares : ∀ step ∈ rest, step.Spares number name := by
        intro other member
        exact spares other (List.mem_cons_of_mem _ member)
      have stays := inductionHypothesis stepServes restSpares bounded
      exact stays.trans (cursor_step_of_spares serves stepSpares)

/-- A cursor that has been positioned stands on the first entry from the key on. -/
theorem seek
    (serves : reading.Serves number transaction view)
    (name : Nat)
    (key : Bytes) :
    FirstIn view (fun other => key ≤ other)
      ((reading.step number (.seek name key)).cursor name).current := by
  rw [Reading.step, cursor_move serves.isOpen, if_pos rfl, ← serves.sees]
  exact Cursor.seek_firstIn ..

/-- A cursor that moves on stands on the first entry behind its last one. -/
theorem next
    {entry : Entry}
    (serves : reading.Serves number transaction view)
    (stands : (reading.cursor name).current = some entry) :
    FirstIn view (fun other => entry.1 < other)
      ((reading.step number (.next name)).cursor name).current := by
  rw [Reading.step, cursor_move serves.isOpen, if_pos rfl, ← serves.sees]
  exact Cursor.advance_firstIn _ _ stands

/-- A cursor that stands nowhere stays there when it moves on. -/
theorem next_nowhere
    (serves : reading.Serves number transaction view)
    (nowhere : (reading.cursor name).current = none) :
    ((reading.step number (.next name)).cursor name).current = none := by
  rw [Reading.step, cursor_move serves.isOpen, if_pos rfl]
  exact Cursor.advance_nowhere _ _ nowhere

/-- After a pause, a cursor moves on to the first of the bindings behind its entry. -/
theorem pause_next
    {entry : Entry}
    {rest : List Entry}
    {pause : List CursorStep}
    (serves : reading.Serves number transaction view)
    (restLists : Lists view (.above entry.1) rest)
    (stands : (reading.cursor name).current = some entry)
    (spares : ∀ step ∈ pause, step.Spares number name)
    (bounded : (reading.steps number pause).world.published.length ≤ lastStamp) :
    ((reading.steps number pause).step number (.next name)).Serves number transaction view ∧
      (((reading.steps number pause).step number (.next name)).cursor name).current =
        rest.head? := by
  have foreign : ∀ step ∈ pause, step.Foreign number := by
    intro step member
    exact (spares step member).foreign
  have pauseServes := serves.steps foreign bounded
  have standsStill : ((reading.steps number pause).cursor name).current = some entry := by
    rw [serves.cursor_steps spares bounded]
    exact stands
  have sameWorld := world_next number (reading.steps number pause) name
  have restFirst : FirstIn view (fun other => entry.1 < other) rest.head? := by
    simpa [Bound.admits] using restLists.firstIn
  constructor
  · exact pauseServes.step trivial (sameWorld ▸ bounded)
  · exact (pauseServes.next standsStill).unique restFirst

/--
A scan that begins on the first of the entries within a bound takes those that
stand under the lead, one before each pause.
-/
theorem scan
    {bound : Bound}
    {entries : List Entry}
    {lead : Bytes}
    {pauses : List (List CursorStep)}
    (serves : reading.Serves number transaction view)
    (lists : Lists view bound entries)
    (stands : (reading.cursor name).current = entries.head?)
    (spares : ∀ pause ∈ pauses, ∀ step ∈ pause, step.Spares number name)
    (bounded : (reading.steps number pauses.flatten).world.published.length ≤ lastStamp) :
    Reading.scan number name lead pauses reading =
      (entries.takeWhile fun entry => entry.1.startsWith lead).take pauses.length := by
  induction pauses generalizing reading bound entries with
  | nil =>
      rfl
  | cons pause pauses inductionHypothesis =>
      cases entries with
      | nil =>
          simp [Reading.scan, stands]
      | cons entry rest =>
          have standsThere : (reading.cursor name).current = some entry :=
            stands
          by_cases under : entry.1.startsWith lead
          · rw [List.flatten_cons, steps_append] at bounded
            have pauseGrown := published_steps number (reading.steps number pause) pauses.flatten
            have pauseBounded := Nat.le_trans pauseGrown.length_le bounded
            obtain ⟨nextServes, standsNext⟩ :=
              serves.pause_next lists.tail standsThere (spares pause List.mem_cons_self)
                pauseBounded
            have restBounded :
                (((reading.steps number pause).step number (.next name)).steps number
                  pauses.flatten).world.published.length ≤ lastStamp := by
              rw [world_steps_congr (world_next number (reading.steps number pause) name)]
              exact bounded
            have restScan :=
              inductionHypothesis nextServes lists.tail standsNext
                (fun other member => spares other (List.mem_cons_of_mem _ member)) restBounded
            simp [Reading.scan, standsThere, under, restScan]
          · simp [Reading.scan, standsThere, under]

end Serves

end Reading

/--
Cursors enumerate the view of their transaction, whatever other transactions do
in the meantime.  A cursor that has not been moved stands nowhere; one that is
positioned stands on the first entry from the key on; one that moves on stands
on the first entry behind its last one, and one that stands nowhere stays there.
Neither other cursors nor other transactions move it.  A scan under a lead takes
the entries of the view under the lead, by ascending key and each of them once.
-/
theorem cursors_enumerate
    {steps : List Step}
    {script : List CursorStep}
    {number : Nat}
    {transaction : Transaction}
    (isOpen : (run steps).transaction? number = some transaction)
    (foreign : ∀ step ∈ script, step.Foreign number)
    (bounded :
      ((Reading.mk (run steps) .empty).steps number script).world.published.length ≤ lastStamp) :
    let view := transaction.get (run steps).store
    let reading := (Reading.mk (run steps) .empty).steps number script
    transaction.get reading.world.store = view ∧
      (∀ name, ((Reading.mk (run steps) .empty).cursor name).current = none) ∧
      (∀ name key,
        FirstIn view (fun other => key ≤ other)
          ((reading.step number (.seek name key)).cursor name).current) ∧
      (∀ name entry,
        (reading.cursor name).current = some entry →
          FirstIn view (fun other => entry.1 < other)
            ((reading.step number (.next name)).cursor name).current) ∧
      (∀ name,
        (reading.cursor name).current = none →
          ((reading.step number (.next name)).cursor name).current = none) ∧
      (∀ name step,
        step.Spares number name →
          (reading.step number step).cursor name = reading.cursor name) ∧
      ∀ lead,
        ∃ listing,
          Ascending listing ∧
            (∀ key value,
              (key, value) ∈ listing ↔ key.startsWith lead ∧ view key = some value) ∧
            ∀ name pauses,
              (∀ pause ∈ pauses, ∀ step ∈ pause, step.Spares number name) →
                (reading.steps number pauses.flatten).world.published.length ≤ lastStamp →
                  Reading.scan number name lead pauses
                      (reading.step number (.seek name lead)) =
                    listing.take pauses.length := by
  intro view reading
  have grown := Reading.published_steps number ⟨run steps, .empty⟩ script
  have serves : reading.Serves number transaction view := by
    apply Reading.Serves.steps ?_ foreign bounded
    exact ⟨sound_run (Nat.le_trans grown.length_le bounded), isOpen, rfl⟩
  refine ⟨serves.sees, fun _ => rfl, serves.seek, fun _ _ => serves.next,
    fun _ => serves.next_nowhere, fun _ _ => Reading.cursor_step_of_spares serves, ?_⟩
  intro lead
  refine ⟨transaction.entriesUnder (run steps).store lead,
    transaction.entriesUnder_ascending _ lead, fun _ _ => Transaction.mem_entriesUnder, ?_⟩
  intro name pauses spares pausesBounded
  have sameWorld := Reading.world_seek number reading name lead
  have seekServes : (reading.step number (.seek name lead)).Serves number transaction view :=
    serves.step trivial (sameWorld ▸ bounded)
  have lists := transaction.lists_entriesWithin (run steps).store (.atLeast lead)
  have isFirst :
      FirstIn view (fun other => lead ≤ other)
        (transaction.entriesWithin (run steps).store (.atLeast lead)).head? := by
    simpa [Bound.admits] using lists.firstIn
  apply seekServes.scan lists ((serves.seek name lead).unique isFirst) spares
  rw [Reading.world_steps_congr sameWorld]
  exact pausesBounded

/-- A transaction has deleted a committed key, and another commit overwrites the first one. -/
theorem cursors_enumerate_during_commit :
    (run
        [.begin, .set 0 [1, 1] [5], .set 0 [1, 2] [6], .commit 0, .begin, .delete 1 [1, 2],
          .begin, .set 2 [1, 1] [9]]).transaction? 1 =
        some ((Transaction.mk 1 .empty).delete [1, 2]) ∧
      let reading :=
        (Reading.mk
          (run
            [.begin, .set 0 [1, 1] [5], .set 0 [1, 2] [6], .commit 0, .begin, .delete 1 [1, 2],
              .begin, .set 2 [1, 1] [9]]) .empty).steps 1 [.foreign (.commit 2)]
      ((Transaction.mk 1 .empty).delete [1, 2]).get reading.world.store [1, 1] = some [5] ∧
        FirstIn (((Transaction.mk 1 .empty).delete [1, 2]).get reading.world.store)
          (fun other => [1] ≤ other) ((reading.step 1 (.seek 0 [1])).cursor 0).current := by
  have isOpen :
      (run
        [.begin, .set 0 [1, 1] [5], .set 0 [1, 2] [6], .commit 0, .begin, .delete 1 [1, 2],
          .begin, .set 2 [1, 1] [9]]).transaction? 1 =
        some ((Transaction.mk 1 .empty).delete [1, 2]) :=
    rfl
  have foreign : ∀ step ∈ [CursorStep.foreign (.commit 2)], step.Foreign 1 := by
    simp [CursorStep.Foreign, Step.number?]
  obtain ⟨sees, -, seeks, -⟩ := cursors_enumerate isOpen foreign (by decide)
  refine ⟨isOpen, ?_, ?_⟩
  · rw [sees]
    rfl
  · rw [sees]
    exact seeks 0 [1]

example :
    Reading.scan 1 0 [1] [[.foreign (.commit 2)], []]
        ((Reading.mk
          (run
            [.begin, .set 0 [1, 1] [5], .set 0 [1, 2] [6], .commit 0, .begin, .delete 1 [1, 2],
              .set 1 [1, 3] [7], .begin, .set 2 [1, 3] [9]]) .empty).step 1 (.seek 0 [1])) =
      [([1, 1], [5]), ([1, 3], [7])] := by
  decide

end SecondaryIndex.Versioned
