import SecondaryIndex.Binary.PostingList
import SecondaryIndex.Proofs.Binary.PostingList
import SecondaryIndex.Proofs.EntryContent

namespace SecondaryIndex

/-!
# Interrupted maintenance

Any call of a service may fail, and then it has done nothing.  Maintenance that is
interrupted in this way has carried out its first updates in full and the others not
at all.  It may be tried again, as often as it takes: the attempt that succeeds leaves
what maintenance would have left that is never interrupted.
-/

open Versioned

/-- A transaction, and the errors with which the next calls of services are to fail, if any. -/
structure Interrupted where
  transaction : Transaction
  faults : List (Option IndexError)

namespace Interrupted

/-- Call a service, unless its next fault is one that it may have; then it is not reached. -/
def call
    {ε α : Type}
    (asFailure? : IndexError → Option ε)
    (service : StateM Transaction (Except ε α)) :
    StateM Interrupted (Except ε α) :=
  fun interrupted =>
    match interrupted.faults.head?.join.bind asFailure? with
    | some failure =>
        (.error failure, ⟨interrupted.transaction, interrupted.faults.tail⟩)
    | none =>
        let (result, after) := service interrupted.transaction
        (result, ⟨after, interrupted.faults.tail⟩)

/-- A service of the store fails with an error of the store only. -/
def storeFailure? :
    IndexError → Option StoreFailure
  | .store failure =>
      some failure
  | _ =>
      none

/-- A codec fails with an error of the codec only. -/
def codecFailure? :
    IndexError → Option CodecFailure
  | .codec failure =>
      some failure
  | _ =>
      none

/-- The services of a transaction, each call of which may fail. -/
def environment
    {R C : Type}
    (store : Store)
    (postings : Codec PostingList)
    (records : Codec R) :
    Environment Interrupted R C :=
  let services : Environment Transaction R C := Transaction.environment store postings records
  { get := fun key => call storeFailure? (services.get key)
    set := fun key value => call storeFailure? (services.set key value)
    delete := fun key => call storeFailure? (services.delete key)
    entriesFrom := fun key interrupted =>
      ((services.entriesFrom key interrupted.transaction).1, interrupted)
    encodePostings := fun list => call codecFailure? (services.encodePostings list)
    decodePostings := fun bytes => call codecFailure? (services.decodePostings bytes)
    encodeRecord := fun record => call codecFailure? (services.encodeRecord record)
    decodeRecord := fun bytes => call codecFailure? (services.decodeRecord bytes)
    report := fun _ => pure () }

end Interrupted

/--
What an operation may end with where calls may fail: with what it ends with anyway, or
with the fault that has come up last, and then it has changed nothing.
-/
inductive Ends
    {α : Type}
    (before : Transaction)
    (faults : List (Option IndexError))
    (anyway : Except IndexError α × Transaction) :
    Except IndexError α × Interrupted → Prop where
  | through
      (later : List (Option IndexError))
      (isSuffix : later <:+ faults) :
      Ends before faults anyway (anyway.1, ⟨anyway.2, later⟩)
  | struck
      (error : IndexError)
      (later : List (Option IndexError))
      (isFault : some error :: later <:+ faults) :
      Ends before faults anyway (.error error, ⟨before, later⟩)

/-- An operation that a fault may end, but only as long as it has changed nothing. -/
def Interruptible
    {α : Type}
    (action : Action Interrupted α)
    (anyway : Action Transaction α) :
    Prop :=
  ∀ before faults, Ends before faults (outcome anyway before) (outcome action ⟨before, faults⟩)

namespace Interruptible

variable {α β : Type}

theorem pure
    (value : α) :
    Interruptible (Pure.pure value) (Pure.pure value) :=
  fun _ faults => .through faults List.suffix_rfl

theorem throw
    (error : IndexError) :
    Interruptible (throwThe IndexError error : Action Interrupted α) (throwThe IndexError error) :=
  fun _ faults => .through faults List.suffix_rfl

/-- A call of a service goes through, or it fails with its fault. -/
theorem call
    {ε : Type}
    {asFailure? : IndexError → Option ε}
    {asError : ε → IndexError}
    (same : ∀ error failure, asFailure? error = some failure → asError failure = error)
    (service : StateM Transaction (Except ε α)) :
    Interruptible
      (ExceptT.mk do
        return (← Interrupted.call asFailure? service).mapError asError)
      (ExceptT.mk do
        return (← service).mapError asError) := by
  intro before faults
  have shape :
      outcome
          (ExceptT.mk do
            return (← Interrupted.call asFailure? service).mapError asError)
          ⟨before, faults⟩ =
        (((Interrupted.call asFailure? service) ⟨before, faults⟩).1.mapError asError,
          ((Interrupted.call asFailure? service) ⟨before, faults⟩).2) := rfl
  rw [shape, Interrupted.call]
  cases fails : faults.head?.join.bind asFailure? with
  | none =>
      exact .through faults.tail (List.tail_suffix faults)
  | some failure =>
      obtain ⟨error, isNext, fits⟩ := Option.bind_eq_some_iff.1 fails
      rw [Option.join_eq_some_iff, List.head?_eq_some_iff] at isNext
      obtain ⟨later, rfl⟩ := isNext
      obtain rfl := same error failure fits
      exact .struck (asError failure) later List.suffix_rfl

theorem ofStore
    (service : StateM Transaction (Except StoreFailure α)) :
    Interruptible (Action.ofStore (Interrupted.call Interrupted.storeFailure? service))
      (Action.ofStore service) := by
  apply call
  intro error failure fits
  cases error <;> cases fits
  rfl

theorem ofCodec
    (service : StateM Transaction (Except CodecFailure α)) :
    Interruptible (Action.ofCodec (Interrupted.call Interrupted.codecFailure? service))
      (Action.ofCodec service) := by
  apply call
  intro error failure fits
  cases error <;> cases fits
  rfl

/-- Behind an operation that changes nothing, an operation may still be ended by a fault. -/
theorem bind
    {action : Action Interrupted α}
    {anyway : Action Transaction α}
    {next : α → Action Interrupted β}
    {nextAnyway : α → Action Transaction β}
    (changesNothing : ∀ before, (outcome anyway before).2 = before)
    (first : Interruptible action anyway)
    (rest : ∀ value, Interruptible (next value) (nextAnyway value)) :
    Interruptible (action >>= next) (anyway >>= nextAnyway) := by
  intro before faults
  have begins := first before faults
  have same := changesNothing before
  rw [outcome_bind, outcome_bind]
  rcases shape : outcome anyway before with ⟨result, middle⟩
  rw [shape] at begins same
  obtain rfl : middle = before := same
  generalize outcome action ⟨middle, faults⟩ = ends at begins
  cases begins with
  | through later isSuffix =>
      cases result with
      | error error =>
          exact .through later isSuffix
      | ok value =>
          have others := rest value middle later
          dsimp only
          generalize outcome (next value) ⟨middle, later⟩ = ends at others
          cases others with
          | through laterThen isSuffixThen =>
              exact .through laterThen (isSuffixThen.trans isSuffix)
          | struck error laterThen isFault =>
              exact .struck error laterThen (isFault.trans isSuffix)
  | struck error later isFault =>
      exact .struck error later isFault

end Interruptible

section Maintenance

variable
  {R C : Type}
  {store : Store}
  {postings : Codec PostingList}
  {records : Codec R}
  {layout : KeyLayout}
  {typeName index : String}
  {key entry : Bytes}

theorem interruptible_log
    (event : LogEvent) :
    Interruptible
      ((Interrupted.environment (C := C) store postings records).log event)
      ((Transaction.environment (C := C) store postings records).log event) :=
  fun _ faults => .through faults List.suffix_rfl

theorem interruptible_postings :
    Interruptible
      ((Interrupted.environment (C := C) store postings records).postings entry)
      ((Transaction.environment (C := C) store postings records).postings entry) := by
  refine .bind ?_ ?_ ?_
  · exact fun _ => rfl
  · exact .ofStore _
  · intro content
    cases content with
    | none =>
        exact .pure _
    | some bytes =>
        exact .ofCodec _

theorem interruptible_storePostings
    (list : PostingList) :
    Interruptible
      ((Interrupted.environment (C := C) store postings records).storePostings typeName index entry
        list)
      ((Transaction.environment (C := C) store postings records).storePostings typeName index entry
        list) := by
  rw [Environment.storePostings, Environment.storePostings]
  split
  · refine .bind (fun _ => rfl) (interruptible_log _) ?_
    intro _
    exact .ofStore _
  · refine .bind (fun _ => rfl) (.ofCodec _) ?_
    intro bytes
    refine .bind (fun _ => rfl) (interruptible_log _) ?_
    intro _
    exact .ofStore _

variable
  (store postings records layout typeName key)

/-- An update writes once and at its end, so a fault finds that nothing has been changed. -/
theorem interruptible_updateEntry
    (update : EntryUpdate R) :
    Interruptible
      ((Interrupted.environment (C := C) store postings records).updateEntry layout typeName key
        update)
      ((Transaction.environment (C := C) store postings records).updateEntry layout typeName key
        update) := by
  rw [Environment.updateEntry_eq, Environment.updateEntry_eq]
  rcases update.target layout typeName with error | (_ | entry)
  · exact .throw error
  · exact .pure ()
  · refine .bind ?_ interruptible_postings ?_
    · intro before
      rw [outcome_postings]
    · intro list
      cases update.change.revise? key list with
      | none =>
          exact .pure ()
      | some changed =>
          exact interruptible_storePostings changed

/--
How a row of updates breaks off: the first ones have been carried out in full, and the
next one has failed with the fault of a call, or as it does anyway.
-/
def BrokenOff
    (updates : List (EntryUpdate R))
    (before : Interrupted)
    (error : IndexError)
    (after : Interrupted) :
    Prop :=
  ∃ done failing rest,
    updates = done ++ failing :: rest ∧
      outcome
          ((Transaction.environment (C := C) store postings records).updateEntries layout typeName
            key done)
          before.transaction =
        (.ok (), after.transaction) ∧
      (some error :: after.faults <:+ before.faults ∨
        outcome
            ((Transaction.environment (C := C) store postings records).updateEntry layout typeName
              key failing)
            after.transaction =
          (.error error, after.transaction))

/-- An interrupted row of updates either breaks off or is carried out in full. -/
theorem updateEntries_interrupted
    (updates : List (EntryUpdate R))
    (before : Interrupted) :
    (∃ error after,
      outcome
          ((Interrupted.environment (C := C) store postings records).updateEntries layout typeName
            key updates)
          before =
        (.error error, after) ∧
      BrokenOff (C := C) store postings records layout typeName key updates before error after) ∨
    ∃ after,
      outcome
          ((Interrupted.environment (C := C) store postings records).updateEntries layout typeName
            key updates)
          before =
        (.ok (), after) ∧
      outcome
          ((Transaction.environment (C := C) store postings records).updateEntries layout typeName
            key updates)
          before.transaction =
        (.ok (), after.transaction) := by
  induction updates generalizing before with
  | nil =>
      exact .inr ⟨before, rfl, rfl⟩
  | cons update rest inductionHypothesis =>
      have begins :=
        interruptible_updateEntry (C := C) store postings records layout typeName key update
          before.transaction before.faults
      simp only [Environment.updateEntries, outcome_bind]
      have shape : before = ⟨before.transaction, before.faults⟩ := rfl
      rw [← shape] at begins
      generalize outcome
          ((Interrupted.environment (C := C) store postings records).updateEntry layout typeName
            key update)
          before = ends at begins
      cases begins with
      | struck error later isFault =>
          exact .inl ⟨error, _, rfl, [], update, rest, rfl, rfl, .inl isFault⟩
      | through later isSuffix =>
          rcases updateEntry_replays (C := C) store postings records layout typeName key
              before.transaction update with
            ⟨error, fails, -⟩ | ⟨_, middle, -, succeeds, -⟩
          · rw [fails]
            exact .inl ⟨error, _, rfl, [], update, rest, rfl, rfl, .inr fails⟩
          · rw [succeeds]
            dsimp only
            rcases inductionHypothesis ⟨middle, later⟩ with
              ⟨error, after, ends, done, failing, others, isSplit, isDone, why⟩ |
                ⟨after, ends, isDone⟩
            · refine .inl ⟨error, after, ends, update :: done, failing, others, ?_, ?_, ?_⟩
              · rw [isSplit, List.cons_append]
              · exact outcome_bind_ok.2 ⟨(), middle, succeeds, isDone⟩
              · exact why.imp_left fun isFault => isFault.trans isSuffix
            · exact .inr ⟨after, ends, isDone⟩

end Maintenance

section Retry

variable
  {R C : Type}
  (store : Store)
  (postings : Codec PostingList)
  (records : Codec R)
  (layout : KeyLayout)
  (typeName : String)
  (key : Bytes)
  (updates : List (EntryUpdate R))

/-- Where an attempt at an operation leaves a transaction, whatever comes of it. -/
def Interrupted.attempt
    (action : Action Interrupted Unit)
    (before : Transaction)
    (faults : List (Option IndexError)) :
    Transaction :=
  (outcome action ⟨before, faults⟩).2.transaction

/-- Where a row of attempts leaves a transaction; each attempt meets faults of its own. -/
def Interrupted.attempts
    (action : Action Interrupted Unit)
    (before : Transaction)
    (faults : List (List (Option IndexError))) :
    Transaction :=
  faults.foldl (attempt action) before

/-- An attempt carries out the first updates in full, and the others not at all. -/
theorem attempt_carries_out
    (before : Transaction)
    (faults : List (Option IndexError)) :
    ∃ done rest,
      updates = done ++ rest ∧
        outcome
            ((Transaction.environment (C := C) store postings records).updateEntries layout
              typeName key done)
            before =
          (.ok (),
            Interrupted.attempt
              ((Interrupted.environment (C := C) store postings records).updateEntries layout
                typeName key updates)
              before faults) := by
  rw [Interrupted.attempt]
  rcases updateEntries_interrupted (C := C) store postings records layout typeName key updates
      ⟨before, faults⟩ with
    ⟨error, after, ends, done, failing, rest, isSplit, isDone, -⟩ | ⟨after, ends, isDone⟩
  · rw [ends]
    exact ⟨done, failing :: rest, isSplit, isDone⟩
  · rw [ends]
    exact ⟨updates, [], (List.append_nil updates).symm, isDone⟩

variable
  {store postings records layout typeName key updates}

/-- What an entry comes to after attempts, it comes to without them. -/
theorem replay_before_attempts
    {content : Option Bytes}
    (lawful : postings.RoundTrips)
    (faults : List (List (Option IndexError)))
    (before : Transaction)
    (entry : Bytes)
    (replays :
      replay postings key (changesOf layout typeName entry updates)
          ((Interrupted.attempts
            ((Interrupted.environment (C := C) store postings records).updateEntries layout typeName
              key updates)
            before faults).get store entry) =
        .ok content) :
    replay postings key (changesOf layout typeName entry updates) (before.get store entry) =
      .ok content := by
  induction faults generalizing before with
  | nil =>
      exact replays
  | cons first others inductionHypothesis =>
      have fromMiddle := inductionHypothesis _ replays
      obtain ⟨done, rest, isSplit, isDone⟩ :=
        attempt_carries_out (C := C) store postings records layout typeName key updates before
          first
      have begun := (updateEntries_ok isDone).2 entry
      rw [isSplit, changesOf_append] at fromMiddle ⊢
      rw [← isSplit] at fromMiddle
      exact replay_resumed lawful begun fromMiddle

end Retry

/--
Maintenance that fails has carried out its first updates in full and nothing else, and
fails with the fault that has come up, unless it fails anyway.  It may be tried again,
as often as it takes: the attempt that succeeds leaves under each key what maintenance
that is never interrupted would have left there at the beginning.
-/
theorem maintenance_converges
    {R C : Type}
    (store : Store)
    {postings : Codec PostingList}
    (records : Codec R)
    (layout : KeyLayout)
    (schema : Schema R C)
    (key : Bytes)
    (upkeep : Upkeep R)
    (lawful : postings.RoundTrips) :
    (∀ before error after,
      outcome (upkeep.run (Interrupted.environment store postings records) layout schema key)
          before =
        (.error error, after) →
      BrokenOff (C := C) store postings records layout schema.typeName key
        (upkeep.updates schema) before error after) ∧
    ∀ before earlier faults after,
      outcome (upkeep.run (Interrupted.environment store postings records) layout schema key)
          ⟨Interrupted.attempts
            (upkeep.run (Interrupted.environment store postings records) layout schema key) before
            earlier, faults⟩ =
        (.ok (), after) →
      ∃ direct,
        outcome (upkeep.run (Transaction.environment store postings records) layout schema key)
            before =
          (.ok (), direct) ∧
        ∀ other, after.transaction.get store other = direct.get store other := by
  simp only [Upkeep.run_eq]
  refine ⟨?_, ?_⟩
  · intro before error after fails
    rcases updateEntries_interrupted (C := C) store postings records layout schema.typeName key
        (upkeep.updates schema) before with
      ⟨_, _, ends, broken⟩ | ⟨_, ends, -⟩
    · cases ends.symm.trans fails
      exact broken
    · cases ends.symm.trans fails
  · intro before earlier faults after succeeds
    rcases updateEntries_interrupted (C := C) store postings records layout schema.typeName key
        (upkeep.updates schema)
        ⟨Interrupted.attempts
          ((Interrupted.environment store postings records).updateEntries layout schema.typeName key
            (upkeep.updates schema))
          before earlier, faults⟩ with
      ⟨_, _, ends, -⟩ | ⟨_, ends, isDone⟩
    · cases ends.symm.trans succeeds
    · cases ends.symm.trans succeeds
      obtain ⟨haveEntries, replays⟩ := updateEntries_ok isDone
      have fromBefore (entry : Bytes) :=
        replay_before_attempts lawful earlier before entry (replays entry)
      obtain ⟨direct, succeedsDirectly⟩ :=
        updateEntries_succeeds haveEntries fun entry => ⟨_, fromBefore entry⟩
      refine ⟨direct, succeedsDirectly, ?_⟩
      intro other
      have directly := (updateEntries_ok succeedsDirectly).2 other
      exact Except.ok.inj ((fromBefore other).symm.trans directly)

/-- Byte strings that are indexed by their first byte and by their last one. -/
def bounds :
    Schema Bytes Unit where
  typeName :=
    "note"
  indexes :=
    [⟨"first", fun _ record => .ok (record.head?.map fun byte => [byte])⟩,
      ⟨"last", fun _ record => .ok (record.getLast?.map fun byte => [byte])⟩]
  accepts _ _ :=
    .ok true
  needsRecord _ :=
    false

/-- A transaction with an entry that lists a key twice. -/
def repeating :
    Transaction :=
  Transaction.set ⟨0, .empty⟩ (Bytes.ofText "_khIndex:note:last:" ++ [1])
    (Binary.writeSequence Binary.writeBytes [[5], [5]])

/-- Maintenance of which the first attempt takes an entry away and fails to write the next one. -/
theorem converges_after_failed_encoding :
    let run :=
      (Upkeep.reindex [7, 1] [8, 1]).run
        (Interrupted.environment .empty (PostingList.codec.limited PostingList.fits)
          (Binary.codec Binary.writeBytes Binary.readBytes.read))
        .standard bounds [5]
    let faults := List.replicate 5 none ++ [some (.codec (.encode "full"))]
    (PostingList.codec.limited PostingList.fits).RoundTrips ∧
      (outcome run ⟨repeating, faults⟩).1 = .error (.codec (.encode "full")) ∧
        ∃ after direct,
          outcome run ⟨Interrupted.attempts run repeating [faults], []⟩ = (.ok (), after) ∧
            outcome
                ((Upkeep.reindex [7, 1] [8, 1]).run
                  (Transaction.environment .empty (PostingList.codec.limited PostingList.fits)
                    (Binary.codec Binary.writeBytes Binary.readBytes.read))
                  .standard bounds [5])
                repeating =
              (.ok (), direct) ∧
            ∀ other, after.transaction.get .empty other = direct.get .empty other := by
  intro run faults
  have fails : (outcome run ⟨repeating, faults⟩).1 = .error (.codec (.encode "full")) := by
    decide +kernel
  have succeeds :
      (outcome run ⟨Interrupted.attempts run repeating [faults], []⟩).1 = .ok () := by
    decide +kernel
  rcases ends : outcome run ⟨Interrupted.attempts run repeating [faults], []⟩ with ⟨result, after⟩
  rw [ends] at succeeds
  obtain rfl : result = .ok () := succeeds
  obtain ⟨direct, directly, same⟩ :=
    (maintenance_converges .empty (Binary.codec Binary.writeBytes Binary.readBytes.read) .standard
      bounds [5] (.reindex [7, 1] [8, 1]) PostingList.roundTrips_codec).2 repeating [faults] []
      after ends
  exact ⟨PostingList.roundTrips_codec, fails, after, direct, rfl, directly, same⟩

end SecondaryIndex
