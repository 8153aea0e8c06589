import SecondaryIndex.Proofs.Interruption
import SecondaryIndex.Proofs.Query.Batches

namespace SecondaryIndex

/-!
# Pulls that fail

A pull takes the keys that wait and then those of the entries that it passes.  If it fails
at an entry, it hands out none of them, and neither do the pulls that follow, which go on
at that entry.  So a drive with failures hands out what a drive without them does, less
what its failing pulls had taken.  It is complete only if they had taken nothing.
-/

open Versioned

/-- One pull of a drive: the keys that it takes, and what it comes to. -/
structure Haul where
  taken : List Bytes
  outcome : Except IndexError Pull
  deriving DecidableEq

namespace Haul

/-- The keys that a pull hands out. -/
def handed :
    Except IndexError Pull → List Bytes
  | .ok (.batch keys) =>
      keys
  | _ =>
      []

/-- Whether a pull fails. -/
def Fails
    (haul : Haul) :
    Prop :=
  ∃ error, haul.outcome = .error error

/-- Whether a pull hands out what it takes, unless it fails. -/
def Honest
    (haul : Haul) :
    Prop :=
  haul.outcome = .ok (.ofKeys haul.taken) ∨ haul.Fails

theorem handed_ofKeys
    (keys : List Bytes) :
    handed (.ok (.ofKeys keys)) = keys := by
  cases keys <;> rfl

variable {hauls : List Haul}

/-- No more is handed out than is taken. -/
theorem length_handed_le
    (honest : ∀ haul ∈ hauls, haul.Honest) :
    (hauls.flatMap fun haul => handed haul.outcome).length ≤ (hauls.flatMap taken).length := by
  induction hauls with
  | nil =>
      exact Nat.le_refl 0
  | cons haul rest inductionHypothesis =>
      obtain ⟨first, others⟩ := List.forall_mem_cons.1 honest
      have restLe := inductionHypothesis others
      rw [List.flatMap_cons, List.flatMap_cons, List.length_append, List.length_append]
      rcases first with hands | ⟨error, fails⟩
      · rw [hands, handed_ofKeys]
        exact Nat.add_le_add_left restLe _
      · rw [fails]
        exact Nat.add_le_add (Nat.zero_le _) restLe

/-- All that is taken is handed out exactly if failing pulls take nothing. -/
theorem handed_eq_taken_iff
    (honest : ∀ haul ∈ hauls, haul.Honest) :
    (hauls.flatMap fun haul => handed haul.outcome) = hauls.flatMap taken ↔
      ∀ haul ∈ hauls, haul.Fails → haul.taken = [] := by
  induction hauls with
  | nil =>
      exact iff_of_true rfl nofun
  | cons haul rest inductionHypothesis =>
      obtain ⟨first, others⟩ := List.forall_mem_cons.1 honest
      rw [List.flatMap_cons, List.flatMap_cons, List.forall_mem_cons,
        ← inductionHypothesis others]
      rcases first with hands | ⟨error, fails⟩
      · have sound : ¬ haul.Fails := by
          rintro ⟨error, fails⟩
          cases hands.symm.trans fails
        rw [hands, handed_ofKeys, List.append_cancel_left_eq]
        exact (and_iff_right fun fails => absurd fails sound).symm
      · rw [fails]
        constructor
        · intro same
          have restLe := length_handed_le others
          have lengths := congrArg List.length same
          rw [show handed (.error error) = [] from rfl, List.nil_append, List.length_append]
            at lengths
          have none : haul.taken = [] := by
            apply List.eq_nil_of_length_eq_zero
            omega
          rw [none] at same
          exact ⟨fun _ => none, same⟩
        · rintro ⟨none, same⟩
          rw [none ⟨error, fails⟩, same]
          rfl

end Haul

namespace Scan

variable
  {σ R C : Type}
  (environment : Environment σ R C)
  (scan : Scan R C)

/-- The entries from which a pull walks on, and the state in which it does. -/
def setOff
    (progress : Progress)
    (ahead : List Entry) :
    StateM σ (List Entry) :=
  if progress.positioned then pure ahead else environment.entriesFrom scan.lead

/-- The keys that a pull takes, whether or not it fails then. -/
def taken
    (progress : Progress)
    (ahead : List Entry) :
    StateM σ (List Bytes) := do
  let waiting := progress.pending.take scan.batchSize
  let further ← scan.setOff environment progress ahead
  let gathered ← scan.gather environment (scan.batchSize - waiting.length) further
  return waiting ++ gathered.keys

/-- Pull some number of times, as `pulls` does, and keep also what each pull takes. -/
def hauls :
    Nat → Progress → List Entry → StateM σ (List Haul)
  | 0, _, _ =>
      return []
  | count + 1, progress, ahead => fun state =>
      let taken := (scan.taken environment progress ahead state).1
      let pulled := scan.pull environment progress ahead state
      let later := hauls count pulled.1.producer pulled.1.ahead pulled.2
      (⟨taken, pulled.1.outcome⟩ :: later.1, later.2)

/-- The row of keys that entries under the lead give. -/
def rowOf
    (gives : Entry → List Bytes)
    (ahead : List Entry) :
    List Bytes :=
  (ahead.takeWhile fun entry => entry.1.startsWith scan.lead).flatMap gives

/-- Whether entries under the lead always give the same keys, when they do not fail. -/
def Steady
    (gives : Entry → List Bytes)
    (ahead : List Entry) :
    Prop :=
  ∀ entry ∈ ahead.takeWhile fun entry => entry.1.startsWith scan.lead,
    ∀ state keys,
      (SecondaryIndex.outcome (scan.candidates environment entry) state).1 = .ok keys →
        keys = gives entry

/-- What is left for a scan: the keys that wait, and those of the entries it goes on from. -/
def remainder
    (gives : Entry → List Bytes)
    (progress : Progress)
    (further : List Entry) :
    List Bytes :=
  progress.pending ++ scan.rowOf gives further

variable
  {environment scan}
  {gives : Entry → List Bytes}

theorem rowOf_cons
    {entry : Entry}
    {rest : List Entry}
    (under : entry.1.startsWith scan.lead = true) :
    scan.rowOf gives (entry :: rest) = gives entry ++ scan.rowOf gives rest := by
  rw [rowOf, List.takeWhile_cons, if_pos under, List.flatMap_cons, rowOf]

theorem Steady.cons
    {entry : Entry}
    {rest : List Entry}
    (under : entry.1.startsWith scan.lead = true)
    (steady : scan.Steady environment gives (entry :: rest)) :
    (∀ state keys,
      (SecondaryIndex.outcome (scan.candidates environment entry) state).1 = .ok keys →
        keys = gives entry) ∧
      scan.Steady environment gives rest := by
  rw [Steady, List.takeWhile_cons, if_pos under, List.forall_mem_cons] at steady
  exact steady

/-- Keys for which there is no room go behind those that are taken after them. -/
theorem take_append_drop_of_room
    {size : Nat}
    (keys : List Bytes)
    {later : List Bytes}
    (room : later.length ≤ size - keys.length) :
    keys.take size ++ later ++ keys.drop size = keys ++ later := by
  by_cases fits : keys.length ≤ size
  · rw [List.take_of_length_le fits, List.drop_of_length_le fits, List.append_nil]
  · have noLater : later = [] := by
      apply List.eq_nil_of_length_eq_zero
      omega
    rw [noLater, List.append_nil, List.append_nil, List.take_append_drop]

/-- What a walk makes of the entries ahead, whether or not it fails. -/
structure Walked
    (environment : Environment σ R C)
    (scan : Scan R C)
    (gives : Entry → List Bytes)
    (room : Nat)
    (ahead : List Entry)
    (gathered : Gathered) :
    Prop where
  row :
    scan.rowOf gives ahead =
      gathered.keys ++ gathered.pending ++ scan.rowOf gives gathered.ahead
  bounded : gathered.keys.length ≤ room
  full :
    gathered.error = none →
      gathered.keys.length < room →
        gathered.pending = [] ∧ scan.rowOf gives gathered.ahead = []
  steady : scan.Steady environment gives gathered.ahead

/-- A walk that goes on behind an entry takes its keys, or as many as there is room for. -/
theorem Walked.after
    {room : Nat}
    {entry : Entry}
    {rest : List Entry}
    {later : Gathered}
    (under : entry.1.startsWith scan.lead = true)
    (walked : Walked environment scan gives (room - (gives entry).length) rest later) :
    Walked environment scan gives room (entry :: rest)
      ⟨(gives entry).take room ++ later.keys, (gives entry).drop room ++ later.pending,
        later.ahead, later.error⟩ where
  row := by
    have taken := take_append_drop_of_room (gives entry) walked.bounded
    rw [rowOf_cons under, walked.row]
    simp only [← List.append_assoc]
    rw [taken]
  bounded := by
    have bounded := walked.bounded
    simp only [List.length_append, List.length_take]
    omega
  full := by
    intro sound someRoom
    simp only [List.length_append, List.length_take] at someRoom
    obtain ⟨noPending, nothing⟩ := walked.full sound (by omega)
    refine ⟨?_, nothing⟩
    rw [noPending, List.append_nil]
    exact List.drop_of_length_le (by omega)
  steady :=
    walked.steady

/-- A walk takes keys off the row of the entries and leaves the others, even if it fails. -/
theorem gather_walked
    (room : Nat)
    {ahead : List Entry}
    (steady : scan.Steady environment gives ahead)
    (state : σ) :
    Walked environment scan gives room ahead (scan.gather environment room ahead state).1 := by
  induction ahead generalizing room state with
  | nil =>
      exact ⟨rfl, Nat.zero_le _, fun _ _ => ⟨rfl, rfl⟩, steady⟩
  | cons entry rest inductionHypothesis =>
      by_cases stops : room = 0 ∨ entry.1.startsWith scan.lead = false
      · simp only [gather, if_pos stops]
        refine ⟨rfl, Nat.zero_le _, ?_, steady⟩
        intro _ someRoom
        have notUnder := stops.resolve_left (Nat.ne_of_gt someRoom)
        refine ⟨rfl, ?_⟩
        show scan.rowOf gives (entry :: rest) = []
        rw [rowOf, List.takeWhile_cons, notUnder]
        rfl
      · rcases answer : scan.candidates environment entry state with ⟨found, later⟩
        obtain ⟨someRoom, under⟩ := not_or.1 stops
        rw [Bool.not_eq_false] at under
        obtain ⟨givesHere, restSteady⟩ := steady.cons under
        simp only [gather, if_neg stops, ExceptT.run, bind, StateT.bind, answer]
        rcases found with error | found
        · refine ⟨rfl, Nat.zero_le _, ?_, steady⟩
          intro sound
          cases sound
        · obtain rfl : found = gives entry :=
            givesHere state found (congrArg Prod.fst answer)
          exact .after under (inductionHypothesis _ restSteady _)

/-- A pull is the walk from where it sets off, with the keys that wait in front. -/
theorem pull_eq
    (progress : Progress)
    (ahead : List Entry)
    (state : σ) :
    let setsOff := scan.setOff environment progress ahead state
    let waiting := progress.pending.take scan.batchSize
    let gathered :=
      (scan.gather environment (scan.batchSize - waiting.length) setsOff.1 setsOff.2).1
    (scan.pull environment progress ahead state).1 =
      ⟨outcome waiting gathered,
        ⟨true, progress.pending.drop scan.batchSize ++ gathered.pending⟩, gathered.ahead⟩ := by
  rcases progress with ⟨positioned, pending⟩
  cases positioned <;> rfl

/-- What a pull takes, hands out and leaves, whether or not it fails. -/
theorem pull_takes
    {progress : Progress}
    {ahead : List Entry}
    {state : σ}
    (batch : 1 ≤ scan.batchSize)
    (steady :
      scan.Steady environment gives (scan.setOff environment progress ahead state).1) :
    let further := (scan.setOff environment progress ahead state).1
    let taken := (scan.taken environment progress ahead state).1
    let pulled := (scan.pull environment progress ahead state).1
    scan.remainder gives progress further =
        taken ++ scan.remainder gives pulled.producer pulled.ahead ∧
      Haul.Honest ⟨taken, pulled.outcome⟩ ∧
        (pulled.outcome = .ok .finished → scan.remainder gives progress further = []) ∧
          pulled.producer.positioned = true ∧
            scan.Steady environment gives pulled.ahead := by
  obtain ⟨positioned, pending⟩ := progress
  rcases setsOff : scan.setOff environment ⟨positioned, pending⟩ ahead state with ⟨further, middle⟩
  rw [setsOff] at steady
  let room := scan.batchSize - (pending.take scan.batchSize).length
  let gathered := (scan.gather environment room further middle).1
  have walked : Walked environment scan gives room further gathered :=
    gather_walked room steady middle
  have takes :
      (scan.taken environment ⟨positioned, pending⟩ ahead state).1 =
        pending.take scan.batchSize ++ gathered.keys := by
    simp only [taken, bind, StateT.bind, setsOff]
    rfl
  have pulls :
      (scan.pull environment ⟨positioned, pending⟩ ahead state).1 =
        ⟨Scan.outcome (pending.take scan.batchSize) gathered,
          ⟨true, pending.drop scan.batchSize ++ gathered.pending⟩, gathered.ahead⟩ := by
    rw [pull_eq, setsOff]
  dsimp only
  rw [takes, pulls]
  have row :
      scan.remainder gives ⟨positioned, pending⟩ further =
        pending.take scan.batchSize ++ gathered.keys ++
          (pending.drop scan.batchSize ++ gathered.pending ++ scan.rowOf gives gathered.ahead) := by
    have bounded : gathered.keys.length ≤ scan.batchSize - pending.length := by
      have bounded := walked.bounded
      simp only [room, List.length_take] at bounded
      omega
    rw [remainder, walked.row]
    simp only [← List.append_assoc]
    rw [take_append_drop_of_room pending bounded]
  refine ⟨row, ?_, ?_, rfl, walked.steady⟩
  · cases failed : gathered.error with
    | none =>
        left
        simp only [Scan.outcome, failed, Pull.ofKeys]
        split <;> rfl
    | some error =>
        right
        exact ⟨error, by simp only [Scan.outcome, failed]⟩
  · intro finished
    simp only [Scan.outcome] at finished
    split at finished
    · cases finished
    next sound =>
      split at finished
      next isEmpty =>
        obtain ⟨noneWaits, noKeys⟩ := List.append_eq_nil_iff.1 (List.isEmpty_iff.1 isEmpty)
        obtain rfl : pending = [] :=
          (List.take_eq_nil_iff.1 noneWaits).resolve_left (Nat.ne_of_gt batch)
        have someRoom : gathered.keys.length < room := by
          rw [noKeys]
          simpa [room] using Nat.lt_of_lt_of_le Nat.one_pos batch
        obtain ⟨noPending, nothing⟩ := walked.full sound someRoom
        rw [remainder, walked.row, noKeys, noPending, nothing]
        rfl
      · cases finished

/-- What is left before a drive is what its pulls take and what is left after it. -/
theorem hauls_take
    (batch : 1 ≤ scan.batchSize)
    (count : Nat)
    {progress : Progress}
    {ahead : List Entry}
    {state : σ}
    (steady :
      scan.Steady environment gives (scan.setOff environment progress ahead state).1) :
    let hauls := (scan.hauls environment count progress ahead state).1
    ∃ rest,
      scan.remainder gives progress (scan.setOff environment progress ahead state).1 =
          hauls.flatMap Haul.taken ++ rest ∧
        (∀ haul ∈ hauls, haul.Honest) ∧
          (.ok .finished ∈ hauls.map Haul.outcome → rest = []) := by
  induction count generalizing progress ahead state with
  | zero =>
      exact ⟨_, rfl, nofun, nofun⟩
  | succ count inductionHypothesis =>
      obtain ⟨takes, honest, finished, begun, laterSteady⟩ := pull_takes batch steady
      rcases pulls : scan.pull environment progress ahead state with ⟨pulled, middle⟩
      rw [pulls] at takes honest finished begun laterSteady
      -- A scan that has begun goes on from the entries that the pull has left ahead.
      have goesOn : scan.setOff environment pulled.producer pulled.ahead middle =
          (pulled.ahead, middle) := by
        rw [setOff, if_pos begun]
        rfl
      have steadyThen :
          scan.Steady environment gives
            (scan.setOff environment pulled.producer pulled.ahead middle).1 := by
        rw [goesOn]
        exact laterSteady
      obtain ⟨rest, restTakes, restHonest, restFinished⟩ := inductionHypothesis steadyThen
      rw [goesOn] at restTakes
      have shape :
          (scan.hauls environment (count + 1) progress ahead state).1 =
            ⟨(scan.taken environment progress ahead state).1, pulled.outcome⟩ ::
              (scan.hauls environment count pulled.producer pulled.ahead middle).1 := by
        rw [hauls]
        dsimp only
        rw [pulls]
      dsimp only
      rw [shape, List.flatMap_cons, List.forall_mem_cons, List.map_cons, List.mem_cons]
      refine ⟨rest, ?_, ⟨honest, restHonest⟩, ?_⟩
      · rw [takes, restTakes, List.append_assoc]
      · rintro (isFinished | member)
        · have nothing := finished isFinished.symm
          rw [takes, restTakes] at nothing
          exact (List.append_eq_nil_iff.1 (List.append_eq_nil_iff.1 nothing).2).2
        · exact restFinished member

/-- A walk fails only while it has room, so all keys of the entries that it has passed fit. -/
theorem pending_of_gather_failed
    {room : Nat}
    {ahead : List Entry}
    {state : σ}
    {error : IndexError}
    (failed : (scan.gather environment room ahead state).1.error = some error) :
    0 < room ∧ (scan.gather environment room ahead state).1.pending = [] := by
  induction ahead generalizing room state with
  | nil =>
      cases failed
  | cons entry rest inductionHypothesis =>
      by_cases stops : room = 0 ∨ entry.1.startsWith scan.lead = false
      · simp only [gather, if_pos stops] at failed
        cases failed
      · have someRoom := Nat.pos_of_ne_zero (not_or.1 stops).1
        rcases answer : scan.candidates environment entry state with ⟨found, later⟩
        simp only [gather, if_neg stops, ExceptT.run, bind, StateT.bind, answer] at failed ⊢
        rcases found with error | found
        · exact ⟨someRoom, rfl⟩
        · obtain ⟨moreRoom, noPending⟩ := inductionHypothesis failed
          refine ⟨someRoom, List.append_eq_nil_iff.2 ⟨?_, noPending⟩⟩
          exact List.drop_of_length_le (by omega)

/-- A pull that fails leaves no key waiting, neither of those that waited nor of those it took. -/
theorem pending_of_pull_failed
    {progress : Progress}
    {ahead : List Entry}
    {state : σ}
    {error : IndexError}
    (failed : (scan.pull environment progress ahead state).1.outcome = .error error) :
    (scan.pull environment progress ahead state).1.producer.pending = [] := by
  rw [pull_eq] at failed ⊢
  dsimp only [Scan.outcome] at failed ⊢
  split at failed
  next walkFailed =>
    obtain ⟨someRoom, noPending⟩ := pending_of_gather_failed walkFailed
    rw [List.length_take] at someRoom
    rw [noPending, List.append_nil]
    exact List.drop_of_length_le (by omega)
  next =>
    split at failed <;> cases failed

/-- A pull on a cursor with nothing ahead hands out the first of the keys that wait. -/
theorem pull_nothing_ahead
    (pending : List Bytes)
    (state : σ) :
    (scan.pull environment ⟨true, pending⟩ [] state).1.outcome =
      .ok (.ofKeys (pending.take scan.batchSize)) := by
  rw [pull_eq]
  show Scan.outcome (pending.take scan.batchSize) ⟨[], [], [], none⟩ = _
  simp only [Scan.outcome, List.append_nil, Pull.ofKeys]
  split <;> rfl

/-- After a pull that has failed, a pull on a cursor with nothing ahead finds nothing. -/
theorem finished_after_failure
    {progress : Progress}
    {ahead : List Entry}
    {state : σ}
    {error : IndexError}
    (failed : (scan.pull environment progress ahead state).1.outcome = .error error)
    (later : σ) :
    let left := (scan.pull environment progress ahead state).1.producer
    (scan.pull environment left [] later).1.outcome = .ok .finished := by
  intro left
  have begun : left.positioned = true := scan.positioned_pull environment progress ahead state
  have noneWaits : left.pending = [] := pending_of_pull_failed failed
  rcases left with ⟨positioned, pending⟩
  cases begun
  cases noneWaits
  rw [pull_nothing_ahead, List.take_nil]
  rfl

/-- What pulls come to does not depend on whether what they take is kept. -/
theorem outcomes_hauls
    (count : Nat)
    (progress : Progress)
    (ahead : List Entry)
    (state : σ) :
    (scan.hauls environment count progress ahead state).1.map Haul.outcome =
      (scan.pulls environment count progress ahead state).1 := by
  induction count generalizing progress ahead state with
  | zero =>
      rfl
  | succ count inductionHypothesis =>
      exact congrArg (_ :: ·) (inductionHypothesis _ _ _)

/-- A drive to the end takes the whole row, and hands it out if its failing pulls take nothing. -/
theorem drive_to_end
    {state : σ}
    (batch : 1 ≤ scan.batchSize)
    (steady : scan.Steady environment gives (environment.entriesFrom scan.lead state).1)
    {count : Nat}
    (ended : .ok .finished ∈ (scan.pulls environment count .start [] state).1) :
    let hauls := (scan.hauls environment count .start [] state).1
    let outcomes := (scan.pulls environment count .start [] state).1
    let row := scan.rowOf gives (environment.entriesFrom scan.lead state).1
    (∀ haul ∈ hauls, haul.Honest) ∧
      hauls.flatMap Haul.taken = row ∧
        (outcomes.flatMap Haul.handed = row ↔ ∀ haul ∈ hauls, haul.Fails → haul.taken = []) := by
  dsimp only
  have steadyAtStart :
      scan.Steady environment gives (scan.setOff environment .start [] state).1 :=
    steady
  obtain ⟨rest, takes, honest, finished⟩ := hauls_take batch count steadyAtStart
  have row :
      scan.rowOf gives (environment.entriesFrom scan.lead state).1 =
        (scan.hauls environment count .start [] state).1.flatMap Haul.taken ++ rest :=
    takes
  rw [← outcomes_hauls] at ended ⊢
  rw [finished ended, List.append_nil] at row
  refine ⟨honest, row.symm, ?_⟩
  rw [row, List.flatMap_map]
  exact Haul.handed_eq_taken_iff honest

end Scan

/--
Where the keys that an entry gives are always the same, a drive to the end with failures
takes, pull by pull, the row of keys that a drive without failures hands out.  Each pull
that fails withholds what it takes, so the drive hands out the whole row exactly if its
failing pulls take nothing.
-/
theorem drive_whole_iff_failures_take_nothing
    {σ R C : Type}
    {environment : Environment σ R C}
    {scan : Scan R C}
    {gives : Entry → List Bytes}
    {state calm : σ}
    {count calmCount : Nat}
    (batch : 1 ≤ scan.batchSize)
    (lists :
      (environment.entriesFrom scan.lead calm).1 = (environment.entriesFrom scan.lead state).1)
    (steady : scan.Steady environment gives (environment.entriesFrom scan.lead state).1)
    (ended : .ok .finished ∈ (scan.pulls environment count .start [] state).1)
    (calmEnded : .ok .finished ∈ (scan.pulls environment calmCount .start [] calm).1)
    (sound :
      ∀ outcome ∈ (scan.pulls environment calmCount .start [] calm).1,
        ∃ pull, outcome = .ok pull) :
    let hauls := (scan.hauls environment count .start [] state).1
    let outcomes := (scan.pulls environment count .start [] state).1
    let row := (scan.pulls environment calmCount .start [] calm).1.flatMap Haul.handed
    hauls.map Haul.outcome = outcomes ∧
      (∀ haul ∈ hauls, haul.Honest) ∧
        hauls.flatMap Haul.taken = row ∧
          (outcomes.flatMap Haul.handed = row ↔
            ∀ haul ∈ hauls, haul.Fails → haul.taken = []) := by
  have calmSteady :
      scan.Steady environment gives (environment.entriesFrom scan.lead calm).1 := by
    rw [lists]
    exact steady
  have neverFails :
      ∀ haul ∈ (scan.hauls environment calmCount .start [] calm).1,
        haul.Fails → haul.taken = [] := by
    rintro haul member ⟨error, fails⟩
    have isOutcome : haul.outcome ∈ (scan.pulls environment calmCount .start [] calm).1 := by
      rw [← Scan.outcomes_hauls]
      exact List.mem_map_of_mem member
    obtain ⟨pull, succeeds⟩ := sound _ isOutcome
    cases fails.symm.trans succeeds
  have calmWhole := (Scan.drive_to_end batch calmSteady calmEnded).2.2.2 neverFails
  obtain ⟨honest, takes, whole⟩ := Scan.drive_to_end batch steady ended
  dsimp only
  rw [calmWhole, lists]
  exact ⟨Scan.outcomes_hauls .., honest, takes, whole⟩

section Interruption

variable
  {R C : Type}
  (store : Store)
  (postings : Codec PostingList)
  (records : Codec R)
  (scan : Scan R C)

/-- What a scan asks of a record may be interrupted. -/
theorem recordMatches_interruptible
    (entry : Entry) :
    Interruptible
      (scan.recordMatches (Interrupted.environment store postings records) entry)
      (scan.recordMatches (Transaction.environment store postings records) entry) := by
  have judged (criteria : List C) (candidate : Candidate R) :
      Interruptible
        ((Interrupted.environment store postings records).judge scan.schema criteria candidate)
        ((Transaction.environment store postings records).judge scan.schema criteria candidate) :=
    fun _ faults => .through faults List.suffix_rfl
  have fields (key : Bytes) (record : R) (fields : List (String × List C)) :
      Interruptible
        (scan.fieldsMatch (Interrupted.environment store postings records) key record fields)
        (scan.fieldsMatch (Transaction.environment store postings records) key record fields) := by
    induction fields with
    | nil =>
        exact .pure true
    | cons field rest inductionHypothesis =>
        refine .bind (fun _ => rfl) (judged _ _) ?_
        intro accepted
        cases accepted with
        | false =>
            exact .pure false
        | true =>
            exact inductionHypothesis
  rw [Scan.recordMatches, Scan.recordMatches]
  split
  · refine .bind (fun _ => rfl) (.ofCodec _) ?_
    intro record
    refine .bind (fun _ => rfl) (judged _ _) ?_
    intro accepted
    cases accepted with
    | false =>
        exact .pure false
    | true =>
        exact fields _ record _
  · exact .pure true

/-- What a scan makes of an entry may be interrupted. -/
theorem candidates_interruptible
    (entry : Entry) :
    Interruptible
      (scan.candidates (Interrupted.environment store postings records) entry)
      (scan.candidates (Transaction.environment store postings records) entry) := by
  rw [Scan.candidates, Scan.candidates]
  rcases scan.path with _ | _ | index
  · refine .bind ?_ (recordMatches_interruptible store postings records scan entry) ?_
    · intro before
      rw [outcome_recordMatches]
    · intro accepted
      cases accepted with
      | false =>
          exact .pure []
      | true =>
          exact .pure [entry.1]
  · exact .pure [entry.1]
  · refine .bind (fun _ => rfl) (fun _ faults => .through faults List.suffix_rfl) ?_
    intro accepted
    cases accepted with
    | false =>
        exact .pure []
    | true =>
        refine .bind (fun _ => rfl) (.ofCodec _) ?_
        intro list
        exact .pure list.keys

/-- The keys that an entry gives in a transaction, or none if it fails. -/
def Scan.keysOf
    (entry : Entry) :
    List Bytes :=
  match scan.found postings records entry with
  | .error _ => []
  | .ok keys => keys

/-- In an interrupted transaction, an entry gives what it gives anyway or fails. -/
theorem steady_interrupted
    (listing : List Entry) :
    scan.Steady (Interrupted.environment store postings records) (scan.keysOf postings records)
      listing := by
  intro entry _ ⟨transaction, faults⟩ keys gives
  have ends := candidates_interruptible store postings records scan entry transaction faults
  rw [outcome_candidates] at ends
  generalize outcome (scan.candidates (Interrupted.environment store postings records) entry)
    ⟨transaction, faults⟩ = result at ends gives
  cases ends with
  | through later isSuffix =>
      have found : scan.found postings records entry = .ok keys := gives
      rw [Scan.keysOf, found]
  | struck error later isFault =>
      cases gives

end Interruption

/-- A transaction with an entry that lists more keys than a batch has, and two that list one. -/
def crowded :
    Transaction :=
  let lead := Bytes.ofText "_khIndex:note:initial:"
  ((Transaction.set ⟨0, .empty⟩ (lead ++ [7])
    (PostingList.ofKeys [[1], [2], [3], [4]]).encode).set (lead ++ [8])
      (PostingList.ofKeys [[5]]).encode).set (lead ++ [9]) (PostingList.ofKeys [[6]]).encode

/-- A scan of all these entries, with batches of three keys. -/
def byThrees :
    Scan Bytes (Criterion Bytes) :=
  ⟨notes, .all, .indexedLookup "initial", Bytes.ofText "_khIndex:note:initial:", 3⟩

/--
A failure that goes by at once still costs the keys that the pull had taken by then.  The
key that waited before the pull, which a cursor with nothing ahead shows, waits no more.
-/
theorem keys_lost_to_failure_that_clears :
    let environment : Environment Interrupted Bytes (Criterion Bytes) :=
      Interrupted.environment .empty PostingList.codec
        (Binary.codec Binary.writeBytes Binary.readBytes.read)
    let failure : IndexError := .codec (.decode "interrupted")
    let first := byThrees.pull environment .start [] ⟨crowded, [none, none, some failure]⟩
    let second := byThrees.pull environment first.1.producer first.1.ahead first.2
    (byThrees.pulls environment 3 .start [] ⟨crowded, []⟩).1 =
        [.ok (.batch [[1], [2], [3]]), .ok (.batch [[4], [5], [6]]), .ok .finished] ∧
      (byThrees.pulls environment 4 .start [] ⟨crowded, [none, none, some failure]⟩).1 =
        [.ok (.batch [[1], [2], [3]]), .error failure, .ok (.batch [[6]]), .ok .finished] ∧
      (byThrees.pull environment first.1.producer [] first.2).1.outcome = .ok (.batch [[4]]) ∧
      second.1.outcome = .error failure ∧
      ∀ later, (byThrees.pull environment second.1.producer [] later).1.outcome = .ok .finished := by
  intro environment failure first second
  have failed : second.1.outcome = .error failure := by
    decide +kernel
  refine ⟨?_, ?_, ?_, failed, Scan.finished_after_failure failed⟩
  · decide +kernel
  · decide +kernel
  · decide +kernel

/-- A failure at the first entry takes nothing, and so it costs nothing. -/
theorem nothing_lost_to_failure_at_first_entry :
    let environment : Environment Interrupted Bytes (Criterion Bytes) :=
      Interrupted.environment .empty PostingList.codec
        (Binary.codec Binary.writeBytes Binary.readBytes.read)
    let failing : Interrupted := ⟨crowded, [some (.codec (.decode "interrupted"))]⟩
    1 ≤ byThrees.batchSize ∧
      byThrees.Steady environment
          (byThrees.keysOf PostingList.codec (Binary.codec Binary.writeBytes Binary.readBytes.read))
          (environment.entriesFrom byThrees.lead failing).1 ∧
        (byThrees.pulls environment 4 .start [] failing).1.flatMap Haul.handed =
          (byThrees.pulls environment 3 .start [] ⟨crowded, []⟩).1.flatMap Haul.handed := by
  intro environment failing
  have batch : 1 ≤ byThrees.batchSize := by
    decide
  have steady :=
    steady_interrupted (C := Criterion Bytes) .empty PostingList.codec
      (Binary.codec Binary.writeBytes Binary.readBytes.read) byThrees
      (environment.entriesFrom byThrees.lead failing).1
  have sameListing :
      (environment.entriesFrom byThrees.lead ⟨crowded, []⟩).1 =
        (environment.entriesFrom byThrees.lead failing).1 :=
    rfl
  have hauls :
      (byThrees.hauls environment 4 .start [] failing).1 =
        [⟨[], .error (.codec (.decode "interrupted"))⟩,
          ⟨[[1], [2], [3]], .ok (.batch [[1], [2], [3]])⟩,
          ⟨[[4], [5], [6]], .ok (.batch [[4], [5], [6]])⟩,
          ⟨[], .ok .finished⟩] := by
    decide +kernel
  have calm :
      (byThrees.pulls environment 3 .start [] ⟨crowded, []⟩).1 =
        [.ok (.batch [[1], [2], [3]]), .ok (.batch [[4], [5], [6]]), .ok .finished] := by
    decide +kernel
  have ended : .ok .finished ∈ (byThrees.pulls environment 4 .start [] failing).1 := by
    rw [← Scan.outcomes_hauls, hauls]
    decide
  have calmEnded : .ok .finished ∈ (byThrees.pulls environment 3 .start [] ⟨crowded, []⟩).1 := by
    rw [calm]
    decide
  have sound :
      ∀ outcome ∈ (byThrees.pulls environment 3 .start [] ⟨crowded, []⟩).1,
        ∃ pull, outcome = .ok pull := by
    rw [calm]
    simp
  obtain ⟨-, -, -, whole⟩ :=
    drive_whole_iff_failures_take_nothing batch sameListing steady ended calmEnded sound
  refine ⟨batch, steady, whole.2 ?_⟩
  rw [hauls]
  simp [Haul.Fails]

end SecondaryIndex
