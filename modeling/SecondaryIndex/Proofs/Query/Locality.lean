import SecondaryIndex.Proofs.Query.IndexScan
import SecondaryIndex.Proofs.Query.PartitionScan

namespace SecondaryIndex

/-!
# What queries read

A query reads the entries under the leads of its type and of its index, and looks up the
keys that these entries name.  In two transactions that see the same there, a query is
answered alike step by step, whatever lies before, behind and between these keys.
-/

open Versioned

/-- Two transactions that see the same under some keys. -/
def SeeAlike
    (shown : Bytes → Prop)
    (store mirror : Store)
    (transaction image : Transaction) :
    Prop :=
  ∀ key, shown key → image.get mirror key = transaction.get store key

section Listing

variable
  {shown : Bytes → Prop}
  {store mirror : Store}
  {transaction image : Transaction}
  {lead : Bytes}

/-- Where the keys under a lead are seen alike, the same entries are listed there. -/
theorem entriesUnder_congr
    (alike : SeeAlike shown store mirror transaction image)
    (isShown : ∀ key, key.startsWith lead → shown key) :
    image.entriesUnder mirror lead = transaction.entriesUnder store lead := by
  have sameMembers (entry : Entry) :
      entry ∈ image.entriesUnder mirror lead ↔ entry ∈ transaction.entriesUnder store lead := by
    rw [Transaction.mem_entriesUnder, Transaction.mem_entriesUnder]
    apply and_congr_right
    intro under
    rw [alike entry.1 (isShown entry.1 under)]
  exact
    OrderedMap.eq_of_mem_iff (image.entriesUnder_ascending mirror lead)
      (transaction.entriesUnder_ascending store lead) sameMembers

/-- Whether entries begin under a lead is told from those of them that do. -/
theorem beginsUnder_takeWhile
    (lead : Bytes)
    (entries : List Entry) :
    beginsUnder lead (entries.takeWhile fun entry => entry.1.startsWith lead) =
      beginsUnder lead entries := by
  cases entries with
  | nil =>
      rfl
  | cons entry rest =>
      rw [List.takeWhile_cons]
      cases under : entry.1.startsWith lead <;> simp [beginsUnder, under]

end Listing

/-- Two operations that come to the same in two transactions, and that change neither. -/
def ReadAlike
    {α : Type}
    (transaction image : Transaction)
    (action reflection : Action Transaction α) :
    Prop :=
  ∃ result,
    outcome action transaction = (result, transaction) ∧
      outcome reflection image = (result, image)

namespace ReadAlike

variable
  {α β : Type}
  {transaction image : Transaction}

theorem pure
    (value : α) :
    ReadAlike transaction image (Pure.pure value) (Pure.pure value) :=
  ⟨.ok value, rfl, rfl⟩

theorem ofExcept
    (result : Except IndexError α) :
    ReadAlike transaction image (Action.ofExcept result) (Action.ofExcept result) :=
  ⟨result, rfl, rfl⟩

theorem bind
    {action reflection : Action Transaction α}
    {next nextReflection : α → Action Transaction β}
    (first : ReadAlike transaction image action reflection)
    (rest :
      ∀ value,
        (outcome action transaction).1 = .ok value →
          ReadAlike transaction image (next value) (nextReflection value)) :
    ReadAlike transaction image (action >>= next) (reflection >>= nextReflection) := by
  obtain ⟨result, ends, endsToo⟩ := first
  simp only [ReadAlike, outcome_bind, ends, endsToo]
  cases result with
  | error error =>
      exact ⟨.error error, rfl, rfl⟩
  | ok value =>
      exact rest value (by rw [ends])

end ReadAlike

section Selection

variable
  {R C : Type}
  {shown : Bytes → Prop}
  {store mirror : Store}
  {transaction image : Transaction}
  {postings : Codec PostingList}
  {records : Codec R}
  {layout : KeyLayout}
  {typeName index : String}
  {recordLead indexLead : Bytes}

/-- Whether there are entries under a lead is seen alike. -/
theorem beginsUnder_congr
    {lead : Bytes}
    (alike : SeeAlike shown store mirror transaction image)
    (isShown : ∀ key, key.startsWith lead → shown key) :
    beginsUnder lead (image.entriesWithin mirror (.atLeast lead)) =
      beginsUnder lead (transaction.entriesWithin store (.atLeast lead)) := by
  have same := entriesUnder_congr alike isShown
  rw [Transaction.entriesUnder, Transaction.entriesUnder] at same
  rw [← beginsUnder_takeWhile, same, beginsUnder_takeWhile]

/-- An index answers if it has entries, or else if its type has no records. -/
theorem outcome_indexAnswers
    (isRecordLead : layout.recordLead typeName = .ok recordLead)
    (isIndexLead : layout.indexLead typeName index = .ok indexLead) :
    outcome
        ((Transaction.environment (C := C) store postings records).indexAnswers layout typeName
          index)
        transaction =
      (.ok (!beginsUnder recordLead (transaction.entriesWithin store (.atLeast recordLead)) ||
        beginsUnder indexLead (transaction.entriesWithin store (.atLeast indexLead))),
        transaction) := by
  have listed (lead : Bytes) :
      outcome
          (liftM ((Transaction.environment (C := C) store postings records).entriesFrom lead) :
            Action Transaction (List Entry))
          transaction =
        (.ok (transaction.entriesWithin store (.atLeast lead)), transaction) := rfl
  have given (lead : Bytes) :
      outcome (Action.ofExcept (.ok lead)) transaction = (.ok lead, transaction) := rfl
  rw [Environment.indexAnswers, isRecordLead, isIndexLead, outcome_bind, given]
  dsimp only
  rw [outcome_bind, listed]
  dsimp only
  split
  next begins =>
    rw [outcome_bind, given]
    dsimp only
    rw [outcome_bind, listed, begins]
    rfl
  next begins =>
    rw [Bool.not_eq_true] at begins
    rw [begins]
    rfl

theorem indexAnswers_alike
    (isRecordLead : layout.recordLead typeName = .ok recordLead)
    (isIndexLead : layout.indexLead typeName index = .ok indexLead)
    (recordsShown : ∀ key, key.startsWith recordLead → shown key)
    (entriesShown : ∀ key, key.startsWith indexLead → shown key)
    (alike : SeeAlike shown store mirror transaction image) :
    ReadAlike transaction image
      ((Transaction.environment (C := C) store postings records).indexAnswers layout typeName index)
      ((Transaction.environment (C := C) mirror postings records).indexAnswers layout typeName
        index) := by
  refine ⟨_, outcome_indexAnswers isRecordLead isIndexLead, ?_⟩
  rw [outcome_indexAnswers isRecordLead isIndexLead, beginsUnder_congr alike recordsShown,
    beginsUnder_congr alike entriesShown]

/-- The path of a query by primary key or through the index is selected alike. -/
theorem selectPath_alike
    {schema : Schema R C}
    {query : Query C}
    (isRecordLead : layout.recordLead schema.typeName = .ok recordLead)
    (isIndexLead : layout.indexLead schema.typeName index = .ok indexLead)
    (recordsShown : ∀ key, key.startsWith recordLead → shown key)
    (entriesShown : ∀ key, key.startsWith indexLead → shown key)
    (alike : SeeAlike shown store mirror transaction image)
    (target : query.target = .primaryKey ∨ query.target = .index index) :
    ReadAlike transaction image
      ((Transaction.environment store postings records).selectPath layout schema query)
      ((Transaction.environment mirror postings records).selectPath layout schema query) := by
  have logged (path : AccessPath) :
      ReadAlike transaction image
        (do
          (Transaction.environment (C := C) store postings records).log
            (.pathSelected schema.typeName path)
          return path)
        (do
          (Transaction.environment (C := C) mirror postings records).log
            (.pathSelected schema.typeName path)
          return path) :=
    ⟨.ok path, rfl, rfl⟩
  rw [Environment.selectPath, Environment.selectPath]
  rcases target with target | target <;> rw [target] <;> dsimp only
  · exact .bind (.pure _) fun path _ => logged path
  · split
    · exact ⟨.error _, rfl, rfl⟩
    · refine .bind ?_ fun path _ => logged path
      refine .bind (indexAnswers_alike isRecordLead isIndexLead recordsShown entriesShown alike) ?_
      intro answers _
      cases answers with
      | false =>
          exact .pure _
      | true =>
          refine .bind ⟨.ok (schema.needsRecord query.targetCriteria), rfl, rfl⟩ ?_
          intro needs _
          cases needs <;> exact .pure _

end Selection

/--
Entries that lie ahead in two transactions: those under the lead are the same, and the
keys that they give are shown.
-/
structure Abreast
    {R C : Type}
    (postings : Codec PostingList)
    (records : Codec R)
    (scan : Scan R C)
    (shown : Bytes → Prop)
    (ahead further : List Entry) :
    Prop where
  same :
    (further.takeWhile fun entry => entry.1.startsWith scan.lead) =
      ahead.takeWhile fun entry => entry.1.startsWith scan.lead
  confined :
    ∀ entry ∈ ahead.takeWhile fun entry => entry.1.startsWith scan.lead, ∀ keys,
      scan.found postings records entry = .ok keys → ∀ key ∈ keys, shown key

section Walk

variable
  {R C : Type}
  {store mirror : Store}
  {postings : Codec PostingList}
  {records : Codec R}
  {scan : Scan R C}
  {shown : Bytes → Prop}
  {transaction image : Transaction}
  {ahead further : List Entry}

/-- Where one row of entries begins under the lead, so does the other, with the same entry. -/
theorem Abreast.tail
    {entry : Entry}
    {rest : List Entry}
    (under : entry.1.startsWith scan.lead = true)
    (abreast : Abreast postings records scan shown (entry :: rest) further) :
    ∃ others,
      further = entry :: others ∧ Abreast postings records scan shown rest others ∧
        ∀ keys, scan.found postings records entry = .ok keys → ∀ key ∈ keys, shown key := by
  obtain ⟨same, confined⟩ := abreast
  rw [List.takeWhile_cons, if_pos under] at same confined
  obtain ⟨confinedHere, confinedRest⟩ := List.forall_mem_cons.1 confined
  cases further with
  | nil =>
      cases same
  | cons other others =>
      rw [List.takeWhile_cons] at same
      split at same
      · obtain ⟨rfl, sameRest⟩ := List.cons.inj same
        exact ⟨others, rfl, ⟨sameRest, confinedRest⟩, confinedHere⟩
      · cases same

variable
  (store mirror transaction image)

/-- A walk gathers the same in both transactions, and leaves entries that lie alike ahead. -/
theorem gather_alike
    (room : Nat)
    (abreast : Abreast postings records scan shown ahead further) :
    ∃ gathered later,
      scan.gather (Transaction.environment store postings records) room ahead transaction =
          (gathered, transaction) ∧
        scan.gather (Transaction.environment mirror postings records) room further image =
            ({ gathered with ahead := later }, image) ∧
          Abreast postings records scan shown gathered.ahead later ∧
            ∀ key ∈ gathered.keys ++ gathered.pending, shown key := by
  induction ahead generalizing room further with
  | nil =>
      refine ⟨_, further, gather_stops (.inr rfl), gather_stops (.inr abreast.same), abreast, ?_⟩
      exact nofun
  | cons entry rest inductionHypothesis =>
      by_cases stops :
        room = 0 ∨ ((entry :: rest).takeWhile fun entry => entry.1.startsWith scan.lead) = []
      · refine ⟨_, further, gather_stops stops, gather_stops ?_, abreast, nofun⟩
        exact stops.imp_right fun noEntry => abreast.same.trans noEntry
      · obtain ⟨someRoom, someEntry⟩ := not_or.1 stops
        have under : entry.1.startsWith scan.lead = true := by
          by_contra notUnder
          exact someEntry (List.takeWhile_cons_of_neg notUnder)
        obtain ⟨others, rfl, restAbreast, confined⟩ := abreast.tail under
        rw [gather_cons someRoom under, gather_cons someRoom under]
        cases found : scan.found postings records entry with
        | error error =>
            exact ⟨_, entry :: others, rfl, rfl, abreast, nofun⟩
        | ok keys =>
            obtain ⟨gathered, later, walks, walksToo, laterAbreast, areShown⟩ :=
              inductionHypothesis (room - keys.length) restAbreast
            dsimp only
            rw [walks, walksToo]
            refine ⟨_, later, rfl, rfl, laterAbreast, ?_⟩
            have keysShown := confined keys found
            intro key member
            simp only [List.mem_append] at member
            rcases member with (taken | isLater) | (dropped | isLater)
            · exact keysShown key (List.mem_of_mem_take taken)
            · exact areShown key (List.mem_append_left _ isLater)
            · exact keysShown key (List.mem_of_mem_drop dropped)
            · exact areShown key (List.mem_append_right _ isLater)

variable
  {store mirror transaction image}

/-- The entries from which a scan goes on: those ahead, or all from its lead if it has not begun. -/
def Scan.goesOnFrom
    (store : Store)
    (transaction : Transaction)
    (scan : Scan R C)
    (progress : Progress)
    (ahead : List Entry) :
    List Entry :=
  if progress.positioned then ahead else transaction.entriesWithin store (.atLeast scan.lead)

/-- A pull hands out the same keys, all of them shown, in both transactions. -/
theorem pull_alike
    {progress : Progress}
    (waiting : ∀ key ∈ progress.pending, shown key)
    (abreast :
      Abreast postings records scan shown
        (scan.goesOnFrom store transaction progress ahead)
        (scan.goesOnFrom mirror image progress further)) :
    ∃ pulled later,
      scan.pull (Transaction.environment store postings records) progress ahead transaction =
          (pulled, transaction) ∧
        scan.pull (Transaction.environment mirror postings records) progress further image =
            ({ pulled with ahead := later }, image) ∧
          (∀ key ∈ pulled.producer.pending, shown key) ∧
            (∀ keys, pulled.outcome = .ok (.batch keys) → ∀ key ∈ keys, shown key) ∧
              Abreast postings records scan shown
                (scan.goesOnFrom store transaction pulled.producer pulled.ahead)
                (scan.goesOnFrom mirror image pulled.producer later) := by
  obtain ⟨positioned, pending⟩ := progress
  have pulls
      (store : Store)
      (transaction : Transaction)
      (ahead : List Entry) :
      let walk :=
        scan.gather (Transaction.environment store postings records)
          (scan.batchSize - (pending.take scan.batchSize).length)
          (scan.goesOnFrom store transaction ⟨positioned, pending⟩ ahead) transaction
      scan.pull (Transaction.environment store postings records) ⟨positioned, pending⟩ ahead
          transaction =
        (⟨Scan.outcome (pending.take scan.batchSize) walk.1,
          ⟨true, pending.drop scan.batchSize ++ walk.1.pending⟩, walk.1.ahead⟩, walk.2) := by
    cases positioned <;> rfl
  obtain ⟨gathered, later, walks, walksToo, laterAbreast, areShown⟩ :=
    gather_alike store mirror transaction image
      (scan.batchSize - (pending.take scan.batchSize).length) abreast
  rw [pulls, pulls, walks, walksToo]
  refine ⟨_, later, rfl, rfl, ?_, ?_, laterAbreast⟩
  · intro key member
    rcases List.mem_append.1 member with dropped | isGathered
    · exact waiting key (List.mem_of_mem_drop dropped)
    · exact areShown key (List.mem_append_right _ isGathered)
  · intro keys isBatch key member
    have handed : keys = pending.take scan.batchSize ++ gathered.keys := by
      simp only [Scan.outcome] at isBatch
      split at isBatch
      · cases isBatch
      · split at isBatch
        · cases isBatch
        · cases isBatch
          rfl
    rw [handed] at member
    rcases List.mem_append.1 member with taken | isGathered
    · exact waiting key (List.mem_of_mem_take taken)
    · exact areShown key (List.mem_append_left _ isGathered)

end Walk

namespace ResultStream

/-- The stream with other entries ahead of its cursor. -/
def withAhead
    {π : Type}
    (ahead : List Entry)
    (stream : ResultStream π) :
    ResultStream π :=
  { stream with cursor := some ahead }

section Stream

variable
  {R C : Type}
  {store mirror : Store}
  {postings : Codec PostingList}
  {records : Codec R}
  {scan : Scan R C}
  {shown : Bytes → Prop}
  {transaction image : Transaction}
  {stream : ResultStream Progress}
  {ahead further : List Entry}

/--
A stream whose scan goes on in both transactions alike, where in the other one its
cursor has other entries ahead, and whose keys that wait are shown.
-/
structure GoesOnAlike
    (store mirror : Store)
    (postings : Codec PostingList)
    (records : Codec R)
    (scan : Scan R C)
    (shown : Bytes → Prop)
    (transaction image : Transaction)
    (stream : ResultStream Progress)
    (further : List Entry) :
    Prop where
  queued : ∀ key ∈ stream.queued, shown key
  waiting : ∀ key ∈ stream.producer.pending, shown key
  abreast :
    ∃ ahead,
      stream.cursor = some ahead ∧
        Abreast postings records scan shown
          (scan.goesOnFrom store transaction stream.producer ahead)
          (scan.goesOnFrom mirror image stream.producer further)

/-- A key that is shown is looked up with the same result. -/
theorem resolve_alike
    {key : Bytes}
    (alike : SeeAlike shown store mirror transaction image)
    (isShown : shown key)
    (goesOn :
      GoesOnAlike store mirror postings records scan shown transaction image stream further) :
    ∃ entry later,
      stream.resolve (Transaction.environment (C := C) store postings records) key transaction =
          ((entry, later), transaction) ∧
        (stream.withAhead further).resolve
              (Transaction.environment (C := C) mirror postings records) key image =
            ((entry, later.withAhead further), image) ∧
          GoesOnAlike store mirror postings records scan shown transaction image later further := by
  have same := alike key isShown
  have goesOnToo (failure : Option IndexError) :
      GoesOnAlike store mirror postings records scan shown transaction image
        { stream with failure := failure } further :=
    ⟨goesOn.queued, goesOn.waiting, goesOn.abreast⟩
  simp only [resolve, Transaction.environment, bind, StateT.bind, same]
  cases transaction.get store key with
  | none =>
      exact ⟨none, _, rfl, rfl, goesOnToo _⟩
  | some value =>
      exact ⟨some (key, value), stream, rfl, rfl, goesOn⟩

/-- One step of a stream hands out the same in both transactions. -/
theorem next_alike
    (alike : SeeAlike shown store mirror transaction image)
    (goesOn :
      GoesOnAlike store mirror postings records scan shown transaction image stream further) :
    ∃ entry later furtherThen,
      stream.next (Transaction.environment (C := C) store postings records)
            (scan.pull (Transaction.environment store postings records)) transaction =
          ((entry, later), transaction) ∧
        (stream.withAhead further).next
              (Transaction.environment (C := C) mirror postings records)
              (scan.pull (Transaction.environment mirror postings records)) image =
            ((entry, later.withAhead furtherThen), image) ∧
          GoesOnAlike store mirror postings records scan shown transaction image later
            furtherThen := by
  obtain ⟨queuedShown, waiting, ahead, cursor, abreast⟩ := goesOn
  cases ended : stream.ended with
  | true =>
      have endedToo : (stream.withAhead further).ended = true := ended
      exact ⟨none, stream, further, next_of_ended ended, next_of_ended endedToo, queuedShown,
        waiting, ahead, cursor, abreast⟩
  | false =>
      have endedToo : (stream.withAhead further).ended = false := ended
      cases queued : stream.queued with
      | cons key rest =>
          have queuedToo : (stream.withAhead further).queued = key :: rest := queued
          rw [queued] at queuedShown
          obtain ⟨isShown, restShown⟩ := List.forall_mem_cons.1 queuedShown
          have restGoesOn :
              GoesOnAlike store mirror postings records scan shown transaction image
                { stream with queued := rest } further :=
            ⟨restShown, waiting, ahead, cursor, abreast⟩
          obtain ⟨entry, later, resolves, resolvesToo, laterGoesOn⟩ :=
            resolve_alike alike isShown restGoesOn
          rw [next_of_queued ended queued, next_of_queued endedToo queuedToo]
          exact ⟨entry, later, further, resolves, resolvesToo, laterGoesOn⟩
      | nil =>
          have queuedToo : (stream.withAhead further).queued = [] := queued
          obtain ⟨pulled, furtherThen, pulls, pullsToo, waitingThen, batchShown, abreastThen⟩ :=
            pull_alike waiting abreast
          have movedGoesOn
              (rest : List Bytes)
              (exhausted : Bool)
              (failure : Option IndexError)
              (restShown : ∀ key ∈ rest, shown key) :
              GoesOnAlike store mirror postings records scan shown transaction image
                ⟨pulled.producer, some pulled.ahead, rest, exhausted, failure⟩ furtherThen :=
            ⟨restShown, waitingThen, _, rfl, abreastThen⟩
          rw [next_of_pull ended queued cursor pulls, next_of_pull endedToo queuedToo rfl pullsToo]
          simp only [handOn]
          rcases result : pulled.outcome with error | ((_ | ⟨key, rest⟩) | _)
          · exact ⟨none, _, furtherThen, rfl, rfl, movedGoesOn _ _ _ queuedShown⟩
          · exact ⟨none, _, furtherThen, rfl, rfl, movedGoesOn _ _ _ queuedShown⟩
          · obtain ⟨isShown, restShown⟩ := List.forall_mem_cons.1 (batchShown _ result)
            obtain ⟨entry, later, resolves, resolvesToo, laterGoesOn⟩ :=
              resolve_alike alike isShown
                (movedGoesOn rest stream.exhausted stream.failure restShown)
            exact ⟨entry, later, furtherThen, resolves, resolvesToo, laterGoesOn⟩
          · exact ⟨none, _, furtherThen, rfl, rfl, movedGoesOn _ _ _ queuedShown⟩

/-- A stream is exhausted alike in both transactions. -/
theorem drain_alike
    (alike : SeeAlike shown store mirror transaction image)
    (goesOn :
      GoesOnAlike store mirror postings records scan shown transaction image stream further) :
    ∃ entries last furtherThen,
      stream.drain (Transaction.environment (C := C) store postings records)
            (scan.producer (Transaction.environment store postings records)) transaction =
          ((entries, last), transaction) ∧
        (stream.withAhead further).drain (Transaction.environment (C := C) mirror postings records)
              (scan.producer (Transaction.environment mirror postings records)) image =
            ((entries, last.withAhead furtherThen), image) := by
  generalize same : transaction = state
  induction stream, state using drain.induct
      (Transaction.environment (C := C) store postings records)
      (scan.producer (Transaction.environment store postings records))
    generalizing further with
  | @case1 stream state step stops =>
      subst same
      obtain ⟨entry, later, furtherThen, handed, handedToo, -⟩ := next_alike alike goesOn
      have isStep : step = ((entry, later), transaction) := handed
      rw [isStep] at stops
      obtain rfl : entry = none := stops
      exact ⟨[], later, furtherThen, drain_of_none handed, drain_of_none handedToo⟩
  | @case2 stream state step entry hands inductionHypothesis =>
      subst same
      obtain ⟨handedEntry, later, furtherThen, handed, handedToo, laterGoesOn⟩ :=
        next_alike alike goesOn
      have isStep : step = ((handedEntry, later), transaction) := handed
      rw [isStep] at hands inductionHypothesis
      obtain rfl : handedEntry = some entry := hands
      obtain ⟨entries, last, furtherLast, drained, drainedToo⟩ :=
        inductionHypothesis laterGoesOn rfl
      refine ⟨entry :: entries, last, furtherLast, ?_, ?_⟩
      · rw [drain_of_some handed, drained]
      · rw [drain_of_some handedToo, drainedToo]

end Stream

end ResultStream

/-- A candidate is the key of its entry, or one of the keys that its entry lists. -/
theorem candidate_of_found
    {R C : Type}
    {postings : Codec PostingList}
    {records : Codec R}
    {scan : Scan R C}
    {entry : Entry}
    {keys : List Bytes}
    {key : Bytes}
    (found : scan.found postings records entry = .ok keys)
    (member : key ∈ keys) :
    key = entry.1 ∨
      ∃ index list,
        scan.path = .indexedLookup index ∧ postings.decode entry.2 = .ok list ∧
          key ∈ list.keys := by
  rw [Scan.found] at found
  rcases isPath : scan.path with _ | _ | index <;> rw [isPath] at found <;> dsimp only at found
  · split at found
    · cases found
    next accepted _ =>
      cases found
      cases accepted with
      | false =>
          cases member
      | true =>
          exact .inl (List.mem_singleton.1 member)
  · cases found
    exact .inl (List.mem_singleton.1 member)
  · split at found
    · cases found
    · cases found
      cases member
    · split at found
      · cases found
      next list decoded =>
        cases found
        exact .inr ⟨index, list, rfl, decoded, member⟩

section Query

variable
  {R C : Type}
  {shown : Bytes → Prop}
  {store mirror : Store}
  {transaction image : Transaction}
  {postings : Codec PostingList}
  {records : Codec R}
  {layout : KeyLayout}
  {schema : Schema R C}
  {query : Query C}
  {index : String}
  {recordLead indexLead : Bytes}

/-- Along a path, a query is answered alike if all that it may read is shown. -/
theorem runAlong_alike
    {path : AccessPath}
    (alike : SeeAlike shown store mirror transaction image)
    (leadShown :
      ∀ scan,
        Scan.along path layout schema query = .ok scan →
          ∀ key, key.startsWith scan.lead → shown key)
    (listsShown :
      ∀ scan index,
        Scan.along path layout schema query = .ok scan →
          scan.path = .indexedLookup index →
            ∀ entry ∈ transaction.entriesUnder store scan.lead, ∀ list,
              postings.decode entry.2 = .ok list → ∀ key ∈ list.keys, shown key) :
    ReadAlike transaction image
      ((Transaction.environment store postings records).runAlong path layout schema query)
      ((Transaction.environment mirror postings records).runAlong path layout schema query) := by
  refine .bind (.ofExcept _) ?_
  intro scan isScan
  have underShown := leadShown scan isScan
  have abreast :
      Abreast postings records scan shown
        (scan.goesOnFrom store transaction .start []) (scan.goesOnFrom mirror image .start []) := by
    refine ⟨entriesUnder_congr alike underShown, ?_⟩
    intro entry member keys found key isCandidate
    rcases candidate_of_found found isCandidate with rfl | ⟨index, list, isPath, decoded, listed⟩
    · exact underShown entry.1 (Transaction.mem_entriesUnder.1 member).1
    · exact listsShown scan index isScan isPath entry member list decoded key listed
  have goesOn :
      (ResultStream.start Progress.start).GoesOnAlike store mirror postings records scan shown
        transaction image [] :=
    ⟨nofun, nofun, [], rfl, abreast⟩
  obtain ⟨entries, last, further, drained, drainedToo⟩ := ResultStream.drain_alike alike goesOn
  have exhausted := QueryStream.exhaust_of_drain drained
  have exhaustedToo := QueryStream.exhaust_of_drain drainedToo
  exact
    ⟨.ok (entries, last.failure), congrArg (fun ends => (Except.ok ends.1, ends.2)) exhausted,
      congrArg (fun ends => (Except.ok ends.1, ends.2)) exhaustedToo⟩

/--
A query by primary key or through an index is answered alike where the records of its
type and the entries of the index are seen alike, and these list records of the type.
-/
theorem runQuery_alike
    (isRecordLead : layout.recordLead schema.typeName = .ok recordLead)
    (isIndexLead : layout.indexLead schema.typeName index = .ok indexLead)
    (recordsShown : ∀ key, key.startsWith recordLead → shown key)
    (entriesShown : ∀ key, key.startsWith indexLead → shown key)
    (alike : SeeAlike shown store mirror transaction image)
    (listsShown :
      ∀ entry ∈ transaction.entriesUnder store indexLead, ∀ list,
        postings.decode entry.2 = .ok list → ∀ key ∈ list.keys, shown key)
    (target : query.target = .primaryKey ∨ query.target = .index index) :
    ReadAlike transaction image
      ((Transaction.environment store postings records).runQuery layout schema query)
      ((Transaction.environment mirror postings records).runQuery layout schema query) := by
  rw [Environment.runQuery_eq, Environment.runQuery_eq]
  refine .bind
    (selectPath_alike isRecordLead isIndexLead recordsShown entriesShown alike target) ?_
  intro path isSelected
  have overRecords
      (isPath : path = .primaryKeyScan ∨ path = .fullScan) :
      ReadAlike transaction image
        ((Transaction.environment store postings records).runAlong path layout schema query)
        ((Transaction.environment mirror postings records).runAlong path layout schema query) := by
    have isScan :
        Scan.along path layout schema query =
          .ok ⟨schema, query, path, recordLead, layout.batchSize⟩ :=
      along_of_recordLead isRecordLead isPath
    apply runAlong_alike alike
    · intro scan isScanToo
      cases isScan.symm.trans isScanToo
      exact recordsShown
    · intro scan index isScanToo isLookup
      cases isScan.symm.trans isScanToo
      rcases isPath with rfl | rfl <;> cases isLookup
  cases path with
  | primaryKeyScan =>
      exact overRecords (.inl rfl)
  | fullScan =>
      exact overRecords (.inr rfl)
  | indexedLookup chosen =>
      have isTarget := (selectPath_indexedLookup isSelected).2.1
      obtain rfl : chosen = index := by
        rcases target with target | target <;> cases isTarget.symm.trans target
        rfl
      have isScan :
          Scan.along (.indexedLookup chosen) layout schema query =
            .ok ⟨schema, query, .indexedLookup chosen, indexLead, layout.batchSize⟩ := by
        rw [Scan.along, isIndexLead]
        rfl
      apply runAlong_alike alike
      · intro scan isScanToo
        cases isScan.symm.trans isScanToo
        exact entriesShown
      · intro scan _ isScanToo _
        cases isScan.symm.trans isScanToo
        exact listsShown

end Query

end SecondaryIndex
