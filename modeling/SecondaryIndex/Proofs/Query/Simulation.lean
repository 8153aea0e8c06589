import SecondaryIndex.Proofs.Query.Exhaustion

namespace SecondaryIndex

/-!
# Queries in two environments

A query learns of its state only what the services of its environment answer, and of
its schema only the answers to the questions that it asks.  Where two environments
give the same answers on related states and leave related states behind, and two
schemas differ only in the answers to questions that never come up, a query comes to
the same in both.
-/

/-- Services that give the same answer on related states, and leave related states behind. -/
def Simulates
    {σ τ α : Type}
    (related : σ → τ → Prop)
    (service : StateM σ α)
    (image : StateM τ α) :
    Prop :=
  ∀ state other,
    related state other →
      ∃ answer later otherLater,
        service state = (answer, later) ∧
          image other = (answer, otherLater) ∧
            related later otherLater

namespace Simulates

variable
  {σ τ α β : Type}
  {related : σ → τ → Prop}

theorem pure
    (value : α) :
    Simulates related (Pure.pure value) (Pure.pure value) :=
  fun state other isRelated => ⟨value, state, other, rfl, rfl, isRelated⟩

theorem bind
    {service : StateM σ α}
    {image : StateM τ α}
    {next : α → StateM σ β}
    {nextImage : α → StateM τ β}
    (first : Simulates related service image)
    (rest : ∀ value, Simulates related (next value) (nextImage value)) :
    Simulates related (service >>= next) (image >>= nextImage) := by
  intro state other isRelated
  obtain ⟨value, middle, otherMiddle, answers, answersToo, stillRelated⟩ :=
    first state other isRelated
  simp only [Bind.bind, StateT.bind, answers, answersToo]
  exact rest value middle otherMiddle stillRelated

theorem ofExcept
    (result : Except IndexError α) :
    Simulates related (Action.ofExcept result).run (Action.ofExcept result).run :=
  .pure result

theorem lift
    {service : StateM σ α}
    {image : StateM τ α}
    (simulates : Simulates related service image) :
    Simulates related (liftM service : Action σ α).run (liftM image : Action τ α).run :=
  .bind simulates fun value => .pure (Except.ok value)

theorem ofCodec
    {service : StateM σ (Except CodecFailure α)}
    {image : StateM τ (Except CodecFailure α)}
    (simulates : Simulates related service image) :
    Simulates related (Action.ofCodec service).run (Action.ofCodec image).run :=
  .bind simulates fun result => .pure (result.mapError IndexError.codec)

/-- Operations that go on alike unless they have failed alike. -/
theorem andThen
    {action : Action σ α}
    {image : Action τ α}
    {next : α → Action σ β}
    {nextImage : α → Action τ β}
    (first : Simulates related action.run image.run)
    (rest : ∀ value, Simulates related (next value).run (nextImage value).run) :
    Simulates related (action >>= next).run (image >>= nextImage).run := by
  rw [ExceptT.run_bind, ExceptT.run_bind]
  refine first.bind ?_
  intro result
  cases result with
  | error error =>
      exact .pure (Except.error error)
  | ok value =>
      exact rest value

end Simulates

/-- Whether a report, if it is a question, is one of some kind. -/
def Event.Within
    {R C : Type}
    (asked : List C → Candidate R → Prop) :
    Event R C → Prop
  | .judged _ criteria candidate =>
      asked criteria candidate
  | _ =>
      True

/-- Environments whose services for a query simulate each other, for some kind of questions. -/
structure Environment.Simulates
    {σ τ R C : Type}
    (related : σ → τ → Prop)
    (asked : List C → Candidate R → Prop)
    (environment : Environment σ R C)
    (image : Environment τ R C) :
    Prop where
  get :
    ∀ key, SecondaryIndex.Simulates related (environment.get key) (image.get key)
  entriesFrom :
    ∀ lead, SecondaryIndex.Simulates related (environment.entriesFrom lead) (image.entriesFrom lead)
  decodePostings :
    ∀ bytes,
      SecondaryIndex.Simulates related (environment.decodePostings bytes)
        (image.decodePostings bytes)
  decodeRecord :
    ∀ bytes,
      SecondaryIndex.Simulates related (environment.decodeRecord bytes) (image.decodeRecord bytes)
  report :
    ∀ event,
      event.Within asked →
        SecondaryIndex.Simulates related (environment.report event) (image.report event)

/-- A schema whose questions are answered in another way. -/
def Schema.answering
    {R C : Type}
    (accepts : List C → Candidate R → Except IndexError Bool)
    (schema : Schema R C) :
    Schema R C :=
  { schema with accepts }

/-- A scan whose schema answers in another way. -/
def Scan.answering
    {R C : Type}
    (accepts : List C → Candidate R → Except IndexError Bool)
    (scan : Scan R C) :
    Scan R C :=
  { scan with schema := scan.schema.answering accepts }

/--
Some kind of questions to which two ways of answering give the same answers, and which all
questions belong to that a query asks along a path.
-/
structure AccessPath.Confined
    {R C : Type}
    (asked : List C → Candidate R → Prop)
    (schema : Schema R C)
    (accepts : List C → Candidate R → Except IndexError Bool)
    (query : Query C)
    (path : AccessPath) :
    Prop where
  agrees :
    ∀ criteria candidate,
      asked criteria candidate → accepts criteria candidate = schema.accepts criteria candidate
  records :
    ∀ criteria candidate, candidate.record?.isSome = true → asked criteria candidate
  values :
    ∀ index value,
      path = .indexedLookup index → asked query.targetCriteria (.indexEntry index value)

section Walk

variable
  {σ τ R C : Type}
  {related : σ → τ → Prop}
  {asked : List C → Candidate R → Prop}
  {environment : Environment σ R C}
  {image : Environment τ R C}
  {accepts : List C → Candidate R → Except IndexError Bool}
  {scan : Scan R C}
  (simulates : environment.Simulates related asked image)
  (confined : scan.path.Confined asked scan.schema accepts scan.query)

include simulates confined

/-- A question of the kind is answered alike. -/
theorem judge_simulates
    {criteria : List C}
    {candidate : Candidate R}
    (isAsked : asked criteria candidate) :
    Simulates related
      (environment.judge scan.schema criteria candidate).run
      (image.judge (scan.answering accepts).schema criteria candidate).run := by
  refine .andThen (.lift (simulates.report _ isAsked)) ?_
  intro _
  show
    Simulates related (Action.ofExcept (scan.schema.accepts criteria candidate)).run
      (Action.ofExcept (accepts criteria candidate)).run
  rw [confined.agrees criteria candidate isAsked]
  exact .ofExcept _

theorem fieldsMatch_simulates
    (key : Bytes)
    (record : R)
    (fields : List (String × List C)) :
    Simulates related
      (scan.fieldsMatch environment key record fields).run
      ((scan.answering accepts).fieldsMatch image key record fields).run := by
  induction fields with
  | nil =>
      exact .pure (Except.ok true)
  | cons field rest inductionHypothesis =>
      have isAsked := confined.records field.2 (.recordField field.1 key record) rfl
      refine .andThen (judge_simulates simulates confined isAsked) ?_
      intro accepted
      cases accepted with
      | false =>
          exact .pure (Except.ok false)
      | true =>
          exact inductionHypothesis

/-- A record is judged alike. -/
theorem recordMatches_simulates
    (entry : Entry) :
    Simulates related
      (scan.recordMatches environment entry).run
      ((scan.answering accepts).recordMatches image entry).run := by
  have sameQuery : (scan.answering accepts).query = scan.query := rfl
  rw [Scan.recordMatches, Scan.recordMatches, sameQuery]
  by_cases asks : scan.query.hasCriteria = true
  · rw [if_pos asks, if_pos asks]
    refine .andThen (.ofCodec (simulates.decodeRecord entry.2)) ?_
    intro record
    have isAsked :=
      confined.records scan.query.keyCriteria (.recordKey (scan.stripped entry.1) record) rfl
    refine .andThen (judge_simulates simulates confined isAsked) ?_
    intro accepted
    cases accepted with
    | false =>
        exact .pure (Except.ok false)
    | true =>
        exact fieldsMatch_simulates simulates confined _ record _
  · rw [if_neg asks, if_neg asks]
    exact .pure (Except.ok true)

/-- An entry gives the same candidates. -/
theorem candidates_simulates
    (entry : Entry) :
    Simulates related
      (scan.candidates environment entry).run
      ((scan.answering accepts).candidates image entry).run := by
  have samePath : (scan.answering accepts).path = scan.path := rfl
  rw [Scan.candidates, Scan.candidates, samePath]
  rcases isPath : scan.path with _ | _ | index
  · refine .andThen (recordMatches_simulates simulates confined entry) ?_
    intro accepted
    cases accepted with
    | false =>
        exact .pure (Except.ok [])
    | true =>
        exact .pure (Except.ok [entry.1])
  · exact .pure (Except.ok [entry.1])
  · have isAsked := confined.values index (scan.stripped entry.1) isPath
    refine .andThen (judge_simulates simulates confined isAsked) ?_
    intro accepted
    cases accepted with
    | false =>
        exact .pure (Except.ok [])
    | true =>
        refine .andThen (.ofCodec (simulates.decodePostings entry.2)) ?_
        intro list
        exact .pure (Except.ok list.keys)

/-- A walk gathers the same. -/
theorem gather_simulates
    (room : Nat)
    (ahead : List Entry) :
    Simulates related
      (scan.gather environment room ahead)
      ((scan.answering accepts).gather image room ahead) := by
  have sameLead : (scan.answering accepts).lead = scan.lead := rfl
  induction ahead generalizing room with
  | nil =>
      exact .pure _
  | cons entry rest inductionHypothesis =>
      rw [Scan.gather, Scan.gather, sameLead]
      by_cases stops : room = 0 ∨ entry.1.startsWith scan.lead = false
      · rw [if_pos stops, if_pos stops]
        exact .pure _
      · rw [if_neg stops, if_neg stops]
        refine .bind (candidates_simulates simulates confined entry) ?_
        intro result
        cases result with
        | error error =>
            exact .pure _
        | ok found =>
            refine .bind (simulates.report .advanced trivial) ?_
            intro _
            refine .bind (inductionHypothesis (room - found.length)) ?_
            intro later
            exact .pure _

/-- A pull hands out the same. -/
theorem pull_simulates
    (progress : Progress)
    (ahead : List Entry) :
    Simulates related
      (scan.pull environment progress ahead)
      ((scan.answering accepts).pull image progress ahead) := by
  have goesOn (further : List Entry) :
      Simulates related
        (do
          let waiting := progress.pending.take scan.batchSize
          let gathered ← scan.gather environment (scan.batchSize - waiting.length) further
          return (⟨Scan.outcome waiting gathered,
            ⟨true, progress.pending.drop scan.batchSize ++ gathered.pending⟩,
            gathered.ahead⟩ : Pulled Progress))
        (do
          let waiting := progress.pending.take scan.batchSize
          let gathered ←
            (scan.answering accepts).gather image (scan.batchSize - waiting.length) further
          return (⟨Scan.outcome waiting gathered,
            ⟨true, progress.pending.drop scan.batchSize ++ gathered.pending⟩,
            gathered.ahead⟩ : Pulled Progress)) := by
    refine .bind (gather_simulates simulates confined _ further) ?_
    intro gathered
    exact .pure _
  rw [Scan.pull, Scan.pull]
  split
  · exact goesOn ahead
  · exact .bind (simulates.entriesFrom scan.lead) goesOn

end Walk

namespace ResultStream

section Stream

variable
  {σ τ π R C : Type}
  {related : σ → τ → Prop}
  {asked : List C → Candidate R → Prop}
  {environment : Environment σ R C}
  {image : Environment τ R C}
  (simulates : environment.Simulates related asked image)

include simulates

theorem fail_simulates
    (error : IndexError)
    (stream : ResultStream π) :
    SecondaryIndex.Simulates related
      (stream.fail environment error)
      (stream.fail image error) :=
  .bind (simulates.report _ trivial) fun _ => .pure _

/-- A candidate key is looked up alike. -/
theorem resolve_simulates
    (key : Bytes)
    (stream : ResultStream π) :
    SecondaryIndex.Simulates related
      (stream.resolve environment key)
      (stream.resolve image key) := by
  refine .bind (simulates.get key) ?_
  intro answer
  rcases answer with failure | (_ | value)
  · exact fail_simulates simulates _ stream
  · exact .bind (simulates.report _ trivial) fun _ => fail_simulates simulates _ stream
  · exact .pure _

/-- Over producers that simulate each other, a stream hands out the same. -/
theorem next_simulates
    {pull : Producer σ π}
    {pullImage : Producer τ π}
    (pulls :
      ∀ producer ahead,
        SecondaryIndex.Simulates related (pull producer ahead) (pullImage producer ahead))
    (stream : ResultStream π) :
    SecondaryIndex.Simulates related
      (stream.next environment pull)
      (stream.next image pullImage) := by
  rw [next, next]
  split
  · exact .pure _
  · split
    · exact resolve_simulates simulates _ _
    · exact .pure _
    · refine .bind (pulls _ _) ?_
      intro pulled
      dsimp only
      split
      · exact resolve_simulates simulates _ _
      · exact .pure _
      · exact fail_simulates simulates _ _

/-- Over producers that simulate each other, a stream is exhausted alike. -/
theorem drain_simulates
    {producer : FiniteProducer σ π}
    {producerImage : FiniteProducer τ π}
    (pulls :
      ∀ progress ahead,
        SecondaryIndex.Simulates related
          (producer.pull progress ahead)
          (producerImage.pull progress ahead))
    (stream : ResultStream π) :
    SecondaryIndex.Simulates related
      (stream.drain environment producer)
      (stream.drain image producerImage) := by
  intro state other isRelated
  induction stream, state using drain.induct environment producer generalizing other with
  | @case1 stream state step stops =>
      obtain ⟨⟨entry, later⟩, after, otherAfter, handed, handedToo, stillRelated⟩ :=
        next_simulates simulates pulls stream state other isRelated
      have isStep : step = ((entry, later), after) := handed
      rw [isStep] at stops
      obtain rfl : entry = none := stops
      exact ⟨_, after, otherAfter, drain_of_none handed, drain_of_none handedToo, stillRelated⟩
  | @case2 stream state step entry hands inductionHypothesis =>
      obtain ⟨⟨handedEntry, later⟩, after, otherAfter, handed, handedToo, stillRelated⟩ :=
        next_simulates simulates pulls stream state other isRelated
      have isStep : step = ((handedEntry, later), after) := handed
      rw [isStep] at hands inductionHypothesis
      obtain rfl : handedEntry = some entry := hands
      obtain ⟨⟨entries, last⟩, ending, otherEnding, drained, drainedToo, relatedThen⟩ :=
        inductionHypothesis otherAfter stillRelated
      refine ⟨(entry :: entries, last), ending, otherEnding, ?_, ?_, relatedThen⟩
      · rw [drain_of_some handed, drained]
      · rw [drain_of_some handedToo, drainedToo]

end Stream

end ResultStream

section Query

variable
  {σ τ R C : Type}
  {related : σ → τ → Prop}
  {asked : List C → Candidate R → Prop}
  {environment : Environment σ R C}
  {image : Environment τ R C}
  {accepts : List C → Candidate R → Except IndexError Bool}
  (layout : KeyLayout)
  {schema : Schema R C}
  {query : Query C}

variable (simulates : environment.Simulates related asked image)

include simulates

/-- Whether an index answers is found out alike. -/
theorem indexAnswers_simulates
    (typeName index : String) :
    Simulates related
      (environment.indexAnswers layout typeName index).run
      (image.indexAnswers layout typeName index).run := by
  refine .andThen (.ofExcept _) fun records => ?_
  refine .andThen (.lift (simulates.entriesFrom records)) fun fromRecords => ?_
  split
  · refine .andThen (.ofExcept _) fun entries => ?_
    refine .andThen (.lift (simulates.entriesFrom entries)) fun fromEntries => ?_
    exact .pure (Except.ok _)
  · exact .pure (Except.ok true)

/-- The same path is selected. -/
theorem selectPath_simulates :
    Simulates related
      (environment.selectPath layout schema query).run
      (image.selectPath layout (schema.answering accepts) query).run := by
  have logged (path : AccessPath) :
      Simulates related
        (do
          environment.log (.pathSelected schema.typeName path)
          return path : Action σ AccessPath).run
        (do
          image.log (.pathSelected schema.typeName path)
          return path : Action τ AccessPath).run :=
    .andThen (.lift (simulates.report _ trivial)) fun _ => .pure (Except.ok path)
  rw [Environment.selectPath, Environment.selectPath]
  cases query.target with
  | primaryKey =>
      exact logged .primaryKeyScan
  | index name =>
      have sameIndex : (schema.answering accepts).index? name = schema.index? name := rfl
      dsimp only
      rw [sameIndex]
      split
      · exact .pure (Except.error _)
      · refine .andThen ?_ logged
        refine .andThen (indexAnswers_simulates layout simulates schema.typeName name) ?_
        intro answers
        cases answers with
        | false =>
            exact .pure (Except.ok AccessPath.fullScan)
        | true =>
            refine .andThen ?_ ?_
            · exact .andThen (.lift (simulates.report _ trivial)) fun _ => .pure (Except.ok _)
            · intro needs
              cases needs with
              | false =>
                  exact .pure (Except.ok (AccessPath.indexedLookup name))
              | true =>
                  exact .pure (Except.ok AccessPath.fullScan)

/-- Along a path, a query that asks no other questions is exhausted alike. -/
theorem runAlong_simulates
    {path : AccessPath}
    (confined : path.Confined asked schema accepts query) :
    Simulates related
      (environment.runAlong path layout schema query).run
      (image.runAlong path layout (schema.answering accepts) query).run := by
  obtain ⟨lead, isScan⟩ := along_congr (R := R) (C := C) path layout schema.typeName
  rw [Environment.runAlong, Environment.runAlong, isScan schema query layout.batchSize rfl,
    isScan (schema.answering accepts) query layout.batchSize rfl]
  cases lead with
  | error error =>
      exact .pure (Except.error error)
  | ok lead =>
      let scan : Scan R C := ⟨schema, query, path, lead, layout.batchSize⟩
      have isConfined : scan.path.Confined asked scan.schema accepts scan.query :=
        confined
      have drains :
          Simulates related
            (ResultStream.drain environment (scan.producer environment) (.start .start))
            (ResultStream.drain image ((scan.answering accepts).producer image) (.start .start)) :=
        ResultStream.drain_simulates simulates (pull_simulates simulates isConfined) _
      have exhausts :
          Simulates related
            (QueryStream.exhaust environment ⟨scan, .start .start⟩)
            (QueryStream.exhaust image ⟨scan.answering accepts, .start .start⟩) := by
        intro state other isRelated
        obtain ⟨⟨entries, last⟩, after, otherAfter, drained, drainedToo, stillRelated⟩ :=
          drains state other isRelated
        exact ⟨(entries, last.failure), after, otherAfter, QueryStream.exhaust_of_drain drained,
          QueryStream.exhaust_of_drain drainedToo, stillRelated⟩
      exact .lift exhausts

/-- A query comes to the same if its path asks no other questions. -/
theorem runQuery_simulates
    (confined :
      ∀ path state,
        (outcome (environment.selectPath layout schema query) state).1 = .ok path →
          path.Confined asked schema accepts query) :
    Simulates related
      (environment.runQuery layout schema query).run
      (image.runQuery layout (schema.answering accepts) query).run := by
  rw [Environment.runQuery_eq, Environment.runQuery_eq]
  intro state other isRelated
  obtain ⟨result, middle, otherMiddle, selected, selectedToo, stillRelated⟩ :=
    selectPath_simulates layout simulates state other isRelated
  have selects :
      outcome (environment.selectPath layout schema query) state = (result, middle) := selected
  have selectsToo :
      outcome (image.selectPath layout (schema.answering accepts) query) other =
        (result, otherMiddle) := selectedToo
  show
    ∃ answer later otherLater,
      outcome (environment.selectPath layout schema query >>= _) state = (answer, later) ∧
        outcome (image.selectPath layout (schema.answering accepts) query >>= _) other =
            (answer, otherLater) ∧
          related later otherLater
  rw [outcome_bind, outcome_bind, selects, selectsToo]
  cases result with
  | error error =>
      exact ⟨_, middle, otherMiddle, rfl, rfl, stillRelated⟩
  | ok path =>
      have isConfined := confined path state (congrArg Prod.fst selects)
      exact runAlong_simulates layout simulates isConfined middle otherMiddle stillRelated

end Query

end SecondaryIndex
