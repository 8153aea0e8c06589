import SecondaryIndex.Producer

namespace SecondaryIndex

/-!
# Streams of records

A result stream hands out records one at a time.  It asks a producer for more
candidate keys only when it has none left, and looks each key up in the
transaction when its turn comes.  It ends at the end of the producer or at the
first error, which it keeps; after either, and after being closed, it hands out
nothing and asks for nothing.
-/

/-- The state of a stream; a closed stream has let go of its cursor. -/
structure ResultStream (π : Type) where
  producer : π
  cursor : Option (List Entry)
  queued : List Bytes
  exhausted : Bool
  failure : Option IndexError

namespace ResultStream

variable {σ π R C : Type}

/-- A stream over a producer that has handed out nothing. -/
def start
    (producer : π) :
    ResultStream π where
  producer :=
    producer
  cursor :=
    some []
  queued :=
    []
  exhausted :=
    false
  failure :=
    none

/-- Record an error, report it and hand out nothing. -/
def fail
    (environment : Environment σ R C)
    (error : IndexError)
    (stream : ResultStream π) :
    StateM σ (Option Entry × ResultStream π) := do
  environment.report (.logged (.iterationFailed error))
  return (none, { stream with failure := some error })

/-- Look a candidate key up and hand out its record. -/
def resolve
    (environment : Environment σ R C)
    (key : Bytes)
    (stream : ResultStream π) :
    StateM σ (Option Entry × ResultStream π) := do
  match ← environment.get key with
  | .ok (some value) =>
      return (some (key, value), stream)
  | .ok none =>
      environment.report (.logged (.danglingCandidate key))
      stream.fail environment (.inconsistent key)
  | .error failure =>
      stream.fail environment (.store failure)

/-- Whether the stream has ended, by error or otherwise. -/
def ended
    (stream : ResultStream π) :
    Bool :=
  stream.failure.isSome || stream.exhausted

/-- Hand out the next record. -/
def next
    (environment : Environment σ R C)
    (pull : Producer σ π)
    (stream : ResultStream π) :
    StateM σ (Option Entry × ResultStream π) :=
  if stream.ended then
    return (none, stream)
  else
    match stream.queued, stream.cursor with
    | key :: rest, _ =>
        ({ stream with queued := rest } : ResultStream π).resolve environment key
    | [], none =>
        return (none, stream)
    | [], some ahead => do
        let pulled ← pull stream.producer ahead
        let moved : ResultStream π :=
          { stream with producer := pulled.producer, cursor := some pulled.ahead }
        match pulled.outcome with
        | .ok (.batch (key :: rest)) =>
            ({ moved with queued := rest } : ResultStream π).resolve environment key
        | .ok _ =>
            return (none, { moved with exhausted := true })
        | .error error =>
            moved.fail environment error

/-- Let go of the cursor and of the keys that wait. -/
def close
    (stream : ResultStream π) :
    ResultStream π :=
  { stream with cursor := none, queued := [], exhausted := true }

/-- What remains of a stream: the rest of its producer and the keys that wait. -/
def remaining
    (producer : FiniteProducer σ π)
    (stream : ResultStream π) :
    Remaining :=
  (producer.remaining stream.producer (stream.cursor.getD [])).withKeys stream.queued.length

/-- A record is only handed out by a look-up that leaves the stream as it is. -/
theorem resolve_some
    {environment : Environment σ R C}
    {key : Bytes}
    {stream : ResultStream π}
    {state : σ}
    {entry : Entry}
    (handed : (stream.resolve environment key state).1.1 = some entry) :
    (stream.resolve environment key state).1.2 = stream := by
  rcases answer : environment.get key state with ⟨found, later⟩
  simp only [resolve, bind, StateT.bind, answer] at handed ⊢
  rcases found with failure | (none | value)
  · exact nomatch (show (none : Option Entry) = some entry from handed)
  · exact nomatch (show (none : Option Entry) = some entry from handed)
  · rfl

/-- A stream that hands out a record has less before it than it had. -/
theorem remaining_next
    {environment : Environment σ R C}
    {producer : FiniteProducer σ π}
    {stream : ResultStream π}
    {state : σ}
    {entry : Entry}
    (handed : (stream.next environment producer.pull state).1.1 = some entry) :
    ((stream.next environment producer.pull state).1.2.remaining producer).Before
      (stream.remaining producer) := by
  rcases finished : stream.ended with false | true
  · rcases queued : stream.queued with nil | ⟨key, rest⟩
    · rcases cursor : stream.cursor with none | ahead
      · simp only [next, finished, Bool.false_eq_true, if_false, queued, cursor] at handed
        exact nomatch (show (none : Option Entry) = some entry from handed)
      · have advances := producer.advances stream.producer ahead state
        rcases answer : producer.pull stream.producer ahead state with ⟨pulled, later⟩
        rw [answer] at advances
        simp only [next, finished, Bool.false_eq_true, if_false, queued, cursor, bind, StateT.bind,
          answer] at handed ⊢
        rcases outcome : pulled.outcome with error | ((nil | ⟨key, rest⟩) | finished)
        · simp only [outcome] at handed
          exact nomatch (show (none : Option Entry) = some entry from handed)
        · simp only [outcome] at handed
          exact nomatch (show (none : Option Entry) = some entry from handed)
        · simp only [outcome] at handed ⊢
          have same := resolve_some handed
          have nearer := advances key rest outcome
          simpa [same, remaining, queued, cursor, Remaining.withKeys] using nearer
        · simp only [outcome] at handed
          exact nomatch (show (none : Option Entry) = some entry from handed)
    · simp only [next, finished, Bool.false_eq_true, if_false, queued] at handed ⊢
      have same := resolve_some handed
      simp [same, remaining, Remaining.withKeys, Remaining.Before, queued]
  · simp only [next, finished, if_true] at handed
    exact nomatch (show (none : Option Entry) = some entry from handed)

/-- Hand out records to the end of the stream, which a finite producer has. -/
def drain
    (environment : Environment σ R C)
    (producer : FiniteProducer σ π)
    (stream : ResultStream π) :
    StateM σ (List Entry × ResultStream π) :=
  fun state =>
    let step := stream.next environment producer.pull state
    match _handed : step.1.1 with
    | none =>
        (([], step.1.2), step.2)
    | some entry =>
        let rest := drain environment producer step.1.2 step.2
        ((entry :: rest.1.1, rest.1.2), rest.2)
termination_by
  let remaining := stream.remaining producer
  (remaining.stages, remaining.entries, remaining.keys)
decreasing_by
  have nearer := remaining_next _handed
  simp only [Remaining.Before] at nearer
  simp only [Prod.lex_def]
  omega

end ResultStream

end SecondaryIndex
