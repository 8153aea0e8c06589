import SecondaryIndex.Proofs.Query.Exhaustion

namespace SecondaryIndex

/-!
# The contract of pulling

A stream may be driven by any producer and over any transaction, and it may be
closed at any time.  To tell what it asks of them, its calls are recorded: each
pull with its outcome, and each key that is looked up with the answer.  The
stream looks up the pulled keys in their order, pulls when all of them have been
looked up, and goes on until a call ends it.  Then, and after it has been closed,
it makes no call any more.
-/

/-- A call that a stream makes, and what comes of it. -/
inductive Call where
  | pulled (outcome : Except IndexError Pull)
  | read (key : Bytes) (answer : Except StoreFailure (Option Bytes))

namespace Call

/-- The keys that a call brings. -/
def brought :
    Call → List Bytes
  | .pulled (.ok (.batch keys)) =>
      keys
  | _ =>
      []

/-- The key that a call looks up. -/
def asked :
    Call → Option Bytes
  | .read key _ =>
      some key
  | _ =>
      none

/-- The record that a call finds. -/
def found :
    Call → Option Entry
  | .read key (.ok (some value)) =>
      some (key, value)
  | _ =>
      none

/-- How a call ends a stream, if it does: with an error or without. -/
def ending :
    Call → Option (Option IndexError)
  | .pulled (.ok (.batch (_ :: _))) =>
      none
  | .pulled (.ok _) =>
      some none
  | .pulled (.error error) =>
      some (some error)
  | .read _ (.ok (some _)) =>
      none
  | .read key (.ok none) =>
      some (some (.inconsistent key))
  | .read _ (.error failure) =>
      some (some (.store failure))

/-- What a stream answers for a call. -/
def told
    (call : Call) :
    List (Option Entry) :=
  call.found.toList.map some ++ if call.ending.isSome then [none] else []

/-- For a key that is looked up, a stream answers with the record or with the end. -/
theorem told_read
    (key : Bytes)
    (answer : Except StoreFailure (Option Bytes)) :
    (Call.read key answer).told = [(Call.read key answer).found] := by
  rcases answer with failure | (_ | value) <;> rfl

end Call

section Recording

variable {σ π R C : Type}

/-- An environment that records what is looked up. -/
def Environment.recorded
    (environment : Environment σ R C) :
    Environment (σ × List Call) R C :=
  { environment.beside (List Call) with
    get := fun key state =>
      let (answer, later) := environment.get key state.1
      (answer, (later, state.2 ++ [.read key answer])) }

/-- A producer whose pulls are recorded. -/
def Producer.recorded
    (pull : Producer σ π) :
    Producer (σ × List Call) π :=
  fun producer ahead state =>
    let (pulled, later) := pull producer ahead state.1
    (pulled, (later, state.2 ++ [.pulled pulled.outcome]))

end Recording

/-- What the owner of a stream does with it. -/
inductive Turn where
  | next
  | close
  deriving DecidableEq

/-- A stream in use: the state it works on, and what it has answered so far. -/
structure StreamUse (σ π : Type) where
  state : σ
  stream : ResultStream π
  answers : List (Option Entry)

namespace StreamUse

variable {σ π R C : Type}

/-- A stream that has not been used. -/
def start
    (producer : π)
    (state : σ) :
    StreamUse σ π :=
  ⟨state, .start producer, []⟩

/-- Take a turn. -/
def turn
    (environment : Environment σ R C)
    (pull : Producer σ π)
    (use : StreamUse σ π) :
    Turn → StreamUse σ π
  | .next =>
      let ((answer, stream), state) := use.stream.next environment pull use.state
      ⟨state, stream, use.answers ++ [answer]⟩
  | .close =>
      { use with stream := use.stream.close }

/-- Take turns in order. -/
def turns
    (environment : Environment σ R C)
    (pull : Producer σ π)
    (use : StreamUse σ π)
    (turns : List Turn) :
    StreamUse σ π :=
  turns.foldl (turn environment pull) use

end StreamUse

namespace ResultStream

variable {σ π R C : Type}

/-- A stream goes on as long as it has no error and its producer is not exhausted. -/
theorem ended_eq_false_iff
    {stream : ResultStream π} :
    stream.ended = false ↔ stream.failure = none ∧ stream.exhausted = false := by
  simp [ended]

/-- What the next turn of a stream makes of it, and the calls for which it is made. -/
inductive Took
    (stream : ResultStream π) :
    ResultStream π → Option Entry → List Call → Prop where
  | finished
      (ended : stream.ended = true) :
      Took stream stream none []
  | adrift
      (queued : stream.queued = [])
      (cursor : stream.cursor = none) :
      Took stream stream none []
  | looked
      (key : Bytes)
      (rest : List Bytes)
      (answer : Except StoreFailure (Option Bytes))
      (goesOn : stream.ended = false)
      (queued : stream.queued = key :: rest) :
      Took stream { stream with queued := rest, failure := (Call.read key answer).ending.join }
        (Call.read key answer).found [.read key answer]
  | filled
      (producer : π)
      (further : List Entry)
      (key : Bytes)
      (rest : List Bytes)
      (answer : Except StoreFailure (Option Bytes))
      (goesOn : stream.ended = false)
      (queued : stream.queued = []) :
      Took stream
        { stream with
          producer, cursor := some further, queued := rest,
          failure := (Call.read key answer).ending.join }
        (Call.read key answer).found [.pulled (.ok (.batch (key :: rest))), .read key answer]
  | ranOut
      (producer : π)
      (further : List Entry)
      (outcome : Except IndexError Pull)
      (goesOn : stream.ended = false)
      (queued : stream.queued = [])
      (ends : (Call.pulled outcome).ending = some none) :
      Took stream { stream with producer, cursor := some further, exhausted := true } none
        [.pulled outcome]
  | failed
      (producer : π)
      (further : List Entry)
      (error : IndexError)
      (goesOn : stream.ended = false)
      (queued : stream.queued = []) :
      Took stream { stream with producer, cursor := some further, failure := some error } none
        [.pulled (.error error)]

variable
  (environment : Environment σ R C)
  (pull : Producer σ π)
  (stream : ResultStream π)
  (state : σ)
  (calls : List Call)

/-- Looking a key up is one call, whether or not it is recorded. -/
theorem resolve_recorded
    (key : Bytes)
    (sound : stream.failure = none) :
    ∃ answer after,
      stream.resolve environment key state =
          (((Call.read key answer).found,
            { stream with failure := (Call.read key answer).ending.join }), after) ∧
        stream.resolve environment.recorded key (state, calls) =
          (((Call.read key answer).found,
            { stream with failure := (Call.read key answer).ending.join }),
            (after, calls ++ [.read key answer])) := by
  rcases got : environment.get key state with ⟨answer, later⟩
  have gotToo :
      environment.recorded.get key (state, calls) =
        (answer, (later, calls ++ [.read key answer])) := by
    simp only [Environment.recorded, got]
  simp only [resolve, bind, StateT.bind, got, gotToo]
  rcases answer with failure | (_ | value)
  · let after := (environment.report (.logged (.iterationFailed (.store failure))) later).2
    exact ⟨.error failure, after, rfl, rfl⟩
  · let middle := (environment.report (.logged (.danglingCandidate key)) later).2
    let after := (environment.report (.logged (.iterationFailed (.inconsistent key))) middle).2
    exact ⟨.ok none, after, rfl, rfl⟩
  · have same :
        ({ stream with failure := (Call.read key (.ok (some value))).ending.join } :
          ResultStream π) =
        stream := by
      obtain ⟨_, _, _, _, _⟩ := stream
      cases sound
      rfl
    refine ⟨.ok (some value), later, ?_, ?_⟩
    · rw [same]
      rfl
    · rw [same]
      rfl

/-- A stream takes the same turn, and comes to the same, whether or not its calls are recorded. -/
theorem next_recorded :
    ∃ answer later after made,
      Took stream later answer made ∧
        stream.next environment pull state = ((answer, later), after) ∧
        stream.next environment.recorded (Producer.recorded pull) (state, calls) =
          ((answer, later), (after, calls ++ made)) := by
  rcases goesOn : stream.ended with _ | _
  · have sound := (ended_eq_false_iff.1 goesOn).1
    rcases queued : stream.queued with _ | ⟨key, rest⟩
    · rcases cursor : stream.cursor with _ | ahead
      · refine ⟨none, stream, state, [], .adrift queued cursor, ?_, ?_⟩
        · simp only [next, goesOn, queued, cursor]
          rfl
        · simp only [next, goesOn, queued, cursor, List.append_nil]
          rfl
      · rcases pulls : pull stream.producer ahead state with ⟨⟨outcome, producer, further⟩, middle⟩
        have pullsToo :
            Producer.recorded pull stream.producer ahead (state, calls) =
              (⟨outcome, producer, further⟩, (middle, calls ++ [.pulled outcome])) := by
          simp only [Producer.recorded, pulls]
        rw [next_of_pull goesOn queued cursor pulls, next_of_pull goesOn queued cursor pullsToo]
        rcases outcome with error | ((_ | ⟨key, rest⟩) | _)
        · let after := (environment.report (.logged (.iterationFailed error)) middle).2
          exact ⟨_, _, after, _, .failed producer further error goesOn queued, rfl, rfl⟩
        · exact ⟨_, _, middle, _, .ranOut producer further (.ok (.batch [])) goesOn queued rfl, rfl,
            rfl⟩
        · obtain ⟨answer, after, resolves, resolvesToo⟩ :=
            resolve_recorded environment
              { stream with producer, cursor := some further, queued := rest } middle
              (calls ++ [.pulled (.ok (.batch (key :: rest)))]) key sound
          refine ⟨_, _, after, _, .filled producer further key rest answer goesOn queued, ?_, ?_⟩
          · exact resolves
          · rw [List.append_assoc] at resolvesToo
            exact resolvesToo
        · exact ⟨_, _, middle, _, .ranOut producer further (.ok .finished) goesOn queued rfl, rfl,
            rfl⟩
    · obtain ⟨answer, after, resolves, resolvesToo⟩ :=
        resolve_recorded environment { stream with queued := rest } state calls key sound
      refine ⟨_, _, after, _, .looked key rest answer goesOn queued, ?_, ?_⟩
      · rw [next_of_queued goesOn queued]
        exact resolves
      · rw [next_of_queued goesOn queued]
        exact resolvesToo
  · refine ⟨none, stream, state, [], .finished goesOn, next_of_ended goesOn, ?_⟩
    rw [next_of_ended goesOn, List.append_nil]

end ResultStream

/-- Whether, at each pull, all keys that had been pulled before had been looked up. -/
def Lazily
    (calls : List Call) :
    Prop :=
  ∀ before outcome after,
    calls = before ++ .pulled outcome :: after →
      before.filterMap Call.asked = before.flatMap Call.brought

/-- One more call is made lazily if it is no pull, or if there is nothing to look up. -/
theorem Lazily.append_singleton
    {calls : List Call}
    {call : Call}
    (lazily : Lazily calls)
    (drained :
      ∀ outcome,
        call = .pulled outcome → calls.filterMap Call.asked = calls.flatMap Call.brought) :
    Lazily (calls ++ [call]) := by
  intro before outcome after isSplit
  rcases List.eq_nil_or_concat after with rfl | ⟨between, last, rfl⟩
  · obtain ⟨rfl, isLast⟩ := List.append_inj' isSplit rfl
    exact drained outcome (List.cons.inj isLast).1
  · rw [List.concat_eq_append, ← List.cons_append, ← List.append_assoc] at isSplit
    exact lazily before outcome between (List.append_inj' isSplit rfl).1

/-- What holds of a stream, whether or not it has been closed, after the calls that it has made. -/
structure Orderly
    {π : Type}
    (closed : Prop)
    (calls : List Call)
    (stream : ResultStream π)
    (answers : List (Option Entry)) :
    Prop where
  inOrder : calls.filterMap Call.asked <+: calls.flatMap Call.brought
  lazily : Lazily calls
  goesOn : ∀ call ∈ calls.dropLast, call.ending = none
  failure : stream.failure = (calls.getLast?.bind Call.ending).join
  settled :
    ∃ count, answers = (calls.filterMap Call.found).map some ++ List.replicate count none
  finished : stream.ended = true → closed ∨ ∃ call ∈ calls, call.ending.isSome
  stopped : ∀ call ∈ calls, call.ending.isSome → none ∈ answers
  /-- Until it ends, a stream has its cursor and all keys that have not been looked up. -/
  running :
    stream.ended = false →
      stream.cursor.isSome ∧
        calls.filterMap Call.asked ++ stream.queued = calls.flatMap Call.brought ∧
        (∀ call ∈ calls, call.ending = none) ∧
        answers = (calls.filterMap Call.found).map some

namespace Orderly

variable
  {π : Type}
  {closed : Prop}
  {calls : List Call}
  {stream later : ResultStream π}
  {answers : List (Option Entry)}

theorem start
    (producer : π) :
    Orderly closed [] (.start producer) [] where
  inOrder :=
    List.nil_prefix
  lazily before outcome after isSplit := by
    simp at isSplit
  goesOn :=
    nofun
  failure :=
    rfl
  settled :=
    ⟨0, rfl⟩
  finished :=
    nofun
  stopped :=
    nofun
  running _ :=
    ⟨rfl, rfl, nofun, rfl⟩

/-- A stream that has ended answers that there is nothing more. -/
theorem idle
    (orderly : Orderly closed calls stream answers)
    (ended : stream.ended = true) :
    Orderly closed calls stream (answers ++ [none]) where
  inOrder :=
    orderly.inOrder
  lazily :=
    orderly.lazily
  goesOn :=
    orderly.goesOn
  failure :=
    orderly.failure
  settled := by
    obtain ⟨count, isAnswers⟩ := orderly.settled
    exact ⟨count + 1, by rw [isAnswers, List.append_assoc, List.replicate_succ']⟩
  finished :=
    orderly.finished
  stopped _ _ _ :=
    List.mem_append_right _ (.head _)
  running goesOn := by
    rw [ended] at goesOn
    cases goesOn

/-- A call moves keys from those that it brings, through those that wait, to the one looked up. -/
theorem call
    (orderly : Orderly closed calls stream answers)
    (goesOn : stream.ended = false)
    (call : Call)
    (drained : ∀ outcome, call = .pulled outcome → stream.queued = [])
    (moves : call.asked.toList ++ later.queued = stream.queued ++ call.brought)
    (failure : later.failure = call.ending.join)
    (ends : later.ended = call.ending.isSome)
    (cursor : later.cursor.isSome) :
    Orderly closed (calls ++ [call]) later (answers ++ call.told) := by
  obtain ⟨-, inOrder, unended, isAnswers⟩ := orderly.running goesOn
  have inOrderThen :
      (calls ++ [call]).filterMap Call.asked ++ later.queued =
        (calls ++ [call]).flatMap Call.brought := by
    have asked :
        (calls ++ [call]).filterMap Call.asked =
          calls.filterMap Call.asked ++ call.asked.toList := by
      rw [List.filterMap_append]
      cases isAsked : call.asked <;> simp [isAsked]
    rw [asked, List.append_assoc, moves, ← List.append_assoc, inOrder]
    simp
  have found :
      (calls ++ [call]).filterMap Call.found =
        calls.filterMap Call.found ++ call.found.toList := by
    rw [List.filterMap_append]
    cases isFound : call.found <;> simp [isFound]
  constructor
  case inOrder =>
    exact ⟨later.queued, inOrderThen⟩
  case lazily =>
    apply orderly.lazily.append_singleton
    intro outcome isPull
    rw [drained outcome isPull, List.append_nil] at inOrder
    exact inOrder
  case goesOn =>
    rw [List.dropLast_concat]
    exact unended
  case failure =>
    rw [failure, List.getLast?_concat, Option.bind_some]
  case settled =>
    rw [found, isAnswers, Call.told]
    cases call.ending with
    | none =>
        exact ⟨0, by simp⟩
    | some ending =>
        exact ⟨1, by simp⟩
  case finished =>
    intro ended
    rw [ends] at ended
    exact .inr ⟨call, by simp, ended⟩
  case stopped =>
    intro other member ended
    rcases List.mem_append.1 member with earlier | isLast
    · rw [unended other earlier] at ended
      cases ended
    · rw [List.mem_singleton.1 isLast] at ended
      exact List.mem_append_right _ (List.mem_append_right _ (by simp [ended]))
  case running =>
    intro goesOnThen
    rw [ends, Option.isSome_eq_false_iff, Option.isNone_iff_eq_none] at goesOnThen
    refine ⟨cursor, inOrderThen, ?_, ?_⟩
    · intro other member
      rcases List.mem_append.1 member with earlier | isLast
      · exact unended other earlier
      · rw [List.mem_singleton.1 isLast, goesOnThen]
    · rw [found, isAnswers, Call.told, goesOnThen]
      simp

/-- The next key of those that wait is looked up. -/
theorem read
    {key : Bytes}
    {rest : List Bytes}
    (orderly : Orderly closed calls stream answers)
    (goesOn : stream.ended = false)
    (queued : stream.queued = key :: rest)
    (answer : Except StoreFailure (Option Bytes)) :
    Orderly closed (calls ++ [.read key answer])
      { stream with queued := rest, failure := (Call.read key answer).ending.join }
      (answers ++ [(Call.read key answer).found]) := by
  rw [← Call.told_read]
  have exhausted := (ResultStream.ended_eq_false_iff.1 goesOn).2
  apply orderly.call goesOn
  · exact nofun
  · simp [Call.asked, Call.brought, queued]
  · rfl
  · rw [ResultStream.ended, exhausted, Bool.or_false]
    rcases answer with failure | (_ | value) <;> rfl
  · exact (orderly.running goesOn).1

/-- A stream whose keys have all been looked up gets others. -/
theorem fill
    (orderly : Orderly closed calls stream answers)
    (goesOn : stream.ended = false)
    (queued : stream.queued = [])
    (producer : π)
    (further : List Entry)
    (key : Bytes)
    (rest : List Bytes) :
    Orderly closed (calls ++ [.pulled (.ok (.batch (key :: rest)))])
      { stream with producer, cursor := some further, queued := key :: rest } answers := by
  have untold : answers ++ (Call.pulled (.ok (.batch (key :: rest)))).told = answers :=
    List.append_nil answers
  rw [← untold]
  apply orderly.call goesOn
  · exact fun _ _ => queued
  · simp [Call.asked, Call.brought, queued]
  · exact (ResultStream.ended_eq_false_iff.1 goesOn).1
  · exact goesOn
  · rfl

/-- A stream ends with a pull that brings no keys. -/
theorem stop
    {outcome : Except IndexError Pull}
    (orderly : Orderly closed calls stream answers)
    (goesOn : stream.ended = false)
    (queued : stream.queued = [])
    (ends : (Call.pulled outcome).ending.isSome)
    (ended : later.ended = true)
    (failure : later.failure = (Call.pulled outcome).ending.join)
    (kept : later.queued = stream.queued)
    (cursor : later.cursor.isSome) :
    Orderly closed (calls ++ [.pulled outcome]) later (answers ++ [none]) := by
  have nothing :
      (Call.pulled outcome).brought = [] ∧ (Call.pulled outcome).told = [none] := by
    rcases outcome with error | ((_ | ⟨key, rest⟩) | _)
    · exact ⟨rfl, rfl⟩
    · exact ⟨rfl, rfl⟩
    · cases ends
    · exact ⟨rfl, rfl⟩
  rw [← nothing.2]
  apply orderly.call goesOn
  · exact fun _ _ => queued
  · rw [nothing.1, kept, List.append_nil]
    rfl
  · exact failure
  · rw [ended, ends]
  · exact cursor

/-- A turn of a stream keeps it orderly. -/
theorem next
    {answer : Option Entry}
    {made : List Call}
    (orderly : Orderly closed calls stream answers)
    (took : stream.Took later answer made) :
    Orderly closed (calls ++ made) later (answers ++ [answer]) := by
  cases took with
  | finished ended =>
      rw [List.append_nil]
      exact orderly.idle ended
  | adrift queued cursor =>
      rw [List.append_nil]
      cases goesOn : stream.ended with
      | true =>
          exact orderly.idle goesOn
      | false =>
          have hasCursor := (orderly.running goesOn).1
          rw [cursor] at hasCursor
          cases hasCursor
  | looked key rest answer goesOn queued =>
      exact orderly.read goesOn queued answer
  | filled producer further key rest answer goesOn queued =>
      have filled := orderly.fill goesOn queued producer further key rest
      have looked := filled.read goesOn rfl answer
      rw [List.append_assoc] at looked
      exact looked
  | ranOut producer further outcome goesOn queued ends =>
      apply orderly.stop goesOn queued
      · rw [ends]
        rfl
      · exact Bool.or_true _
      · rw [ends]
        exact (ResultStream.ended_eq_false_iff.1 goesOn).1
      · rfl
      · rfl
  | failed producer further error goesOn queued =>
      exact orderly.stop goesOn queued rfl rfl rfl rfl rfl

/-- A stream that is closed is over, and keeps its error. -/
theorem close
    (orderly : Orderly closed calls stream answers)
    (isClosed : closed) :
    Orderly closed calls stream.close answers where
  inOrder :=
    orderly.inOrder
  lazily :=
    orderly.lazily
  goesOn :=
    orderly.goesOn
  failure :=
    orderly.failure
  settled :=
    orderly.settled
  finished _ :=
    .inl isClosed
  stopped :=
    orderly.stopped
  running goesOn := by
    rw [ResultStream.ended, ResultStream.close, Bool.or_true] at goesOn
    cases goesOn

/-- A stream that has said that there is nothing more has ended. -/
theorem ended_of_none
    (orderly : Orderly closed calls stream answers)
    (saidSo : none ∈ answers) :
    stream.ended = true := by
  by_contra goesOn
  obtain ⟨-, -, -, isAnswers⟩ := orderly.running (Bool.not_eq_true _ ▸ goesOn)
  rw [isAnswers] at saidSo
  simp at saidSo

end Orderly

namespace StreamUse

variable
  {σ π R C : Type}
  (environment : Environment σ R C)
  (pull : Producer σ π)

/-- A stream is used in the same way, and orderly, when its calls are recorded. -/
theorem turns_recorded
    {closed : Prop}
    {taken : List Turn}
    (use : StreamUse σ π)
    (calls : List Call)
    (closes : .close ∈ taken → closed)
    (orderly : Orderly closed calls use.stream use.answers) :
    ∃ made,
      (StreamUse.mk (use.state, calls) use.stream use.answers).turns environment.recorded
            (Producer.recorded pull) taken =
          ⟨((use.turns environment pull taken).state, calls ++ made),
            (use.turns environment pull taken).stream,
            (use.turns environment pull taken).answers⟩ ∧
        Orderly closed (calls ++ made) (use.turns environment pull taken).stream
          (use.turns environment pull taken).answers := by
  induction taken generalizing use calls with
  | nil =>
      refine ⟨[], ?_, ?_⟩
      · rw [List.append_nil]
        rfl
      · rw [List.append_nil]
        exact orderly
  | cons turn rest inductionHypothesis =>
      have closesRest : .close ∈ rest → closed :=
        fun member => closes (.tail _ member)
      cases turn with
      | next =>
          obtain ⟨answer, later, after, made, took, takes, takesToo⟩ :=
            ResultStream.next_recorded environment pull use.stream use.state calls
          obtain ⟨more, same, orderlyThen⟩ :=
            inductionHypothesis ⟨after, later, use.answers ++ [answer]⟩ (calls ++ made) closesRest
              (orderly.next took)
          have taken :
              use.turn environment pull .next = ⟨after, later, use.answers ++ [answer]⟩ := by
            simp only [turn, takes]
          have takenToo :
              (StreamUse.mk (use.state, calls) use.stream use.answers).turn environment.recorded
                  (Producer.recorded pull) .next =
                ⟨(after, calls ++ made), later, use.answers ++ [answer]⟩ := by
            simp only [turn, takesToo]
          refine ⟨made ++ more, ?_⟩
          rw [turns, turns, List.foldl_cons, List.foldl_cons, taken, takenToo, ← List.append_assoc]
          exact ⟨same, orderlyThen⟩
      | close =>
          exact inductionHypothesis { use with stream := use.stream.close } calls closesRest
            (orderly.close (closes (.head _)))

/-- Turns at a stream that has ended make no call and change nothing but its answers. -/
theorem turns_of_ended
    (taken : List Turn)
    {use : StreamUse σ π}
    (ended : use.stream.ended = true) :
    let later := use.turns environment pull taken
    later.state = use.state ∧
      later.stream.ended = true ∧
      later.stream.failure = use.stream.failure ∧
      later.answers = use.answers ++ List.replicate (taken.count .next) none ∧
      (use.stream.close = use.stream → later.stream = use.stream) := by
  induction taken generalizing use with
  | nil =>
      simp [turns, ended]
  | cons turn rest inductionHypothesis =>
      cases turn with
      | next =>
          have taken :
              use.turn environment pull .next = { use with answers := use.answers ++ [none] } := by
            simp only [turn, ResultStream.next_of_ended ended]
          obtain ⟨sameState, endedLater, sameFailure, answers, sameStream⟩ :=
            @inductionHypothesis { use with answers := use.answers ++ [none] } ended
          rw [List.append_assoc] at answers
          rw [turns, List.foldl_cons, taken, List.count_cons_self, List.replicate_succ]
          exact ⟨sameState, endedLater, sameFailure, answers, sameStream⟩
      | close =>
          have endedThen : use.stream.close.ended = true :=
            Bool.or_true _
          obtain ⟨sameState, endedLater, sameFailure, answers, sameStream⟩ :=
            @inductionHypothesis { use with stream := use.stream.close } endedThen
          rw [List.count_cons_of_ne (by decide)]
          exact ⟨sameState, endedLater, sameFailure, answers,
            fun same => (sameStream rfl).trans same⟩

/-- A stream is over once it has been closed, and closing it again changes nothing. -/
theorem ended_of_closed
    {taken : List Turn}
    (use : StreamUse σ π)
    (closed : .close ∈ taken) :
    (use.turns environment pull taken).stream.ended = true ∧
      (use.turns environment pull taken).stream.close =
        (use.turns environment pull taken).stream := by
  obtain ⟨earlier, rest, rfl⟩ := List.append_of_mem closed
  have split :
      use.turns environment pull (earlier ++ .close :: rest) =
        ((use.turns environment pull earlier).turn environment pull .close).turns environment pull
          rest :=
    List.foldl_append
  have ended :
      ((use.turns environment pull earlier).turn environment pull .close).stream.ended = true :=
    Bool.or_true _
  obtain ⟨-, endedLater, -, -, sameStream⟩ :=
    turns_of_ended environment pull rest ended
  rw [split]
  refine ⟨endedLater, ?_⟩
  rw [sameStream rfl]
  rfl

/-- There is one answer for each turn that asks for one. -/
theorem length_answers
    (use : StreamUse σ π)
    (taken : List Turn) :
    (use.turns environment pull taken).answers.length =
      use.answers.length + taken.count .next := by
  induction taken generalizing use with
  | nil =>
      rfl
  | cons turn rest inductionHypothesis =>
      rw [turns, List.foldl_cons]
      refine (inductionHypothesis _).trans ?_
      cases turn with
      | next =>
          have answered :
              (use.turn environment pull .next).answers =
                use.answers ++ [(use.stream.next environment pull use.state).1.1] :=
            rfl
          rw [answered, List.length_append, List.length_singleton, List.count_cons_self]
          omega
      | close =>
          rw [List.count_cons_of_ne (by decide)]
          rfl

end StreamUse

/--
The contract of a stream with its producer, its transaction and its owner.  Take any
producer, any transaction, and any turns; recording the calls makes no difference.  The
stream answers with the records that are found, one for each key that is looked up, and
after them only that there is nothing more.  The keys that are looked up are those that
were pulled, in their order.  No call but the last one ends the stream, and the last one
tells its error: none for a batch without keys or the end of the producer, else the one
of the pull, the one of the store, or that the key is inconsistent.  A pull is only made
when all keys pulled before have been looked up.  A stream that has not been closed says
that there is nothing more only if a call has ended it.  Once it has said so, or has been
closed, it makes no call, says so again, and keeps its error; one that has been closed
stays as it is.
-/
theorem pull_contract
    {σ π R C : Type}
    (environment : Environment σ R C)
    (pull : Producer σ π)
    (producer : π)
    (state : σ)
    (turns : List Turn) :
    let plain := (StreamUse.start producer state).turns environment pull turns
    let used :=
      (StreamUse.start producer (state, [])).turns environment.recorded (Producer.recorded pull)
        turns
    let calls := used.state.2
    (used.state.1 = plain.state ∧ used.stream = plain.stream ∧ used.answers = plain.answers) ∧
      used.answers =
        (calls.filterMap Call.found).map some ++
          List.replicate (turns.count .next - (calls.filterMap Call.found).length) none ∧
      calls.filterMap Call.asked <+: calls.flatMap Call.brought ∧
      (∀ call ∈ calls.dropLast, call.ending = none) ∧
      used.stream.failure = (calls.getLast?.bind Call.ending).join ∧
      Lazily calls ∧
      (.close ∉ turns → (none ∈ used.answers ↔ ∃ call ∈ calls, call.ending.isSome)) ∧
      ∀ more,
        none ∈ used.answers ∨ .close ∈ turns →
          let later := used.turns environment.recorded (Producer.recorded pull) more
          later.state = used.state ∧
            later.answers = used.answers ++ List.replicate (more.count .next) none ∧
            later.stream.failure = used.stream.failure ∧
            (.close ∈ turns → later.stream = used.stream) := by
  intro plain used calls
  obtain ⟨made, same, orderly⟩ :=
    StreamUse.turns_recorded environment pull
      (StreamUse.start producer state) [] (fun closed : .close ∈ turns => closed) (.start producer)
  have isUsed : used = ⟨(plain.state, made), plain.stream, plain.answers⟩ :=
    same
  have orderlyUsed : Orderly (.close ∈ turns) calls used.stream used.answers := by
    rw [show calls = made from congrArg (fun use => use.state.2) isUsed, isUsed]
    exact orderly
  refine ⟨?_, ?_, orderlyUsed.inOrder, orderlyUsed.goesOn, orderlyUsed.failure,
    orderlyUsed.lazily, ?_, ?_⟩
  · rw [isUsed]
    exact ⟨rfl, rfl, rfl⟩
  · obtain ⟨count, isAnswers⟩ := orderlyUsed.settled
    have counted : used.answers.length = 0 + turns.count .next :=
      StreamUse.length_answers _ _ _ turns
    rw [isAnswers, List.length_append, List.length_map, List.length_replicate] at counted
    rw [isAnswers]
    congr 2
    omega
  · intro notClosed
    constructor
    · intro saidSo
      exact (orderlyUsed.finished (orderlyUsed.ended_of_none saidSo)).resolve_left notClosed
    · rintro ⟨call, member, ends⟩
      exact orderlyUsed.stopped call member ends
  · intro more isOver
    have ended : used.stream.ended = true := by
      rcases isOver with saidSo | closed
      · exact orderlyUsed.ended_of_none saidSo
      · exact (StreamUse.ended_of_closed _ _ _ closed).1
    obtain ⟨sameState, -, sameFailure, answers, sameStream⟩ :=
      StreamUse.turns_of_ended environment.recorded (Producer.recorded pull) more ended
    refine ⟨sameState, answers, sameFailure, ?_⟩
    exact fun closed => sameStream (StreamUse.ended_of_closed _ _ _ closed).2

end SecondaryIndex
