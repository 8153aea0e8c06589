import SecondaryIndex.Description
import SecondaryIndex.Session.Answer
import SecondaryIndex.Session.State
import SecondaryIndex.Session.Step

namespace SecondaryIndex.Session

/-!
# Acting on streams

The same actions can be asked of the stream of a query and of a stream over a
producer that hands out batches given in advance.
-/

/-- A producer that hands out given batches and then ends or keeps failing. -/
structure ScriptedProducer where
  batches : List (List Bytes)
  failing : Bool
  pulls : Nat
  deriving Repr, DecidableEq

namespace ScriptedProducer

/-- Hand out the next batch. -/
def pull
    (scripted : ScriptedProducer)
    (ahead : List Entry) :
    Pulled ScriptedProducer :=
  let pulls := scripted.pulls + 1
  match scripted.batches with
  | keys :: batches =>
      ⟨.ok (.batch keys), { scripted with batches, pulls }, ahead⟩
  | [] =>
      let outcome :=
        if scripted.failing then .error (.criteria "scripted failure") else .ok .finished
      ⟨outcome, { scripted with pulls }, ahead⟩

/-- A scripted producer comes to an end after its last batch. -/
def producer :
    FiniteProducer Session ScriptedProducer where
  pull scripted ahead :=
    pure (scripted.pull ahead)
  remaining scripted _ :=
    ⟨scripted.batches.length, 0, 0⟩
  advances := by
    intro scripted ahead state key keys batch
    rcases scripted with ⟨batches, failing, pulls⟩
    cases batches with
    | nil =>
        cases failing <;> nomatch batch
    | cons first rest =>
        exact .inl (Nat.lt_succ_self _)

end ScriptedProducer

/-- Carry out an action on a stream. -/
def actOn
    {π : Type}
    (environment : Environment Session Member (Criterion Member))
    (producer : FiniteProducer Session π)
    (stream : ResultStream π) :
    StreamAction → StateM Session (Answer × ResultStream π)
  | .next => do
      let (entry, stream) ← stream.next environment producer.pull
      return (.entry entry, stream)
  | .drain => do
      let (entries, stream) ← stream.drain environment producer
      return (.records entries stream.failure, stream)
  | .error =>
      return (.error stream.failure, stream)
  | .close =>
      return (.done, stream.close)
  | .state =>
      return (.text stream.describe, stream)

/-- Carry out a script on a stream over a scripted producer. -/
def runScripted
    (environment : Environment Session Member (Criterion Member))
    (stream : ResultStream ScriptedProducer) :
    List ScriptedAction → StateM Session (List Answer)
  | [] =>
      return []
  | .pulls :: rest => do
      return .number stream.producer.pulls :: (← runScripted environment stream rest)
  | .act action :: rest => do
      let (answer, stream) ← actOn environment ScriptedProducer.producer stream action
      return answer :: (← runScripted environment stream rest)

end SecondaryIndex.Session
