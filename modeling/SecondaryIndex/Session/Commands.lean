import SecondaryIndex.QueryStream
import SecondaryIndex.Session.Environment
import SecondaryIndex.Session.Streams
import SecondaryIndex.Session.Transactions

namespace SecondaryIndex.Session

/-!
# Carrying out commands

A command works in a scope, whose layout and schema it looks up when it needs
them.
-/

/-- The key layouts and the schemas that steps refer to by number. -/
structure Configuration where
  layouts : List KeyLayout
  schemas : List (Schema Member (Criterion Member))

/-- The key layout and the schema of a scope. -/
def configured
    (configuration : Configuration)
    (scope : Scope) :
    Attempt (KeyLayout × Schema Member (Criterion Member)) := do
  let layout ←
    Attempt.ofOption (.unknownLayout scope.layout) configuration.layouts[scope.layout]?
  let schema ←
    Attempt.ofOption (.unknownSchema scope.schema) configuration.schemas[scope.schema]?
  return (layout, schema)

/-- The full key of a record. -/
def fullKey
    (layout : KeyLayout)
    (schema : Schema Member (Criterion Member)) :
    RecordRef → Attempt Bytes
  | .full key =>
      return key
  | .primary key =>
      Attempt.ofResult (layout.recordKey schema.typeName key)

/-- Carry out a command on the record of a full key. -/
def runRecordCommand
    (environment : Environment Session Member (Criterion Member))
    (layout : KeyLayout)
    (schema : Schema Member (Criterion Member))
    (key : Bytes) :
    RecordCommand → Attempt Answer
  | .insert member => do
      Attempt.ofRecord (environment.insertRecord layout schema key member)
      return .bytes (some key)
  | .store member => do
      Attempt.ofRecord (environment.storeRecord key member)
      return .bytes (some key)
  | .update member => do
      let found ← Attempt.ofRecord (environment.updateRecord layout schema key member)
      return if found then .bytes (some key) else .missing
  | .remove => do
      let found ← Attempt.ofRecord (environment.removeRecord layout schema key)
      return if found then .bytes (some key) else .missing
  | .load => do
      return .member (← Attempt.ofRecord (environment.loadRecord key))
  | .index member => do
      Attempt.ofIndex (environment.indexRecord layout schema key member)
      return .done
  | .unindex member => do
      Attempt.ofIndex (environment.unindexRecord layout schema key member)
      return .done
  | .reindex old new => do
      Attempt.ofIndex (environment.reindexRecord layout schema key old new)
      return .done

/-- Walk the entries under a lead with a cursor. -/
def walk
    (lead : Bytes) :
    List Entry → StateM Session (List Entry)
  | [] =>
      return []
  | entry :: rest => do
      if entry.1.startsWith lead then
        recordOperation .next
        return entry :: (← walk lead rest)
      else
        return []

/-- The entries of an index with their posting lists, read behind faults and records. -/
def indexEntries
    (environment : Environment Session Member (Criterion Member))
    (lead : Bytes) :
    List Entry → Action Session (List (Bytes × List Bytes))
  | [] =>
      return []
  | entry :: rest => do
      let list ← Action.ofCodec (environment.decodePostings entry.2)
      return (entry.1.drop lead.length, list.keys) ::
        (← indexEntries environment lead rest)

/-- Pull batches of a scan, each with the cursor of its number. -/
def pullBatches
    (environment : Environment Session Member (Criterion Member))
    (scan : Scan Member (Criterion Member))
    (progress : Progress)
    (cursors : OrderedMap Nat (List Entry)) :
    List Nat → StateM Session (List Answer)
  | [] =>
      return []
  | cursor :: rest => do
      let pulled ← scan.pull environment progress (cursors.findD cursor [])
      let answer :=
        match pulled.outcome with
        | .ok pull => .pulled pull
        | .error error => .failed (.index error)
      let later ←
        pullBatches environment scan pulled.producer (cursors.insert cursor pulled.ahead) rest
      return answer :: later

/-- Carry out a command. -/
def runCommand
    (configuration : Configuration)
    (scope : Scope)
    (command : Command) :
    Attempt Answer := do
  let name := scope.transaction
  let environment := environment name
  match command with
  | .begin =>
      beginTransaction name
      return .done
  | .commit =>
      commitTransaction name
      return .done
  | .rollback =>
      rollbackTransaction name
      return .done
  | .allow allowance =>
      modify fun session => { session with allowance }
      return .done
  | .fault faults =>
      setFaults name faults
      return .done
  | .get key =>
      return .bytes (← Attempt.ofStore (environment.get key))
  | .put key value =>
      Attempt.ofStore (environment.set key value)
      return .done
  | .delete key =>
      Attempt.ofStore (environment.delete key)
      return .done
  | .dump lead =>
      return .entries (← walk lead (← environment.entriesFrom lead))
  | .record key command =>
      let (layout, schema) ← configured configuration scope
      runRecordCommand environment layout schema (← fullKey layout schema key) command
  | .indexAnswers index =>
      let (layout, schema) ← configured configuration scope
      return .truth (← Attempt.ofIndex (environment.indexAnswers layout schema.typeName index))
  | .selectPath conditions =>
      let (layout, schema) ← configured configuration scope
      let query ← Attempt.ofConditions conditions
      return .path (← Attempt.ofIndex (environment.selectPath layout schema query))
  | .entries index =>
      let (layout, schema) ← configured configuration scope
      let lead ← Attempt.ofResult (layout.indexLead schema.typeName index)
      let current ← opened name
      let entries := current.transaction.entriesUnder (← get).store lead
      return .postings (← Attempt.ofIndex (indexEntries environment lead entries))
  | .query conditions =>
      let (layout, schema) ← configured configuration scope
      let query ← Attempt.ofConditions conditions
      let started ← Attempt.ofIndex (environment.openQuery layout schema query)
      let (entries, ended) ← started.drain environment
      return .search started.scan.path entries ended.stream.failure
  | .pull path conditions cursors =>
      let (layout, schema) ← configured configuration scope
      let query ← Attempt.ofConditions conditions
      let scan ← Attempt.ofResult (Scan.along path layout schema query)
      return .script (← pullBatches environment scan .start .empty cursors)
  | .scripted batches failing script =>
      let stream := ResultStream.start (⟨batches, failing, 0⟩ : ScriptedProducer)
      return .script (← runScripted environment stream script)

end SecondaryIndex.Session
