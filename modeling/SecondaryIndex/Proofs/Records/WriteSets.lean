import SecondaryIndex.Proofs.Records.Script

namespace SecondaryIndex.Records

/-!
# What a script writes

A script whose operations take effect writes the keys of their records and the
entries in which the old and the new records of its operations are to be listed,
and no other key.  It makes no difference that an entry may be visited again and
again, by several indexes or by several operations: the first visit changes it.
-/

open Versioned

variable
  {ι : Type}
  {catalog : Catalog ι}

/-- Whether a key is the one of the record of an operation, or an entry of the old or new record. -/
def Operation.Concerns
    (operation : Operation catalog)
    (view : Bytes → Option Bytes)
    (key : Bytes) :
    Prop :=
  ∃ own old,
    catalog.recordKey operation.type operation.primary = .ok own ∧
      Reads (catalog.types operation.type).codec (view own) old ∧
        (key = own ∨
          (∃ record,
            old = some record ∧
              (catalog.types operation.type).schema.Lists catalog.layout record key) ∨
          ∃ record,
            operation.record? = some record ∧
              (catalog.types operation.type).schema.Lists catalog.layout record key)

/-- Whether a key concerns one of the operations of a script, in the view in which it is made. -/
def Touched
    (store : Store)
    (before : Transaction)
    (script : List (Operation catalog))
    (key : Bytes) :
    Prop :=
  ∃ earlier operation later middle,
    script = earlier ++ operation :: later ∧
      CarriesOut store before earlier middle ∧ operation.Concerns (middle.get store) key

section Operations

variable
  {store : Store}
  {operation : Operation catalog}
  {key entry own : Bytes}
  {old : Option (catalog.types operation.type).Record}
  {before middle after : Transaction}

/-- What is stored reads as one record, or as none. -/
theorem reads_unique
    {R : Type}
    {records : Codec R}
    {content : Option Bytes}
    {first second : Option R}
    (reads : Reads records content first)
    (readsToo : Reads records content second) :
    first = second := by
  cases first with
  | none =>
      rw [reads_none_iff.1 reads] at readsToo
      cases second with
      | none =>
          rfl
      | some record =>
          exact readsToo.elim
  | some record =>
      obtain ⟨bytes, rfl, decoded⟩ := reads_some_iff.1 reads
      cases second with
      | none =>
          exact readsToo.elim
      | some other =>
          exact congrArg some (Except.ok.inj (decoded.symm.trans readsToo))

/-- An entry is involved if the old or the new record is to be listed in it. -/
theorem involves_iff
    {type : RecordType}
    {layout : KeyLayout}
    {old new : Option type.Record} :
    Involves layout old new entry ↔
      (∃ record, old = some record ∧ type.schema.Lists layout record entry) ∨
        ∃ record, new = some record ∧ type.schema.Lists layout record entry := by
  have ofRecord (change : Change) (record? : Option type.Record) :
      (∃ update ∈ record?.elim [] (type.schema.updates change),
          update.Targets layout type.schema.typeName entry) ↔
        ∃ record, record? = some record ∧ type.schema.Lists layout record entry := by
    cases record? with
    | none =>
        simp
    | some record =>
        simpa using targeted_iff
  simp only [Involves, replacements, List.mem_append, or_and_right, exists_or, ofRecord]

/-- An operation writes what it concerns and nothing else. -/
theorem wrote_operation_iff
    (lawful : catalog.Lawful)
    (agrees : catalog.Agrees (before.get store))
    (effective : operation.isEffective (before.get store))
    (success : outcome (operation.action store) before = (.ok (), after)) :
    after.Wrote key ↔ before.Wrote key ∨ operation.Concerns (before.get store) key := by
  obtain ⟨own, old, middle, replaces⟩ := (operation_ok_iff effective).1 success
  constructor
  · intro wrote
    rcases targeted_of_wrote lawful.postings replaces.maintains wrote with wroteThen | involved
    · rcases replaces.writes.wrote_iff.1 wroteThen with rfl | wroteBefore
      · exact .inr ⟨key, old, replaces.isKey, replaces.reads, .inl rfl⟩
      · exact .inl wroteBefore
    · exact .inr ⟨own, old, replaces.isKey, replaces.reads, .inr (involves_iff.1 involved)⟩
  · rintro (wroteBefore | ⟨other, otherOld, isOther, readsOther, rfl | involved⟩)
    · exact wrote_operation success wroteBefore
    · cases replaces.isKey.symm.trans isOther
      exact replaces.wrote_key
    · cases replaces.isKey.symm.trans isOther
      obtain rfl := reads_unique replaces.reads readsOther
      exact replaces.wrote_entry lawful agrees (involves_iff.2 involved)

end Operations

section Scripts

variable
  {store : Store}
  {script : List (Operation catalog)}
  {operation : Operation catalog}
  {key : Bytes}
  {before middle after : Transaction}

namespace CarriesOut

theorem of_append_singleton
    (carries : CarriesOut store before (script ++ [operation]) after) :
    ∃ middle,
      CarriesOut store before script middle ∧
        operation.isEffective (middle.get store) ∧
          outcome (operation.action store) middle = (.ok (), after) := by
  generalize isSplit : script ++ [operation] = whole at carries
  cases carries with
  | nil =>
      exact absurd isSplit (by simp)
  | @snoc earlier last middle _ carried effective success =>
      obtain ⟨rfl, isLast⟩ := List.append_inj' isSplit rfl
      cases isLast
      exact ⟨middle, carried, effective, success⟩

/-- Carrying out no operation changes nothing. -/
theorem eq_of_nil
    (carries : CarriesOut store before ([] : List (Operation catalog)) after) :
    after = before := by
  generalize isSplit : [] = whole at carries
  cases carries with
  | nil =>
      rfl
  | snoc =>
      exact absurd isSplit (by simp)

/-- A script comes to one end. -/
theorem unique
    {other : Transaction}
    (carries : CarriesOut store before script after)
    (carriesToo : CarriesOut store before script other) :
    after = other := by
  induction carries generalizing other with
  | nil =>
      exact carriesToo.eq_of_nil.symm
  | snoc earlier effective success inductionHypothesis =>
      obtain ⟨middle, earlierToo, -, successToo⟩ := carriesToo.of_append_singleton
      cases inductionHypothesis earlierToo
      cases success.symm.trans successToo
      rfl

/-- A script that is carried out in a view that agrees leaves a view that agrees. -/
theorem agrees
    (lawful : catalog.Lawful)
    (agreesBefore : catalog.Agrees (before.get store))
    (carries : CarriesOut store before script after) :
    catalog.Agrees (after.get store) := by
  induction carries with
  | nil =>
      exact agreesBefore
  | snoc earlier effective success inductionHypothesis =>
      exact agrees_operation lawful inductionHypothesis success

end CarriesOut

theorem not_touched_nil :
    ¬ Touched store before ([] : List (Operation catalog)) key := by
  rintro ⟨earlier, operation, later, middle, isSplit, -⟩
  simp at isSplit

/-- One more operation adds what it concerns. -/
theorem touched_append_singleton
    (carries : CarriesOut store before script middle) :
    Touched store before (script ++ [operation]) key ↔
      Touched store before script key ∨ operation.Concerns (middle.get store) key := by
  constructor
  · rintro ⟨earlier, touching, later, reached, isSplit, carriesEarlier, concerns⟩
    rcases List.eq_nil_or_concat later with rfl | ⟨between, last, rfl⟩
    · obtain ⟨rfl, isLast⟩ := List.append_inj' isSplit rfl
      cases isLast
      obtain rfl := carries.unique carriesEarlier
      exact .inr concerns
    · rw [List.concat_eq_append, ← List.cons_append, ← List.append_assoc] at isSplit
      obtain ⟨rfl, -⟩ := List.append_inj' isSplit rfl
      exact .inl ⟨earlier, touching, between, reached, rfl, carriesEarlier, concerns⟩
  · rintro (⟨earlier, touching, later, reached, rfl, carriesEarlier, concerns⟩ | concerns)
    · exact ⟨earlier, touching, later ++ [operation], reached, by simp, carriesEarlier, concerns⟩
    · exact ⟨script, operation, [], middle, rfl, carries, concerns⟩

/-- A script of operations that take effect writes the keys that it touches and no others. -/
theorem wrote_iff_touched
    (lawful : catalog.Lawful)
    (agrees : catalog.Agrees (before.get store))
    (carries : CarriesOut store before script after) :
    after.Wrote key ↔ before.Wrote key ∨ Touched store before script key := by
  induction carries with
  | nil =>
      simp [not_touched_nil]
  | snoc earlier effective success inductionHypothesis =>
      rw [wrote_operation_iff lawful (earlier.agrees lawful agrees) effective success,
        inductionHypothesis, touched_append_singleton earlier, or_assoc]

/-- A transaction has written what its script touches, if the entries of its snapshot agree. -/
theorem wrote_iff_touched_of_snapshot
    {snapshot : Nat}
    (lawful : catalog.Lawful)
    (agrees : catalog.Agrees (store.valueAt snapshot))
    (carries : CarriesOut store ⟨snapshot, .empty⟩ script after) :
    after.Wrote key ↔ Touched store ⟨snapshot, .empty⟩ script key := by
  have shown : (Transaction.mk snapshot .empty).get store = store.valueAt snapshot :=
    rfl
  have nothingWritten : ¬ (Transaction.mk snapshot .empty).Wrote key := by
    simp [Transaction.Wrote]
  rw [wrote_iff_touched lawful (shown ▸ agrees) carries, or_iff_right nothingWritten]

end Scripts

end SecondaryIndex.Records
