import SecondaryIndex.Proofs.Records.Footprint

namespace SecondaryIndex.Records

/-!
# Scripts

A script is the row of the operations of one transaction.  If all of them take
effect, then what the script writes is settled by what the snapshot holds under
the keys that are written in the end, for these are all the keys that it reads.
-/

open Versioned

variable
  {ι : Type}
  {catalog : Catalog ι}

/-- The operations of a script take effect and succeed, one after the other. -/
inductive CarriesOut
    (store : Store)
    (before : Transaction) :
    List (Operation catalog) → Transaction → Prop
  | nil :
      CarriesOut store before [] before
  | snoc
      {script : List (Operation catalog)}
      {operation : Operation catalog}
      {middle after : Transaction}
      (earlier : CarriesOut store before script middle)
      (effective : operation.isEffective (middle.get store))
      (success : outcome (operation.action store) middle = (.ok (), after)) :
      CarriesOut store before (script ++ [operation]) after

/--
A script comes to some writes on every snapshot that holds, under the written keys,
the same as a map.
-/
def Repeatable
    (base : Bytes → Option Bytes)
    (script : List (Operation catalog))
    (writes : OrderedMap Bytes (Option Bytes)) :
    Prop :=
  ∀ (store : Store) (snapshot : Nat),
    (∀ key, (writes.find? key).isSome → store.valueAt snapshot key = base key) →
      CarriesOut store ⟨snapshot, .empty⟩ script ⟨snapshot, writes⟩

/-- An operation takes back no write. -/
theorem wrote_operation
    {store : Store}
    {operation : Operation catalog}
    {result : Except RecordError Unit}
    {before after : Transaction}
    {key : Bytes}
    (ends : outcome (operation.action store) before = (result, after))
    (wrote : before.Wrote key) :
    after.Wrote key := by
  have preserved :
      Preserves (fun transaction => transaction.Wrote key) (operation.action store) := by
    apply preserves_operation
    · intro transaction other bytes held
      exact Transaction.wrote_set.2 (.inr held)
    · intro transaction other held
      exact Transaction.wrote_delete.2 (.inr held)
  have held := preserved before wrote
  rw [ends] at held
  exact held

namespace Repeatable

variable {base : Bytes → Option Bytes}

theorem nil :
    Repeatable base ([] : List (Operation catalog)) .empty :=
  fun _ _ _ => .nil

/-- A script goes on with an operation that takes effect in a view that agrees. -/
theorem snoc
    {store : Store}
    {script : List (Operation catalog)}
    {operation : Operation catalog}
    {before after : Transaction}
    (lawful : catalog.Lawful)
    (agrees : catalog.Agrees (before.get store))
    (repeatable : Repeatable base script before.writes)
    (shows : ∀ key, store.valueAt before.snapshot key = base key)
    (effective : operation.isEffective (before.get store))
    (success : outcome (operation.action store) before = (.ok (), after)) :
    Repeatable base (script ++ [operation]) after.writes := by
  intro mirror snapshot same
  have earlier : CarriesOut mirror ⟨snapshot, .empty⟩ script ⟨snapshot, before.writes⟩ :=
    repeatable mirror snapshot fun key wrote => same key (wrote_operation success wrote)
  have sameWrites : (Transaction.mk snapshot before.writes).writes = before.writes :=
    rfl
  have sameValues :
      ∀ key, after.Wrote key → mirror.valueAt snapshot key = store.valueAt before.snapshot key := by
    intro key wrote
    rw [same key wrote, shows key]
  obtain ⟨effectiveToo, successToo⟩ :=
    repeats_operation lawful agrees effective success sameWrites sameValues
  exact .snoc earlier effectiveToo successToo

end Repeatable

end SecondaryIndex.Records
