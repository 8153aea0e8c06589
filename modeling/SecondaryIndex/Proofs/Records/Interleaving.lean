import SecondaryIndex.Proofs.Binary.PostingList
import SecondaryIndex.Proofs.Records.Invariant

namespace SecondaryIndex.Records

/-!
# Agreement under every interleaving

All published maps agree, and so does the view of every open transaction that is
not broken.  Steps within a transaction keep its view in agreement; a commit that
is not refused lays its writes over a map in which no written key has changed
since its snapshot, and the overlay agrees.
-/

open Versioned

/-- The books are in order, and the published maps and the views of transactions agree. -/
abbrev Consistent
    {ι : Type}
    (catalog : Catalog ι)
    (world : RecordWorld) :
    Prop :=
  Kept catalog.Agrees world

/-- Operations keep entries and records in agreement, and so do writes that are published. -/
theorem Catalog.Lawful.keeps_agrees
    {ι : Type}
    {catalog : Catalog ι}
    (lawful : catalog.Lawful) :
    catalog.Keeps catalog.Agrees where
  empty :=
    .empty
  operation agrees success :=
    agrees_operation lawful agrees success
  overlay snapshotAgrees viewAgrees latestAgrees noLostUpdate :=
    .overlay lawful snapshotAgrees viewAgrees latestAgrees noLostUpdate

namespace Consistent

variable
  {ι : Type}
  {catalog : Catalog ι}
  {world : RecordWorld}

theorem start :
    Consistent catalog ⟨World.start, []⟩ :=
  Kept.start .empty

/-- Every step of a run within the range of the clock leaves a consistent world. -/
theorem steps
    {steps : List (RecordStep catalog)}
    (lawful : catalog.Lawful)
    (consistent : Consistent catalog world)
    (bounded : (steps.foldl RecordWorld.step world).published.length ≤ lastStamp) :
    Consistent catalog (steps.foldl RecordWorld.step world) :=
  Kept.steps lawful.keeps_agrees consistent bounded

end Consistent

/--
Entries agree with records under every interleaving.  After any steps of any
transactions, every open transaction in which no operation has failed, and every
transaction that is opened then, sees a map in which the entry of a value is
present exactly if some record has the value, and lists exactly these records.
-/
theorem indexed_under_interleaving
    {ι : Type}
    {catalog : Catalog ι}
    {steps : List (RecordStep catalog)}
    (lawful : catalog.Lawful)
    (bounded : (recordRun steps).published.length ≤ lastStamp) :
    (∀ number transaction,
      (recordRun steps).transaction? number = some transaction →
        number ∉ (recordRun steps).broken →
          catalog.Indexed (transaction.get (recordRun steps).store)) ∧
      catalog.Indexed
        ((recordRun steps).store.begin.1.get (recordRun steps).store.begin.2) := by
  have consistent : Consistent catalog (recordRun steps) :=
    Consistent.start.steps lawful bounded
  constructor
  · intro number transaction isOpen unbroken
    exact (consistent.views isOpen unbroken).indexed lawful
  · exact consistent.fresh.indexed lawful

/-- Byte strings that are indexed by their first byte. -/
def initials :
    Catalog Unit where
  layout :=
    .standard
  postings :=
    PostingList.codec.limited PostingList.fits
  types _ :=
    { Record := Bytes
      Criterion := Unit
      schema :=
        { typeName := "note"
          indexes := [⟨"initial", fun _ record => .ok (record.head?.map fun byte => [byte])⟩]
          accepts := fun _ _ => .ok true
          needsRecord := fun _ => true }
      codec :=
        (Binary.codec Binary.writeBytes Binary.readBytes.read).limited fun bytes =>
          bytes.length < Binary.lengthLimit }

theorem initials_lawful :
    initials.Lawful where
  layout :=
    ⟨.standard, rfl⟩
  names _ :=
    rfl
  postings :=
    PostingList.roundTrips_codec
  records _ :=
    Binary.roundTrips_codec fun _ fits => Binary.readBytes_takes (of_decide_eq_true fits)

/-- Two transactions that insert records with the same value. -/
def twoInserts :
    List (RecordStep initials) :=
  [.begin, .begin, .operate 0 (.insert () [1] [7]), .operate 1 (.insert () [2] [7, 7]),
    .commit 0, .commit 1]

/-- The second one to commit is refused, because both write the entry of the value. -/
theorem indexed_after_refusal :
    initials.Lawful ∧
      (recordRun twoInserts).published.length = 1 ∧
        initials.Indexed
          ((recordRun twoInserts).store.begin.1.get (recordRun twoInserts).store.begin.2) := by
  have once : (recordRun twoInserts).published.length = 1 := by
    decide +kernel
  have bounded : (recordRun twoInserts).published.length ≤ lastStamp := by
    rw [once]
    decide
  exact ⟨initials_lawful, once, (indexed_under_interleaving initials_lawful bounded).2⟩

end SecondaryIndex.Records
