import SecondaryIndex.Proofs.Binary.NumberOrder
import SecondaryIndex.Proofs.Records.IndexedLookup
import SecondaryIndex.Proofs.Records.PathChoice

namespace SecondaryIndex

/-!
# Range queries

An index may write a number of each record in an encoding that keeps the order.  Then a
comparison of encodings is a comparison of numbers, and an indexed lookup for criteria on
them hands out the records whose numbers satisfy the conditions that the criteria write,
in the order of the numbers.
-/

open Binary

/-- Whether a number stands in the relation to the operand. -/
def Comparison.HoldsOf
    (number operand : Int) :
    Comparison → Prop
  | .equal =>
      number = operand
  | .notEqual =>
      number ≠ operand
  | .greater =>
      operand < number
  | .greaterOrEqual =>
      operand ≤ number
  | .less =>
      number < operand
  | .lessOrEqual =>
      number ≤ operand

/-- A condition on a number. -/
inductive NumberCondition where
  | compare (comparison : Comparison) (operand : Int)
  | oneOf (operands : List Int)

namespace NumberCondition

/-- The numbers that a condition names. -/
def operands :
    NumberCondition → List Int
  | .compare _ operand =>
      [operand]
  | .oneOf operands =>
      operands

/-- Whether a number satisfies a condition. -/
def Holds
    (number : Int) :
    NumberCondition → Prop
  | .compare comparison operand =>
      comparison.HoldsOf number operand
  | .oneOf operands =>
      number ∈ operands

/-- The criterion that a condition is on encodings. -/
def criterion
    {R : Type}
    (format : NumberFormat) :
    NumberCondition → Criterion R
  | .compare comparison operand =>
      .compare comparison (format.encode operand)
  | .oneOf operands =>
      .oneOf (operands.map format.encode)

variable
  {R : Type}
  {format : NumberFormat}
  {number operand : Int}
  {condition : NumberCondition}
  {conditions : List NumberCondition}

/-- Encodings compare as the numbers do. -/
theorem holds_encode_iff
    (inRange : format.InRange number)
    (operandInRange : format.InRange operand)
    (comparison : Comparison) :
    comparison.holds (format.encode number) (format.encode operand) = true ↔
      comparison.HoldsOf number operand := by
  have same := NumberFormat.encode_inj inRange operandInRange
  have below := NumberFormat.encode_lt_iff inRange operandInRange
  have above := NumberFormat.encode_lt_iff operandInRange inRange
  cases comparison <;> simp [Comparison.holds, Comparison.HoldsOf, same, below, above]

/-- On encodings in range, a criterion never fails, and it says what the condition says. -/
theorem test_criterion
    (inRange : format.InRange number)
    (operandsInRange : ∀ operand ∈ condition.operands, format.InRange operand)
    (record : Option R) :
    ∃ accepted,
      (condition.criterion format).test (format.encode number) record = .ok accepted ∧
        (accepted = true ↔ condition.Holds number) := by
  cases condition with
  | compare comparison operand =>
      have operandInRange := operandsInRange operand (List.mem_singleton_self operand)
      exact ⟨_, rfl, holds_encode_iff inRange operandInRange comparison⟩
  | oneOf operands =>
      refine ⟨_, rfl, ?_⟩
      rw [List.contains_iff_mem, List.mem_map]
      constructor
      · rintro ⟨operand, member, same⟩
        obtain rfl := (NumberFormat.encode_inj (operandsInRange operand member) inRange).1 same
        exact member
      · intro member
        exact ⟨number, member, rfl⟩

/-- The criteria of a conjunction say together what the conditions do. -/
theorem testAll_criteria
    (inRange : format.InRange number)
    (operandsInRange :
      ∀ condition ∈ conditions, ∀ operand ∈ condition.operands, format.InRange operand)
    (record : Option R) :
    ∃ accepted,
      Criterion.testAll (format.encode number) record (conditions.map (criterion format)) =
          .ok accepted ∧
        (accepted = true ↔ ∀ condition ∈ conditions, condition.Holds number) := by
  induction conditions with
  | nil =>
      exact ⟨true, rfl, iff_of_true rfl nofun⟩
  | cons condition rest inductionHypothesis =>
      obtain ⟨firstInRange, restInRange⟩ := List.forall_mem_cons.1 operandsInRange
      obtain ⟨first, tested, firstHolds⟩ := test_criterion inRange firstInRange record
      obtain ⟨others, othersTested, othersHold⟩ := inductionHypothesis restInRange
      refine ⟨first && others, ?_, ?_⟩
      · rw [List.map_cons, Criterion.testAll, tested]
        cases first with
        | false =>
            rfl
        | true =>
            exact othersTested
      · rw [Bool.and_eq_true, firstHolds, othersHold, List.forall_mem_cons]

end NumberCondition

namespace Records

open Versioned

variable
  {ι : Type}
  {catalog : Catalog ι}
  {type : ι}
  {index : String}
  {format : NumberFormat}
  {number : (catalog.types type).Record → Int}
  {conditions : List NumberCondition}

/-- Whether an index is declared, and writes for each record a number of it. -/
structure Catalog.Numbers
    (catalog : Catalog ι)
    (type : ι)
    (index : String)
    (format : NumberFormat)
    (number : (catalog.types type).Record → Int) :
    Prop where
  inRange : ∀ record, format.InRange (number record)
  declared : ∃ declared ∈ (catalog.types type).schema.indexes, declared.name = index
  writes :
    ∀ declared ∈ (catalog.types type).schema.indexes,
      declared.name = index →
        ∀ record, declared.valueOf record = .ok (some (format.encode (number record)))

/--
Entries are the records of a type whose numbers satisfy some conditions, each once, by number
and then by key.
-/
structure Catalog.Ranges
    (catalog : Catalog ι)
    (view : Bytes → Option Bytes)
    (type : ι)
    (number : (catalog.types type).Record → Int)
    (conditions : List NumberCondition)
    (entries : List Entry) :
    Prop where
  once : (entries.map Prod.fst).Nodup
  lists :
    ∀ key bytes,
      (key, bytes) ∈ entries ↔
        view key = some bytes ∧
          ∃ record,
            catalog.Has view type key record ∧
              ∀ condition ∈ conditions, condition.Holds (number record)
  ascending :
    entries.Pairwise fun first second =>
      ∀ record other,
        catalog.Has view type first.1 record →
          catalog.Has view type second.1 other →
            number record < number other ∨ number record = number other ∧ first.1 < second.1

/-- A map has one record under a key. -/
theorem Catalog.Has.unique
    {view : Bytes → Option Bytes}
    {key : Bytes}
    {record other : (catalog.types type).Record}
    (has : catalog.Has view type key record)
    (hasToo : catalog.Has view type key other) :
    record = other := by
  obtain ⟨_, bytes, -, stored, decoded⟩ := has
  obtain ⟨_, others, -, storedToo, decodedToo⟩ := hasToo
  cases stored.symm.trans storedToo
  cases decoded.symm.trans decodedToo
  rfl

/-- An index that writes numbers gives a record the encoding of its number. -/
theorem Catalog.Numbers.carries_iff
    {view : Bytes → Option Bytes}
    {value key : Bytes}
    (numbers : catalog.Numbers type index format number) :
    catalog.Carries view type index value key ↔
      ∃ record, catalog.Has view type key record ∧ value = format.encode (number record) := by
  constructor
  · rintro ⟨primary, bytes, record, declared, isKey, stored, decoded, isDeclared, named, valued⟩
    have written := numbers.writes declared isDeclared named record
    cases valued.symm.trans written
    exact ⟨record, ⟨primary, bytes, isKey, stored, decoded⟩, rfl⟩
  · rintro ⟨record, ⟨primary, bytes, isKey, stored, decoded⟩, rfl⟩
    obtain ⟨declared, isDeclared, named⟩ := numbers.declared
    exact
      ⟨primary, bytes, record, declared, isKey, stored, decoded, isDeclared, named,
        numbers.writes declared isDeclared named record⟩

/-- What is looked up by criteria on encodings is a range of the records by number. -/
theorem Catalog.LooksUp.ranges
    {view : Bytes → Option Bytes}
    {criteria : List (catalog.types type).Criterion}
    {listing : List (Bytes × Bytes)}
    {entries : List Entry}
    (numbers : catalog.Numbers type index format number)
    (accepts :
      ∀ record,
        (catalog.types type).schema.accepts criteria
              (.indexEntry index (format.encode (number record))) = .ok true ↔
          ∀ condition ∈ conditions, condition.Holds (number record))
    (looksUp : catalog.LooksUp view type index criteria listing entries) :
    catalog.Ranges view type number conditions entries := by
  have isListed (value key : Bytes) :
      (value, key) ∈ listing ↔
        ∃ record,
          catalog.Has view type key record ∧
            value = format.encode (number record) ∧
              ∀ condition ∈ conditions, condition.Holds (number record) := by
    rw [looksUp.lists, numbers.carries_iff]
    constructor
    · rintro ⟨⟨record, has, rfl⟩, accepted⟩
      exact ⟨record, has, rfl, (accepts record).1 accepted⟩
    · rintro ⟨record, has, rfl, holds⟩
      exact ⟨⟨record, has, rfl⟩, (accepts record).2 holds⟩
  have inOrder :
      (entries.map Prod.fst).Pairwise fun first second =>
        first ≠ second ∧
          ∀ record other,
            catalog.Has view type first record →
              catalog.Has view type second other →
                number record < number other ∨ number record = number other ∧ first < second := by
    rw [looksUp.keys, List.pairwise_map]
    refine looksUp.ascending.imp_of_mem ?_
    intro first second member secondMember before
    obtain ⟨record, has, isValue, -⟩ := (isListed first.1 first.2).1 member
    obtain ⟨other, hasOther, isOther, -⟩ := (isListed second.1 second.2).1 secondMember
    rw [isValue, isOther,
      NumberFormat.encode_lt_iff (numbers.inRange record) (numbers.inRange other),
      NumberFormat.encode_inj (numbers.inRange record) (numbers.inRange other)] at before
    refine ⟨?_, ?_⟩
    · intro same
      rw [same] at has before
      cases has.unique hasOther
      rcases before with below | ⟨-, below⟩
      · exact Int.lt_irrefl _ below
      · exact Std.lt_irrefl below
    · intro first second hasFirst hasSecond
      cases has.unique hasFirst
      cases hasOther.unique hasSecond
      exact before
  refine ⟨inOrder.imp And.left, ?_, ?_⟩
  · intro key bytes
    have isKey : key ∈ entries.map Prod.fst ↔ ∃ value, (value, key) ∈ listing := by
      rw [looksUp.keys, List.mem_map]
      exact ⟨fun ⟨⟨value, _⟩, member, same⟩ => ⟨value, same ▸ member⟩,
        fun ⟨value, member⟩ => ⟨_, member, rfl⟩⟩
    constructor
    · intro member
      obtain ⟨value, isRow⟩ := isKey.1 (List.mem_map_of_mem member)
      obtain ⟨record, has, -, holds⟩ := (isListed value key).1 isRow
      exact ⟨looksUp.stored _ member, record, has, holds⟩
    · rintro ⟨stored, record, has, holds⟩
      have isRow := (isListed _ key).2 ⟨record, has, rfl, holds⟩
      obtain ⟨⟨_, found⟩, member, rfl⟩ := List.mem_map.1 (isKey.2 ⟨_, isRow⟩)
      cases (looksUp.stored _ member).symm.trans stored
      exact member
  · exact (List.pairwise_map.1 inOrder).imp And.right

/--
A query for criteria on the numbers that an index writes hands out the records whose numbers
satisfy the conditions, each once, by number and then by key, and ends without error.  This holds
in the view of every open transaction in which no operation has failed, and for every size of the
batches.  Under a name with the delimiter there is no index to look into, and opening the query is
refused.
-/
theorem range_query_exact
    {ι : Type}
    {catalog : Catalog ι}
    {steps : List (RecordStep catalog)}
    {transactionNumber : Nat}
    {transaction : Transaction}
    (lawful : catalog.Lawful)
    (bounded : (recordRun steps).published.length ≤ lastStamp)
    (isOpen : (recordRun steps).transaction? transactionNumber = some transaction)
    (unbroken : transactionNumber ∉ (recordRun steps).broken)
    (type : ι)
    (index : String)
    (format : NumberFormat)
    (number : (catalog.types type).Record → Int)
    (numbers : catalog.Numbers type index format number)
    (reading : (catalog.types type).Criterion → Criterion (catalog.types type).Record)
    (judges :
      ∀ criteria value,
        (catalog.types type).schema.accepts criteria (.indexEntry index value) =
          Criterion.testAll value none (criteria.map reading))
    (conditions : List NumberCondition)
    (operandsInRange :
      ∀ condition ∈ conditions, ∀ operand ∈ condition.operands, format.InRange operand)
    (query : Query (catalog.types type).Criterion)
    (asks :
      query.targetCriteria.map reading = conditions.map (NumberCondition.criterion format))
    (size : Nat)
    (batch : 1 ≤ size)
    (selected :
      (outcome
        ((catalog.environment (recordRun steps).store type).selectPath
          { catalog.layout with batchSize := size } (catalog.types type).schema query)
        transaction).1 =
        .ok (.indexedLookup index)) :
    (delimiter ∈ Bytes.ofText index →
      outcome
          ((catalog.environment (recordRun steps).store type).openQuery
            { catalog.layout with batchSize := size } (catalog.types type).schema query)
          transaction =
        (.error (.invalidName index), transaction)) ∧
    (delimiter ∉ Bytes.ofText index →
      ∃ entries,
        outcome
            ((catalog.environment (recordRun steps).store type).runQuery
              { catalog.layout with batchSize := size } (catalog.types type).schema query)
            transaction =
          (.ok (entries, none), transaction) ∧
        catalog.Ranges (transaction.get (recordRun steps).store) type number conditions
          entries) := by
  have consistent : Consistent catalog (recordRun steps) :=
    Consistent.start.steps lawful bounded
  have indexed := (consistent.views isOpen unbroken).indexed lawful
  have judged (record : (catalog.types type).Record) :
      ∃ accepted,
        (catalog.types type).schema.accepts query.targetCriteria
              (.indexEntry index (format.encode (number record))) = .ok accepted ∧
          (accepted = true ↔ ∀ condition ∈ conditions, condition.Holds (number record)) := by
    rw [judges, asks]
    exact NumberCondition.testAll_criteria (numbers.inRange record) operandsInRange none
  constructor
  · exact openQuery_of_held selected
  · intro indexFree
    obtain ⟨listing, entries, looksUp, handed⟩ :=
      runQuery_of_indexed indexed batch selected
        (by
          intro value key carries error fails
          obtain ⟨record, -, rfl⟩ := numbers.carries_iff.1 carries
          obtain ⟨accepted, answers, -⟩ := judged record
          cases answers.symm.trans fails)
        indexFree
    refine ⟨entries, handed query rfl rfl, looksUp.ranges numbers ?_⟩
    intro record
    obtain ⟨accepted, answers, holds⟩ := judged record
    rw [answers, Except.ok.injEq, holds]

/-- A signed number of eight bytes is read back as it is written. -/
theorem readInt64_takes
    (value : Int64) :
    readInt64.Takes (writeInt64 value) value := by
  intro rest
  have fits : value.toUInt64.toNat < 256 ^ 8 := value.toUInt64.toNat_lt
  have taken := readFixed_takes fits rest
  rw [readInt64, StateT.run_bind, writeInt64, taken]
  show Except.ok ((UInt64.ofNat value.toUInt64.toNat).toInt64, rest) = _
  rw [UInt64.ofNat_toNat, Int64.toInt64_toUInt64]

/-- Scores that are indexed by themselves. -/
def scores :
    Catalog Unit where
  layout :=
    .standard
  postings :=
    PostingList.codec.limited PostingList.fits
  types _ :=
    { Record := Int64
      Criterion := Criterion Int64
      schema :=
        { typeName := "score"
          indexes := [⟨"points", fun _ score => .ok (some (orderedInt64 score))⟩]
          accepts := fun criteria candidate =>
            Criterion.testAll
              (match candidate with
                | .recordKey key _ => key
                | .recordField _ _ score => orderedInt64 score
                | .indexEntry _ value => value)
              candidate.record? criteria
          needsRecord := Criterion.anyMatchFunction }
      codec := (Binary.codec writeInt64 readInt64.read).limited fun _ => true }

theorem scores_lawful :
    scores.Lawful where
  layout :=
    ⟨.standard, rfl⟩
  names _ :=
    rfl
  postings :=
    PostingList.roundTrips_codec
  records _ :=
    Binary.roundTrips_codec fun value _ => readInt64_takes value

/-- The points are written as signed numbers of eight bytes. -/
theorem scores_numbers :
    scores.Numbers () "points" ⟨true, 8⟩ Int64.toInt where
  inRange score :=
    ⟨score.le_toInt, score.toInt_lt⟩
  declared :=
    ⟨_, List.mem_singleton_self _, rfl⟩
  writes declared isDeclared _ score := by
    cases List.mem_singleton.1 isDeclared
    exact congrArg (fun value => Except.ok (some value)) (orderedInt64_eq_encode score)

/-- A transaction that inserts scores on both sides of zero, one of them twice. -/
def scoresAroundZero :
    List (RecordStep scores) :=
  [.begin, .operate 0 (.insert () [1] (5 : Int64)), .operate 0 (.insert () [2] (-3 : Int64)),
    .operate 0 (.insert () [3] (300 : Int64)), .operate 0 (.insert () [4] (-3 : Int64))]

/-- Scores from minus ten on and below a hundred. -/
def middling :
    List NumberCondition :=
  [.compare .greaterOrEqual (-10), .compare .less 100]

/-- The query for middling scores through the index. -/
def middlingScores :
    Query (Criterion Int64) :=
  (Query.onField "points" (middling.map (NumberCondition.criterion ⟨true, 8⟩))).through "points"

/-- Scores below and above zero come in the order of the numbers. -/
theorem middling_scores_in_order :
    ∃ transaction entries,
      (recordRun scoresAroundZero).transaction? 0 = some transaction ∧
        outcome
            ((scores.environment (recordRun scoresAroundZero).store ()).runQuery
              { scores.layout with batchSize := 1 } (scores.types ()).schema middlingScores)
            transaction =
          (.ok (entries, none), transaction) ∧
        scores.Ranges (transaction.get (recordRun scoresAroundZero).store) () Int64.toInt middling
          entries := by
  have bounded : (recordRun scoresAroundZero).published.length ≤ lastStamp := by
    have none : (recordRun scoresAroundZero).published.length = 0 := by
      decide +kernel
    rw [none]
    decide
  have isOpen : ((recordRun scoresAroundZero).transaction? 0).isSome := by
    decide +kernel
  obtain ⟨transaction, isOpen⟩ := Option.isSome_iff_exists.1 isOpen
  have unbroken : 0 ∉ (recordRun scoresAroundZero).broken := by
    decide +kernel
  have selects :
      ((recordRun scoresAroundZero).transaction? 0).map (fun transaction =>
        (outcome
          ((scores.environment (recordRun scoresAroundZero).store ()).selectPath
            { scores.layout with batchSize := 1 } (scores.types ()).schema middlingScores)
          transaction).1) =
        some (.ok (.indexedLookup "points")) := by
    decide +kernel
  rw [isOpen] at selects
  have operandsInRange :
      ∀ condition ∈ middling, ∀ operand ∈ condition.operands,
        NumberFormat.InRange ⟨true, 8⟩ operand := by
    decide +kernel
  have asks :
      middlingScores.targetCriteria.map id =
        middling.map (NumberCondition.criterion ⟨true, 8⟩) := by
    have someCriteria :
        middling.map (NumberCondition.criterion (R := Int64) ⟨true, 8⟩) ≠ [] :=
      List.cons_ne_nil _ _
    rw [middlingScores, Query.targetCriteria_onField someCriteria, List.map_id]
  have judges (criteria : List (Criterion Int64)) (value : Bytes) :
      (scores.types ()).schema.accepts criteria (.indexEntry "points" value) =
        Criterion.testAll value none (criteria.map id) := by
    rw [List.map_id]
    rfl
  obtain ⟨entries, handed, ranges⟩ :=
    (range_query_exact scores_lawful bounded isOpen unbroken () "points" ⟨true, 8⟩ Int64.toInt
      scores_numbers id judges middling operandsInRange middlingScores asks 1 (Nat.le_refl 1)
      (Option.some.inj selects)).2 (by decide)
  exact ⟨transaction, entries, isOpen, handed, ranges⟩

end Records

end SecondaryIndex
