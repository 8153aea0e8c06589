import SecondaryIndex.Member.Condition
import SecondaryIndex.Member.Schema
import SecondaryIndex.Proofs.Binary.PostingList
import SecondaryIndex.Proofs.Query.Judgement
import SecondaryIndex.Proofs.Query.Simulation
import SecondaryIndex.Versioned.Access

namespace SecondaryIndex

/-!
# Where match functions are evaluated

A match function looks at a whole record, and an index entry comes without one.  The
entries of an index are only judged along an indexed lookup, by the criteria on the
target of the query, and these are inspected for match functions when the path is
selected.  So no match function is ever evaluated without a record, whatever the
environment of the query gives or keeps back, and it makes no difference what such an
evaluation would come to.
-/

open Versioned

namespace Criterion

variable {R : Type}

/-- Judge as `test` does, but leave it open what a match function without a record comes to. -/
def testElse
    (unjudged : (R → Except IndexError Bool) → Except IndexError Bool)
    (value : Bytes)
    (record : Option R) :
    Criterion R → Except IndexError Bool
  | .matchFunction function =>
      match record with
      | some record => function record
      | none => unjudged function
  | criterion =>
      criterion.test value record

/-- Test criteria as `testAll` does, but leave match functions without a record open. -/
def testAllElse
    (unjudged : (R → Except IndexError Bool) → Except IndexError Bool)
    (value : Bytes)
    (record : Option R) :
    List (Criterion R) → Except IndexError Bool
  | [] =>
      .ok true
  | criterion :: rest =>
      match criterion.testElse unjudged value record with
      | .error error => .error error
      | .ok false => .ok false
      | .ok true => testAllElse unjudged value record rest

variable
  {unjudged : (R → Except IndexError Bool) → Except IndexError Bool}
  {record : Option R}
  {criterion : Criterion R}
  {criteria : List (Criterion R)}

/-- What is left open shows only where a match function has no record. -/
theorem testElse_eq_test
    (equipped : criterion.isMatchFunction = true → record.isSome = true)
    (value : Bytes) :
    criterion.testElse unjudged value record = criterion.test value record := by
  cases criterion with
  | matchFunction function =>
      obtain ⟨record, rfl⟩ := Option.isSome_iff_exists.1 (equipped rfl)
      rfl
  | compare _ _ | oneOf _ | pattern _ =>
      rfl

theorem testAllElse_eq_testAll
    (equipped :
      ∀ criterion ∈ criteria, criterion.isMatchFunction = true → record.isSome = true)
    (value : Bytes) :
    testAllElse unjudged value record criteria = testAll value record criteria := by
  induction criteria with
  | nil =>
      rfl
  | cons criterion rest inductionHypothesis =>
      obtain ⟨first, others⟩ := List.forall_mem_cons.1 equipped
      rw [testAllElse, testAll, testElse_eq_test first]
      rcases criterion.test value record with error | (_ | _)
      · rfl
      · rfl
      · exact inductionHypothesis others

end Criterion

section Observation

variable {σ R C : Type}

/-- An environment that keeps what is reported to it. -/
def Environment.observed
    (environment : Environment σ R C) :
    Environment (σ × List (Event R C)) R C :=
  { environment.beside (List (Event R C)) with
    report := fun event state =>
      ((environment.report event state.1).1,
        ((environment.report event state.1).2, state.2 ++ [event])) }

/-- A state that is observed, with nothing but questions of some kind kept so far. -/
def Observes
    (asked : List C → Candidate R → Prop)
    (state : σ)
    (observed : σ × List (Event R C)) :
    Prop :=
  observed.1 = state ∧ ∀ event ∈ observed.2, event.Within asked

/-- Observed or not, the services of an environment answer the same. -/
theorem observed_simulates
    (environment : Environment σ R C)
    (asked : List C → Candidate R → Prop) :
    environment.Simulates (Observes asked) asked environment.observed := by
  have plain {α : Type} (service : StateM σ α) :
      Simulates (Observes asked) service (beside service) := by
    rintro state ⟨_, made⟩ ⟨rfl, within⟩
    exact ⟨_, _, _, rfl, rfl, rfl, within⟩
  refine
    ⟨fun _ => plain _, fun _ => plain _, fun _ => plain _, fun _ => plain _, ?_⟩
  rintro event isWithin state ⟨_, made⟩ ⟨rfl, within⟩
  refine ⟨_, _, _, rfl, rfl, rfl, ?_⟩
  intro other member
  rcases List.mem_append.1 member with earlier | isEvent
  · exact within other earlier
  · rw [List.mem_singleton.1 isEvent]
    exact isWithin

/-- An environment simulates itself on equal states. -/
theorem simulates_self
    (environment : Environment σ R C)
    (asked : List C → Candidate R → Prop) :
    environment.Simulates Eq asked environment := by
  have plain {α : Type} (service : StateM σ α) : Simulates Eq service service := by
    rintro state _ rfl
    exact ⟨_, _, _, rfl, rfl, rfl⟩
  exact ⟨fun _ => plain _, fun _ => plain _, fun _ => plain _, fun _ => plain _, fun _ _ => plain _⟩

/-- An indexed lookup is only selected for criteria that need no record. -/
theorem needsRecord_of_indexedLookup
    {environment : Environment σ R C}
    {layout : KeyLayout}
    {schema : Schema R C}
    {query : Query C}
    {state : σ}
    {index : String}
    (selected :
      (outcome (environment.selectPath layout schema query) state).1 =
        .ok (.indexedLookup index)) :
    schema.needsRecord query.targetCriteria = false := by
  rcases ends : outcome (environment.selectPath layout schema query) state with ⟨result, after⟩
  rw [ends] at selected
  cases selected
  rw [Environment.selectPath] at ends
  cases target : query.target with
  | primaryKey =>
      rw [target] at ends
      obtain ⟨_, _, logged, answered⟩ := outcome_bind_ok.1 ends
      cases answered
      cases logged
  | index name =>
      rw [target] at ends
      dsimp only at ends
      split at ends
      · cases ends
      · obtain ⟨path, _, chosen, rest⟩ := outcome_bind_ok.1 ends
        obtain ⟨_, _, logged, answered⟩ := outcome_bind_ok.1 rest
        cases answered
        obtain ⟨answers, _, asked, through⟩ := outcome_bind_ok.1 chosen
        cases answers with
        | false =>
            cases through
        | true =>
            obtain ⟨needs, _, inspected, through⟩ := outcome_bind_ok.1 through
            cases needs with
            | true =>
                cases through
            | false =>
                obtain ⟨_, _, reported, answered⟩ := outcome_bind_ok.1 inspected
                exact Except.ok.inj (congrArg Prod.fst answered)

end Observation

section Queries

variable
  {σ R : Type}
  {read : List (Criterion R) → Candidate R → Except IndexError Bytes}

/-- Questions in which every match function has a record to look at. -/
def Equipped
    (criteria : List (Criterion R))
    (candidate : Candidate R) :
    Prop :=
  ∀ criterion ∈ criteria, criterion.isMatchFunction = true → candidate.record?.isSome = true

/--
Where a schema tells match functions apart and tests the criteria on a value that it reads and on
the record of the candidate, a query puts no match function to a candidate without a record; and
whatever such an evaluation came to, the query would come to the same.
-/
theorem match_functions_have_records
    (environment : Environment σ R (Criterion R))
    (layout : KeyLayout)
    (schema : Schema R (Criterion R))
    (query : Query (Criterion R))
    (state : σ)
    (inspects : schema.needsRecord = Criterion.anyMatchFunction)
    (judges :
      ∀ criteria candidate,
        schema.accepts criteria candidate =
          (read criteria candidate).bind fun value =>
            Criterion.testAll value candidate.record? criteria) :
    (∃ made,
      outcome (environment.observed.runQuery layout schema query) (state, []) =
          ((outcome (environment.runQuery layout schema query) state).1,
            ((outcome (environment.runQuery layout schema query) state).2, made)) ∧
        ∀ typeName criteria candidate,
          .judged typeName criteria candidate ∈ made → Equipped criteria candidate) ∧
    ∀ unjudged : (R → Except IndexError Bool) → Except IndexError Bool,
      outcome
          (environment.runQuery layout
            (schema.answering fun criteria candidate =>
              (read criteria candidate).bind fun value =>
                Criterion.testAllElse unjudged value candidate.record? criteria)
            query)
          state =
        outcome (environment.runQuery layout schema query) state := by
  have confined
      (accepts : List (Criterion R) → Candidate R → Except IndexError Bool)
      (agrees :
        ∀ criteria candidate,
          Equipped criteria candidate →
            accepts criteria candidate = schema.accepts criteria candidate)
      (path : AccessPath)
      (state : σ)
      (selected : (outcome (environment.selectPath layout schema query) state).1 = .ok path) :
      path.Confined Equipped schema accepts query := by
    refine ⟨agrees, fun _ _ isSome _ _ _ => isSome, ?_⟩
    rintro index value rfl criterion member isMatchFunction
    have noRecord := needsRecord_of_indexedLookup selected
    rw [inspects, Criterion.anyMatchFunction, List.any_eq_false] at noRecord
    exact absurd isMatchFunction (noRecord criterion member)
  refine ⟨?_, ?_⟩
  · obtain ⟨result, after, ⟨later, made⟩, ends, endsToo, ⟨isAfter, within⟩⟩ :=
      runQuery_simulates layout (observed_simulates environment Equipped)
        (confined schema.accepts fun _ _ _ => rfl) state (state, [])
        ⟨rfl, List.forall_mem_nil _⟩
    obtain rfl : later = after := isAfter
    have plain : outcome (environment.runQuery layout schema query) state = (result, later) := ends
    rw [plain]
    exact ⟨made, endsToo, fun _ _ _ member => within _ member⟩
  · intro unjudged
    have agrees
        (criteria : List (Criterion R))
        (candidate : Candidate R)
        (equipped : Equipped criteria candidate) :
        ((read criteria candidate).bind fun value =>
          Criterion.testAllElse unjudged value candidate.record? criteria) =
            schema.accepts criteria candidate := by
      rw [judges]
      congr 1
      funext value
      exact Criterion.testAllElse_eq_testAll equipped value
    obtain ⟨result, after, _, ends, endsToo, rfl⟩ :=
      runQuery_simulates layout (simulates_self environment Equipped) (confined _ agrees) state
        state rfl
    exact endsToo.trans ends.symm

end Queries

/-- The value on which criteria are tested for members. -/
def Member.valueAsked
    (indexes : List (String × Field)) :
    Candidate Member → Except IndexError Bytes
  | .recordKey key _ =>
      .ok key
  | .recordField field _ member =>
      judgedValue indexes field member
  | .indexEntry _ value =>
      .ok value

/-- For members, criteria are tested on the value that is asked for and on the record. -/
theorem Member.accepts_eq_bind
    (indexes : List (String × Field))
    (criteria : List (Criterion Member))
    (candidate : Candidate Member) :
    accepts indexes criteria candidate =
      (valueAsked indexes candidate).bind fun value =>
        Criterion.testAll value candidate.record? criteria := by
  cases candidate <;> rfl

/-- A transaction with a member and the entry that lists it by its age. -/
def listedByAge :
    Transaction :=
  let member : Member := ⟨"ada", none, 36, 0, [], [], true⟩
  let key := Bytes.ofText "kh_member:" ++ [1]
  (Transaction.set ⟨0, .empty⟩ key member.encode).set
    (Bytes.ofText "_khIndex:member:age:" ++ Binary.bigEndian 4 36) (PostingList.ofKeys [key]).encode

/-- Members of a certain age, with match functions on the key and on another field beside. -/
def agedWithoutTeam :
    Query (Criterion Member) :=
  (((Query.all.whereField "age" (.compare .greater (Binary.bigEndian 4 30))).whereKey
    (.matchFunction fun member => Member.MatchFunction.failing.apply member)).whereField "team"
      (.matchFunction fun member => Member.MatchFunction.withoutTeam.apply member)).through "age"

/-- Match functions beside the target stay out of an indexed lookup. -/
theorem lookup_evaluates_no_match_function :
    let environment : Environment Transaction Member (Criterion Member) :=
      Transaction.environment .empty PostingList.codec Member.codec
    let schema := Member.schema "member" [("age", .age)]
    (outcome (environment.selectPath .standard schema agedWithoutTeam) listedByAge).1 =
        .ok (.indexedLookup "age") ∧
      ∀ typeName criteria candidate,
        .judged typeName criteria candidate ∈
            (outcome (environment.observed.runQuery .standard schema agedWithoutTeam)
              (listedByAge, [])).2.2 →
          Equipped criteria candidate := by
  intro environment schema
  refine ⟨by decide +kernel, ?_⟩
  obtain ⟨made, isObserved, equipped⟩ :=
    (match_functions_have_records environment .standard schema agedWithoutTeam listedByAge rfl
      (Member.accepts_eq_bind [("age", .age)])).1
  rw [isObserved]
  exact equipped

end SecondaryIndex
