import SecondaryIndex.Criterion
import SecondaryIndex.Query
import SecondaryIndex.Schema

namespace SecondaryIndex

/-!
# What a record is asked

A query puts a row of questions to the schema of a record: the criteria on its
key first, then those on each field.  The record is judged by the first answer
that is not yes.  So it is accepted if every answer is yes, and it cannot be
judged if one of the answers is a failure and no earlier one is no.
-/

/-- A question of acceptance: some criteria, and what they are to judge. -/
structure Question (R C : Type) where
  criteria : List C
  candidate : Candidate R

namespace Question

variable {R C : Type}

/-- The criteria of a question one at a time; a question without criteria stays one. -/
def singly
    (question : Question R C) :
    List (Question R C) :=
  match question.criteria with
  | [] =>
      [question]
  | criterion :: rest =>
      (criterion :: rest).map fun criterion => ⟨[criterion], question.candidate⟩

end Question

namespace Query

variable {R C : Type}

/-- Whether the query has a criterion. -/
def Asks
    (query : Query C) :
    Prop :=
  query.keyCriteria ≠ [] ∨ ∃ field ∈ query.fieldCriteria.entries, field.2 ≠ []

theorem hasCriteria_iff
    {query : Query C} :
    query.hasCriteria = true ↔ query.Asks := by
  simp [hasCriteria, Asks]

/-- What a query asks of a record: the criteria on its key, then those on each field. -/
def questions
    (query : Query C)
    (key : Bytes)
    (record : R) :
    List (Question R C) :=
  ⟨query.keyCriteria, .recordKey key record⟩ ::
    query.fieldCriteria.entries.map fun field => ⟨field.2, .recordField field.1 key record⟩

end Query

namespace Schema

variable {R C : Type}

/-- What the schema answers to a question. -/
def reply
    (schema : Schema R C)
    (question : Question R C) :
    Except IndexError Bool :=
  schema.accepts question.criteria question.candidate

/-- Put questions in order, up to the first that is not answered with yes. -/
def judgeAll
    (schema : Schema R C) :
    List (Question R C) → Except IndexError Bool
  | [] =>
      .ok true
  | question :: rest =>
      match schema.reply question with
      | .error error => .error error
      | .ok false => .ok false
      | .ok true => judgeAll schema rest

/-- Whether every question is answered with yes. -/
def Accepts
    (schema : Schema R C)
    (questions : List (Question R C)) :
    Prop :=
  ∀ question ∈ questions, schema.reply question = .ok true

/-- Whether the answer to some question is a failure, and to no earlier one is no. -/
def FailsOn
    (schema : Schema R C)
    (questions : List (Question R C)) :
    Prop :=
  ∃ earlier question later,
    questions = earlier ++ question :: later ∧
      (∀ passed ∈ earlier, schema.reply passed ≠ .ok false) ∧
        ∃ error, schema.reply question = .error error

/-- Whether criteria are judged one by one in their order, up to the first that is not met. -/
def JudgesInOrder
    (schema : Schema R C) :
    Prop :=
  ∀ criterion next rest candidate,
    schema.accepts (criterion :: next :: rest) candidate =
      match schema.accepts [criterion] candidate with
      | .error error => .error error
      | .ok false => .ok false
      | .ok true => schema.accepts (next :: rest) candidate

variable
  {schema : Schema R C}
  {questions : List (Question R C)}

theorem judgeAll_eq_true_iff :
    schema.judgeAll questions = .ok true ↔ schema.Accepts questions := by
  induction questions with
  | nil =>
      simp [judgeAll, Accepts]
  | cons question rest inductionHypothesis =>
      rw [judgeAll, Accepts, List.forall_mem_cons]
      rcases reply : schema.reply question with error | accepted
      · simp
      · cases accepted with
        | false =>
            simp
        | true =>
            dsimp only
            rw [inductionHypothesis, Accepts]
            simp

/-- Judging fails exactly if a failure comes before any refusal. -/
theorem judgeAll_error_iff :
    (∃ error, schema.judgeAll questions = .error error) ↔ schema.FailsOn questions := by
  induction questions with
  | nil =>
      simp [judgeAll, FailsOn]
  | cons question rest inductionHypothesis =>
      rw [judgeAll]
      rcases answer : schema.reply question with error | accepted
      · refine iff_of_true ⟨error, rfl⟩ ?_
        exact ⟨[], question, rest, rfl, by simp, error, answer⟩
      · cases accepted with
        | false =>
            refine iff_of_false (by simp) ?_
            rintro ⟨earlier, failing, later, shape, notRefused, error, fails⟩
            cases earlier with
            | nil =>
                cases shape
                rw [answer] at fails
                cases fails
            | cons first others =>
                cases shape
                exact notRefused question List.mem_cons_self answer
        | true =>
            dsimp only
            rw [inductionHypothesis]
            constructor
            · rintro ⟨earlier, failing, later, rfl, notRefused, fails⟩
              refine ⟨question :: earlier, failing, later, rfl, ?_, fails⟩
              intro passed member
              rcases List.mem_cons.1 member with rfl | inEarlier
              · simp [answer]
              · exact notRefused passed inEarlier
            · rintro ⟨earlier, failing, later, shape, notRefused, error, fails⟩
              cases earlier with
              | nil =>
                  cases shape
                  rw [answer] at fails
                  cases fails
              | cons first others =>
                  cases shape
                  refine ⟨others, failing, later, rfl, ?_, error, fails⟩
                  intro passed member
                  exact notRefused passed (List.mem_cons_of_mem _ member)

theorem judgeAll_append
    (first second : List (Question R C)) :
    schema.judgeAll (first ++ second) =
      match schema.judgeAll first with
      | .error error => .error error
      | .ok false => .ok false
      | .ok true => schema.judgeAll second := by
  induction first with
  | nil =>
      rfl
  | cons question rest inductionHypothesis =>
      rw [List.cons_append, judgeAll, judgeAll]
      rcases schema.reply question with error | accepted
      · rfl
      · cases accepted with
        | false =>
            rfl
        | true =>
            exact inductionHypothesis

/-- Criteria that are judged in order may be asked one at a time. -/
theorem JudgesInOrder.judgeAll_map
    (inOrder : schema.JudgesInOrder)
    (criterion : C)
    (rest : List C)
    (candidate : Candidate R) :
    schema.judgeAll ((criterion :: rest).map fun criterion => ⟨[criterion], candidate⟩) =
      schema.accepts (criterion :: rest) candidate := by
  induction rest generalizing criterion with
  | nil =>
      rw [List.map_singleton, judgeAll, reply]
      rcases schema.accepts [criterion] candidate with error | (accepted | accepted) <;> rfl
  | cons next rest inductionHypothesis =>
      rw [inOrder, List.map_cons, judgeAll, inductionHypothesis, reply]

theorem JudgesInOrder.judgeAll_singly
    (inOrder : schema.JudgesInOrder)
    (question : Question R C) :
    schema.judgeAll question.singly = schema.reply question := by
  obtain ⟨criteria, candidate⟩ := question
  cases criteria with
  | nil =>
      show schema.judgeAll [⟨[], candidate⟩] = schema.reply ⟨[], candidate⟩
      rw [judgeAll]
      rcases schema.reply ⟨[], candidate⟩ with error | (accepted | accepted) <;> rfl
  | cons criterion rest =>
      exact inOrder.judgeAll_map criterion rest candidate

/-- Where criteria are judged in order, questions may be asked one criterion at a time. -/
theorem JudgesInOrder.judgeAll_flatMap_singly
    (inOrder : schema.JudgesInOrder)
    (questions : List (Question R C)) :
    schema.judgeAll (questions.flatMap Question.singly) = schema.judgeAll questions := by
  induction questions with
  | nil =>
      rfl
  | cons question rest inductionHypothesis =>
      rw [List.flatMap_cons, judgeAll_append, inOrder.judgeAll_singly, inductionHypothesis,
        judgeAll]

/-- A schema that reads a value and then tests all criteria on it judges them in order. -/
theorem judgesInOrder_of_testAll
    {schema : Schema R (Criterion R)}
    {read : Candidate R → Except IndexError Bytes}
    (judges :
      ∀ criteria candidate,
        schema.accepts criteria candidate =
          (read candidate).bind fun value =>
            Criterion.testAll value candidate.record? criteria) :
    schema.JudgesInOrder := by
  intro criterion next rest candidate
  rw [judges, judges, judges]
  rcases read candidate with error | value
  · rfl
  · simp only [Except.bind]
    rw [Criterion.testAll, Criterion.testAll]
    rcases tested : criterion.test value candidate.record? with error | (accepted | accepted) <;>
      simp [Criterion.testAll, tested]

end Schema

namespace Criterion

variable {R : Type}

/-- A criterion that is no match function is judged on the value alone, and never fails. -/
theorem test_of_not_matchFunction
    {criterion : Criterion R}
    (onValue : criterion.isMatchFunction = false)
    (value : Bytes) :
    ∃ accepted, ∀ record, criterion.test value record = .ok accepted := by
  cases criterion with
  | compare comparison operand =>
      exact ⟨_, fun _ => rfl⟩
  | oneOf values =>
      exact ⟨_, fun _ => rfl⟩
  | pattern sought =>
      exact ⟨_, fun _ => rfl⟩
  | matchFunction function =>
      cases onValue

/-- Criteria without match functions are judged on the value alone, and never fail. -/
theorem testAll_of_no_matchFunction
    {criteria : List (Criterion R)}
    (onValue : anyMatchFunction criteria = false)
    (value : Bytes) :
    ∃ accepted, ∀ record, testAll value record criteria = .ok accepted := by
  induction criteria with
  | nil =>
      exact ⟨true, fun _ => rfl⟩
  | cons criterion rest inductionHypothesis =>
      rw [anyMatchFunction, List.any_cons, Bool.or_eq_false_iff] at onValue
      obtain ⟨first, firstTested⟩ := test_of_not_matchFunction onValue.1 value
      obtain ⟨others, othersTested⟩ := inductionHypothesis onValue.2
      refine ⟨first && others, ?_⟩
      intro record
      rw [testAll, firstTested record]
      cases first with
      | false =>
          rfl
      | true =>
          exact othersTested record

end Criterion

end SecondaryIndex
