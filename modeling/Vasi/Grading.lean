import Vasi.Activities

/-!
# Questionnaire grading

A questionnaire is passed when the percentage of the points reaches the passing
percentage, but the percentage that is compared has been rounded to two decimals
first. Double arithmetic is exact enough to place every score except those on the
rounding boundary itself, where it depends on the passing percentage alone.
-/
namespace Vasi.Activities

open JsValue Validation

/-! ## The rounded percentage -/

/-- The scaled quotient is the exact one but for a tiny error. -/
theorem scaled_distance {earned total : ℕ} (positive : 0 < total) (within : earned ≤ total) :
    |Binary64.multiply (Binary64.divide earned total) 10000 - (earned : ℚ) / total * 10000| ≤
      1 / 2 ^ 38 := by
  have scale : (0 : ℚ) < total := by exact_mod_cast positive
  have ratio : (0 : ℚ) ≤ (earned : ℚ) / total := by positivity
  have whole : (earned : ℚ) / total ≤ 1 := by
    rw [div_le_one scale]
    exact_mod_cast within
  have first : |Binary64.divide earned total - (earned : ℚ) / total| ≤ 1 / 2 ^ 53 := by
    have size : |(earned : ℚ) / total| < 2 ^ 1 := by
      rw [abs_of_nonneg ratio]
      linarith
    exact (Binary64.round_distance_lt size (by norm_num)).trans (by norm_num)
  have bounds := abs_le.mp first
  have second : |Binary64.multiply (Binary64.divide earned total) 10000 -
      Binary64.divide earned total * 10000| ≤ 1 / 2 ^ 40 := by
    have size : |Binary64.divide earned total * 10000| < 2 ^ 14 := by
      rw [abs_lt]
      constructor <;> norm_num at bounds ⊢ <;> linarith
    exact (Binary64.round_distance_lt size (by norm_num)).trans (by norm_num)
  have near := abs_le.mp second
  rw [abs_le]
  constructor <;> norm_num at bounds near ⊢ <;> linarith

/-- On the rounding boundary the double product falls short of it for six passing
percentages. -/
def roundsDown : List ℕ := [8, 28, 34, 56, 69, 81]

theorem boundary_product : ∀ percentage ∈ List.range 101, 1 ≤ percentage →
    (100 * (percentage : ℚ) - 1 / 2 ≤
      Binary64.multiply (Binary64.divide (200 * percentage - 1) 20000) 10000 ↔
      percentage ∉ roundsDown) := by
  decide +kernel

/-- The scores that pass: those above the rounding boundary, which lies half a
hundredth of a percentage point below the passing percentage, and most of those on it. -/
def RoundsToPass (earned total percentage : ℕ) : Prop :=
  200 * percentage * total < 20000 * earned + total ∨
    (200 * percentage * total = 20000 * earned + total ∧ percentage ∉ roundsDown)

/-- Reaching a whole percentage is a matter of the rounded hundredths. -/
theorem percent_reaches {earned total percentage : ℕ} (positive : 0 < total)
    (bound : percentage ≤ 100) (small : percentHundredths earned total < 2 ^ 20)
    (nonnegative : 0 ≤ percentHundredths earned total) :
    (percentage : ℚ) ≤ percent earned total ↔
      (100 * percentage : ℤ) ≤ percentHundredths earned total := by
  rw [percent, if_neg positive.ne']
  generalize percentHundredths earned total = hundredths at small nonnegative ⊢
  have low : (0 : ℚ) ≤ hundredths := by exact_mod_cast nonnegative
  have high : (hundredths : ℚ) < 2 ^ 20 := by exact_mod_cast small
  have size : |(hundredths : ℚ) / 100| < 2 ^ 20 := by
    rw [abs_of_nonneg (by positivity)]
    linarith
  have bounds := abs_le.mp (Binary64.round_distance_lt size (by norm_num))
  rw [Binary64.divide]
  constructor
  · intro reached
    by_contra below
    have under : (hundredths : ℚ) ≤ 100 * percentage - 1 := by
      have integral : hundredths ≤ 100 * percentage - 1 := by omega
      exact_mod_cast integral
    norm_num at bounds
    linarith
  · intro reached
    rcases reached.lt_or_eq with above | exact
    · have more : (100 * percentage + 1 : ℚ) ≤ hundredths := by exact_mod_cast above
      norm_num at bounds
      linarith
    · rw [← exact]
      have quotient : ((100 * (percentage : ℤ) : ℤ) : ℚ) / 100 = ((percentage : ℤ) : ℚ) := by
        push_cast
        ring
      rw [quotient, Binary64.round_intCast]
      · simp
      · rw [abs_lt]
        omega

theorem le_percentHundredths (earned total : ℕ) (bound : ℤ) :
    bound ≤ percentHundredths earned total ↔
      (bound : ℚ) - 1 / 2 ≤ Binary64.multiply (Binary64.divide earned total) 10000 := by
  rw [percentHundredths, Binary64.mathRound, Int.le_floor]
  constructor <;> intro reached <;> linarith

/-- The comparison of the rounded percentage, in whole numbers. -/
theorem percent_passes_iff {earned total percentage : ℕ} (positive : 0 < total)
    (limited : total ≤ 50000) (within : earned ≤ total) (bound : percentage ≤ 100) :
    (percentage : ℚ) ≤ percent earned total ↔ RoundsToPass earned total percentage := by
  have scale : (0 : ℚ) < total := by exact_mod_cast positive
  have size : (total : ℚ) ≤ 50000 := by exact_mod_cast limited
  have near := abs_le.mp (scaled_distance positive within)
  have ratio : (0 : ℚ) ≤ (earned : ℚ) / total := by positivity
  have whole : (earned : ℚ) / total ≤ 1 := by
    rw [div_le_one scale]
    exact_mod_cast within
  have small : percentHundredths earned total < 2 ^ 20 := by
    rw [← not_le, le_percentHundredths, not_le]
    norm_num at near ⊢
    linarith
  have nonnegative : 0 ≤ percentHundredths earned total := by
    rw [le_percentHundredths]
    norm_num at near ⊢
    linarith
  rw [percent_reaches positive bound small nonnegative, le_percentHundredths]
  push_cast
  -- the exact distance to the boundary, over the total
  have exact : (earned : ℚ) / total * 10000 - (100 * percentage - 1 / 2) =
      ((20000 * earned + total - 200 * percentage * total : ℤ) : ℚ) / (2 * total) := by
    push_cast
    field_simp
    ring
  rcases lt_trichotomy (200 * percentage * total) (20000 * earned + total) with above | tie | below
  · have gap : (1 : ℚ) / 100000 ≤
        ((20000 * earned + total - 200 * percentage * total : ℤ) : ℚ) / (2 * total) := by
      rw [le_div_iff₀ (by positivity)]
      have one : (1 : ℚ) ≤ ((20000 * earned + total - 200 * percentage * total : ℤ) : ℚ) := by
        have integral : (1 : ℤ) ≤ 20000 * earned + total - 200 * percentage * total := by
          zify at above
          linarith
        exact_mod_cast integral
      linarith
    rw [← exact] at gap
    have passes : RoundsToPass earned total percentage := .inl above
    refine iff_of_true ?_ passes
    norm_num at near gap ⊢
    linarith
  · have percentagePositive : 1 ≤ percentage := by
      rcases Nat.eq_zero_or_pos percentage with rfl | one
      · omega
      · exact one
    have same : (earned : ℚ) / total = (200 * percentage - 1) / 20000 := by
      have cast : (200 * percentage * total : ℚ) = 20000 * earned + total := by
        exact_mod_cast tie
      field_simp
      linarith
    rw [Binary64.divide, same, ← Binary64.divide]
    rw [boundary_product percentage (List.mem_range.mpr (by omega)) percentagePositive]
    unfold RoundsToPass
    constructor
    · intro kept
      exact .inr ⟨tie, kept⟩
    · rintro (above | ⟨-, kept⟩)
      · omega
      · exact kept
  · have gap : ((20000 * earned + total - 200 * percentage * total : ℤ) : ℚ) / (2 * total) ≤
        -(1 / 100000) := by
      rw [div_le_iff₀ (by positivity)]
      have one : ((20000 * earned + total - 200 * percentage * total : ℤ) : ℚ) ≤ -1 := by
        have integral : (20000 * earned + total - 200 * percentage * total : ℤ) ≤ -1 := by
          zify at below
          linarith
        exact_mod_cast integral
      linarith
    rw [← exact] at gap
    have fails : ¬RoundsToPass earned total percentage := by
      rintro (above | ⟨tie, -⟩) <;> omega
    refine iff_of_false ?_ fails
    norm_num at near gap ⊢
    linarith

/-! ## The answer key -/

/-- Whether an answer equals the key: the one choice, or the set of choices. -/
def Question.keyed (question : Question) (answer : Value) : Bool :=
  match answer with
  | .string id => !question.multiple && question.correctChoiceIds == [id]
  | .array items => question.multiple && match stringItems? items with
      | some ids => ids.toFinset == question.correctChoiceIds.toFinset
      | none => false
  | _ => false

/-- The points of the questions whose answer equals the key. -/
def QuestionnaireContent.keyPoints (content : QuestionnaireContent) (answers : Members) : ℕ :=
  (content.questions.map fun question =>
    if question.keyed (Value.member answers question.id) then question.points else 0).sum

/-- The points of all questions. -/
def QuestionnaireContent.allPoints (content : QuestionnaireContent) : ℕ :=
  (content.questions.map Question.points).sum

/-- What the definition checks leave of a question. -/
structure Question.Settled (question : Question) : Prop where
  distinct : question.correctChoiceIds.Nodup
  single : question.multiple = false → question.correctChoiceIds.length = 1
  points : 1 ≤ question.points ∧ question.points ≤ 1000

theorem normalizeCorrectChoiceIds_settled {value : Value} {choices : List Choice}
    {multiple : Bool} {ids : List JsString}
    (accepted : normalizeCorrectChoiceIds value choices multiple = .ok ids) :
    ids ≠ [] ∧ ids.Nodup ∧ (∀ id ∈ ids, id ∈ choices.map Choice.id) ∧
      (multiple = false → ids.length = 1) := by
  unfold normalizeCorrectChoiceIds at accepted
  dsimp only at accepted
  split at accepted
  · split at accepted
    · split at accepted
      · rename_i kept
        obtain rfl := Except.ok.inj accepted
        exact kept
      · cases accepted
    · cases accepted
  · cases accepted

/-- The checks that the parts of a question have passed. -/
theorem normalizeQuestion_parts {number : ℕ} {value : Value} {question : Question}
    (accepted : normalizeQuestion number value = .ok question) :
    (∃ given name, normalizeChoices given name = .ok question.choices) ∧
      (∃ given, normalizeCorrectChoiceIds given question.choices question.multiple =
        .ok question.correctChoiceIds) ∧
      (∃ given field, identifier given field = .ok question.id) ∧
      ∃ given field, safeInteger given field 1 1000 = .ok question.points := by
  unfold normalizeQuestion at accepted
  obtain ⟨input, -, accepted⟩ := bind_ok accepted
  obtain ⟨type, -, accepted⟩ := bind_ok accepted
  obtain ⟨choices, chosen, accepted⟩ := bind_ok accepted
  obtain ⟨ids, key, accepted⟩ := bind_ok accepted
  obtain ⟨id, identified, accepted⟩ := bind_ok accepted
  obtain ⟨points, scored, accepted⟩ := bind_ok accepted
  obtain ⟨prompt, -, accepted⟩ := bind_ok accepted
  obtain rfl := Except.ok.inj accepted
  exact ⟨⟨_, _, chosen⟩, ⟨_, key⟩, ⟨_, _, identified⟩, _, _, scored⟩

theorem normalizeQuestion_settled {number : ℕ} {value : Value} {question : Question}
    (accepted : normalizeQuestion number value = .ok question) : question.Settled := by
  obtain ⟨-, ⟨_, key⟩, -, _, _, scored⟩ := normalizeQuestion_parts accepted
  obtain ⟨-, once, -, single⟩ := normalizeCorrectChoiceIds_settled key
  exact ⟨once, single, safeIntegerWith_range scored⟩

theorem normalizeEach_settled {α : Type} {normalize : ℕ → Value → Checked α} {kept : α → Prop}
    (each : ∀ number value result, normalize number value = .ok result → kept result)
    {number : ℕ} {values : List Value} {results : List α}
    (accepted : normalizeEach normalize number values = .ok results) :
    results.length = values.length ∧ ∀ result ∈ results, kept result := by
  induction values generalizing number results with
  | nil =>
      obtain rfl := Except.ok.inj accepted
      simp
  | cons value rest inductionHypothesis =>
      obtain ⟨head, first, accepted⟩ := bind_ok accepted
      obtain ⟨tail, others, accepted⟩ := bind_ok accepted
      obtain rfl := Except.ok.inj accepted
      obtain ⟨length, settled⟩ := inductionHypothesis others
      refine ⟨by simp [length], ?_⟩
      rintro result (_ | ⟨_, later⟩)
      · exact each _ _ _ first
      · exact settled result later

/-- What the definition checks leave of a questionnaire. -/
structure QuestionnaireContent.Settled (content : QuestionnaireContent) : Prop where
  passing : content.passingPercent ≤ 100
  some : content.questions ≠ []
  few : content.questions.length ≤ 50
  questions : ∀ question ∈ content.questions, question.Settled

/-- The list has between one and fifty items, and the identifiers of its questions differ. -/
theorem normalizeQuestions_parts {value : Value} {questions : List Question}
    (accepted : normalizeQuestions value = .ok questions) :
    ∃ items, ¬(items = [] ∨ items.length > 50) ∧
      normalizeEach normalizeQuestion 1 items = .ok questions ∧
      (questions.map Question.id).Nodup := by
  unfold normalizeQuestions at accepted
  split at accepted
  · split at accepted
    · cases accepted
    · rename_i items sized
      obtain ⟨normalized, each, accepted⟩ := bind_ok accepted
      split at accepted
      · rename_i distinct
        obtain rfl := Except.ok.inj accepted
        exact ⟨items, sized, each, distinct⟩
      · cases accepted
  · cases accepted

theorem normalizeQuestionnaire_parts {value : Value} {content : QuestionnaireContent}
    (accepted : normalizeQuestionnaire value = .ok content) :
    content.passingPercent ≤ 100 ∧
      ∃ given, normalizeQuestions given = .ok content.questions := by
  unfold normalizeQuestionnaire at accepted
  obtain ⟨input, -, accepted⟩ := bind_ok accepted
  obtain ⟨questions, each, accepted⟩ := bind_ok accepted
  obtain ⟨disclosure, -, accepted⟩ := bind_ok accepted
  obtain ⟨instructions, -, accepted⟩ := bind_ok accepted
  obtain ⟨percentage, ranged, accepted⟩ := bind_ok accepted
  obtain rfl := Except.ok.inj accepted
  exact ⟨(safeIntegerWith_range ranged).2, _, each⟩

/-- What holds of every accepted question holds of the questions of a questionnaire. -/
theorem normalizeQuestionnaire_each {value : Value} {content : QuestionnaireContent}
    (accepted : normalizeQuestionnaire value = .ok content) {kept : Question → Prop}
    (each : ∀ number value question, normalizeQuestion number value = .ok question →
      kept question) : ∀ question ∈ content.questions, kept question := by
  obtain ⟨-, given, asked⟩ := normalizeQuestionnaire_parts accepted
  obtain ⟨items, -, normalized, -⟩ := normalizeQuestions_parts asked
  exact (normalizeEach_settled each normalized).2

theorem normalizeQuestionnaire_settled {value : Value} {content : QuestionnaireContent}
    (accepted : normalizeQuestionnaire value = .ok content) : content.Settled := by
  obtain ⟨passing, given, asked⟩ := normalizeQuestionnaire_parts accepted
  obtain ⟨items, sized, normalized, -⟩ := normalizeQuestions_parts asked
  obtain ⟨length, settled⟩ := normalizeEach_settled
    (fun _ _ _ one => normalizeQuestion_settled one) normalized
  push Not at sized
  refine ⟨passing, fun none => sized.1 ?_, by omega, settled⟩
  rw [none] at length
  exact List.length_eq_zero_iff.mp length.symm

/-- Bounded strings are the strings of the array. -/
theorem boundedResponseStrings_items {items : List Value} {texts : List JsString}
    (accepted : boundedResponseStrings items = .ok texts) : stringItems? items = some texts := by
  induction items generalizing texts with
  | nil =>
      obtain rfl := Except.ok.inj accepted
      rfl
  | cons item rest inductionHypothesis =>
      obtain ⟨head, first, accepted⟩ := bind_ok accepted
      obtain ⟨tail, others, accepted⟩ := bind_ok accepted
      obtain rfl := Except.ok.inj accepted
      unfold boundedResponseString at first
      split at first
      · split at first
        · cases first
        · obtain rfl := Except.ok.inj first
          rw [stringItems?, inductionHypothesis others]
          rfl
      · cases first

/-- Lists without repetition of one length, one inside the other, are one set. -/
theorem sameSet_iff {left right : List JsString} (leftDistinct : left.Nodup)
    (rightDistinct : right.Nodup) :
    sameSet left right = true ↔ left.toFinset = right.toFinset := by
  rw [sameSet, Bool.and_eq_true, beq_iff_eq, List.all_eq_true]
  constructor
  · rintro ⟨length, inside⟩
    refine Finset.eq_of_subset_of_card_le (fun entry member => ?_) ?_
    · rw [List.mem_toFinset] at member ⊢
      exact of_decide_eq_true (inside entry member)
    · rw [List.toFinset_card_of_nodup leftDistinct, List.toFinset_card_of_nodup rightDistinct,
        length]
  · intro same
    refine ⟨?_, fun entry member => decide_eq_true ?_⟩
    · rw [← List.toFinset_card_of_nodup leftDistinct, ← List.toFinset_card_of_nodup rightDistinct,
        same]
    · rw [← List.mem_toFinset, ← same, List.mem_toFinset]
      exact member

theorem scoreSingleChoice_keyed {question : Question} {answer : Value} {scored : ScoredAnswer}
    (settled : question.Settled) (single : question.multiple = false)
    (accepted : scoreSingleChoice question answer = .ok scored) :
    scored.question = question ∧ scored.correct = question.keyed answer := by
  obtain ⟨id, bounded, accepted⟩ := bind_ok accepted
  split at accepted
  · obtain rfl := Except.ok.inj accepted
    refine ⟨rfl, ?_⟩
    unfold boundedResponseString at bounded
    split at bounded
    · split at bounded
      · cases bounded
      · obtain rfl := Except.ok.inj bounded
        obtain ⟨key, only⟩ := List.length_eq_one_iff.mp (settled.single single)
        rw [Bool.eq_iff_iff]
        simp only [Question.keyed, single, only, decide_eq_true_eq, List.mem_singleton,
          Bool.not_false, Bool.true_and, beq_iff_eq, List.cons.injEq, and_true]
        exact eq_comm
    · cases bounded
  · cases accepted

theorem scoreMultipleChoice_keyed {question : Question} {answer : Value} {scored : ScoredAnswer}
    (settled : question.Settled) (multiple : question.multiple = true)
    (accepted : scoreMultipleChoice question answer = .ok scored) :
    scored.question = question ∧ scored.correct = question.keyed answer := by
  unfold scoreMultipleChoice at accepted
  split at accepted
  · obtain ⟨ids, bounded, accepted⟩ := bind_ok accepted
    split at accepted
    · rename_i kept
      obtain rfl := Except.ok.inj accepted
      refine ⟨rfl, ?_⟩
      rw [Bool.eq_iff_iff]
      simp [Question.keyed, multiple, boundedResponseStrings_items bounded,
        sameSet_iff kept.1 settled.distinct]
    · cases accepted
  · cases accepted

/-- The lookup finds the own member. -/
theorem answerTo_member {answers : Members} {question : Question} {answer : Value}
    (found : answerTo answers question = some answer) :
    Value.member answers question.id = answer := by
  unfold answerTo at found
  split at found
  · cases found
  · exact Option.some.inj found

/-- A scored question is correct exactly when its answer equals the key. -/
theorem scoreQuestion_keyed {answers : Members} {question : Question} {scored : ScoredAnswer}
    (settled : question.Settled) (accepted : scoreQuestion answers question = .ok scored) :
    scored.question = question ∧
      scored.correct = question.keyed (Value.member answers question.id) := by
  unfold scoreQuestion at accepted
  split at accepted
  · rename_i missing
    split at accepted
    · cases accepted
    · obtain rfl := Except.ok.inj accepted
      exact ⟨rfl, by rw [answerTo_member missing]; rfl⟩
  · rename_i found
    rw [answerTo_member found]
    split at accepted
    · rename_i multiple
      exact scoreMultipleChoice_keyed settled multiple accepted
    · rename_i single
      exact scoreSingleChoice_keyed settled (Bool.not_eq_true _ ▸ single) accepted
  · split at accepted <;> cases accepted

theorem scoreQuestions_keyed {answers : Members} {questions : List Question}
    {scored : List ScoredAnswer} (settled : ∀ question ∈ questions, question.Settled)
    (accepted : scoreQuestions answers questions = .ok scored) :
    earnedPoints scored = (questions.map fun question =>
        if question.keyed (Value.member answers question.id) then question.points else 0).sum ∧
      totalPoints scored = (questions.map Question.points).sum := by
  induction questions generalizing scored with
  | nil =>
      obtain rfl := Except.ok.inj accepted
      exact ⟨rfl, rfl⟩
  | cons question rest inductionHypothesis =>
      obtain ⟨head, first, accepted⟩ := bind_ok accepted
      obtain ⟨tail, others, accepted⟩ := bind_ok accepted
      obtain rfl := Except.ok.inj accepted
      rw [List.forall_mem_cons] at settled
      obtain ⟨asked, keyed⟩ := scoreQuestion_keyed settled.1 first
      obtain ⟨earned, total⟩ := inductionHypothesis settled.2 others
      unfold earnedPoints at earned ⊢
      unfold totalPoints at total ⊢
      simp only [List.map_cons, List.sum_cons, earned, total, asked, keyed, and_self]

/-- The points of a questionnaire: some, at most fifty thousand, and never fewer than
the ones earned. -/
theorem QuestionnaireContent.Settled.points {content : QuestionnaireContent}
    (settled : content.Settled) (answers : Members) :
    0 < content.allPoints ∧ content.allPoints ≤ 50000 ∧
      content.keyPoints answers ≤ content.allPoints := by
  refine ⟨?_, ?_, ?_⟩
  · obtain ⟨question, rest, same⟩ := List.exists_cons_of_ne_nil settled.some
    have scored := (settled.questions question (by simp [same])).points.1
    rw [allPoints, same, List.map_cons, List.sum_cons]
    omega
  · have each := List.sum_le_card_nsmul (content.questions.map Question.points) 1000 (by
      simp only [List.mem_map]
      rintro _ ⟨question, member, rfl⟩
      exact (settled.questions question member).points.2)
    rw [List.length_map, nsmul_eq_mul] at each
    have few := settled.few
    simp only [Nat.cast_id] at each
    unfold allPoints
    omega
  · refine List.sum_le_sum fun question _ => ?_
    split <;> omega

/-- The passed member of a graded response. -/
def ActivityResponse.passed (graded : ActivityResponse) : Bool :=
  isTrue (graded.result.get (js "passed"))

theorem questionnaireResult_passed (content : QuestionnaireContent)
    (answers : List ScoredAnswer) :
    (questionnaireResult content answers).get (js "passed") =
      .bool (content.passingPercent ≤ percent (earnedPoints answers) (totalPoints answers)) := by
  have first : (js "passed" == js "earnedPoints") = false := by decide
  simp [questionnaireResult, Value.get, Value.member, List.lookup_cons, first]

theorem respondToQuestionnaire_passed {content : QuestionnaireContent} {answers : Members}
    {graded : ActivityResponse} (settled : content.Settled)
    (accepted : respondToQuestionnaire content (.object answers) = .ok graded) :
    graded.passed = true ↔
      RoundsToPass (content.keyPoints answers) content.allPoints content.passingPercent := by
  unfold respondToQuestionnaire at accepted
  obtain ⟨members, own, accepted⟩ := bind_ok accepted
  obtain ⟨scored, each, accepted⟩ := bind_ok accepted
  obtain rfl := Except.ok.inj accepted
  have same : members = answers := by
    unfold strictResponseObject strictObjectWith at own
    dsimp only at own
    split at own
    · cases own
    · exact (Except.ok.inj own).symm
  subst same
  obtain ⟨earned, total⟩ := scoreQuestions_keyed settled.questions each
  obtain ⟨some, limited, within⟩ := settled.points members
  rw [← percent_passes_iff some limited within settled.passing]
  unfold QuestionnaireContent.keyPoints QuestionnaireContent.allPoints
  rw [← earned, ← total]
  simp only [ActivityResponse.passed, questionnaireResult_passed]
  cases reached : decide ((content.passingPercent : ℚ) ≤
    percent (earnedPoints scored) (totalPoints scored)) with
  | true => simp [isTrue, of_decide_eq_true reached]
  | false => simp [isTrue, of_decide_eq_false reached]

/-- A questionnaire is passed exactly when the points reach the passing percentage,
except for the scores that are below it and round up to it. -/
theorem questionnaire_graded_iff {definition : Value} {content : QuestionnaireContent}
    {activity : Activity} {answers : Members} {graded : ActivityResponse}
    (normalized : normalizeQuestionnaire definition = .ok content)
    (kind : activity.content = .questionnaire content)
    (accepted : validateActivityResponse activity (.object answers) = .ok graded) :
    (graded.passed = true ↔
        content.passingPercent * content.allPoints ≤ 100 * content.keyPoints answers) ↔
      (content.passingPercent * content.allPoints ≤ 100 * content.keyPoints answers ∨
        20000 * content.keyPoints answers + content.allPoints <
          200 * content.passingPercent * content.allPoints ∨
        (20000 * content.keyPoints answers + content.allPoints =
          200 * content.passingPercent * content.allPoints ∧
            content.passingPercent ∈ roundsDown)) := by
  have settled := normalizeQuestionnaire_settled normalized
  have points := settled.points answers
  have responded : respondToQuestionnaire content (.object answers) = .ok graded := by
    rw [validateActivityResponse, kind] at accepted
    exact accepted
  rw [respondToQuestionnaire_passed settled responded]
  generalize content.keyPoints answers = earned at points ⊢
  generalize content.allPoints = total at points ⊢
  generalize content.passingPercent = percentage
  have scaled : 200 * percentage * total = 200 * (percentage * total) := by ring
  unfold RoundsToPass
  by_cases down : percentage ∈ roundsDown
  · simp only [down, not_true_eq_false, and_false, or_false, and_true]
    omega
  · simp only [down, not_false_eq_true, and_true, and_false, or_false]
    omega

/-! ### A score that rounds up -/

/-- A test of two questions, worth 296 points and 3, that takes 99 percent. -/
def closeTest : QuestionnaireContent where
  instructions := none
  passingPercent := 99
  questions :=
    let choices := [⟨none, js "y", js "Yes"⟩, ⟨none, js "n", js "No"⟩]
    [{ choices, correctChoiceIds := [js "y"], id := js "a", points := 296
       prompt := js "A?", required := true, multiple := false },
     { choices, correctChoiceIds := [js "y"], id := js "b", points := 3
       prompt := js "B?", required := true, multiple := false }]
  resultDisclosure := js "pass_fail"

def closeActivity : Activity where
  content := .questionnaire closeTest
  id := js "test"
  instructions := none
  title := js "Test"
  transition := ⟨[], none⟩

/-- Right on the large question and wrong on the small one: 296 of 299 points. -/
def closeAnswers : Members := [(js "a", .string (js "y")), (js "b", .string (js "n"))]

theorem closeTest_normalized :
    normalizeQuestionnaire closeActivity.content.toValue = .ok closeTest := rfl

theorem closeTest_answered :
    ∃ graded, validateActivityResponse closeActivity (.object closeAnswers) = .ok graded := by
  have accepted : (validateActivityResponse closeActivity (.object closeAnswers)).isOk = true := rfl
  cases found : validateActivityResponse closeActivity (.object closeAnswers) with
  | error failure =>
      rw [found] at accepted
      cases accepted
  | ok graded => exact ⟨graded, rfl⟩

/-- 98.997 percent passes a test that takes 99. -/
theorem closeTest_passes : ∃ definition content activity answers graded,
    normalizeQuestionnaire definition = .ok content ∧
      activity.content = .questionnaire content ∧
      validateActivityResponse activity (.object answers) = .ok graded ∧
      graded.passed = true ∧
      ¬ content.passingPercent * content.allPoints ≤ 100 * content.keyPoints answers := by
  obtain ⟨graded, accepted⟩ := closeTest_answered
  refine ⟨_, closeTest, closeActivity, closeAnswers, graded, closeTest_normalized, rfl, accepted,
    ?_, by decide⟩
  have settled := normalizeQuestionnaire_settled closeTest_normalized
  exact (respondToQuestionnaire_passed settled accepted).mpr (.inl (by decide))

/-- The condition at that test. -/
theorem questionnaire_graded_iff_closeTest : ∃ graded,
    validateActivityResponse closeActivity (.object closeAnswers) = .ok graded ∧
      ((graded.passed = true ↔
        closeTest.passingPercent * closeTest.allPoints ≤ 100 * closeTest.keyPoints closeAnswers) ↔
      (closeTest.passingPercent * closeTest.allPoints ≤ 100 * closeTest.keyPoints closeAnswers ∨
        20000 * closeTest.keyPoints closeAnswers + closeTest.allPoints <
          200 * closeTest.passingPercent * closeTest.allPoints ∨
        (20000 * closeTest.keyPoints closeAnswers + closeTest.allPoints =
          200 * closeTest.passingPercent * closeTest.allPoints ∧
            closeTest.passingPercent ∈ roundsDown))) := by
  obtain ⟨graded, accepted⟩ := closeTest_answered
  exact ⟨graded, accepted, questionnaire_graded_iff closeTest_normalized rfl accepted⟩

end Vasi.Activities
