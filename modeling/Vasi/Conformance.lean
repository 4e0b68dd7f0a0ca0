import Vasi.Redaction
import Vasi.StoredConfiguration

/-!
# Conforming responses

What a response has to be under the definition of its activity, stated for each
type, and which responses are accepted. Accepted is what conforms, with one
exception: an optional question whose identifier spells an inherited member of
every object can not be left out.
-/
namespace Vasi.Conformance

open JsValue Validation Activities Redaction

/-! ## Conformance -/

/-- The text of a response is one of the presented values. -/
def OneOf (response : Value) (texts : List JsString) : Prop :=
  ∃ text ∈ texts, response = .string text

/-- A list of presented choices, none of them twice. -/
structure Selects (choices : List Choice) (response : Value) (ids : List JsString) : Prop where
  listed : response = .array (ids.map .string)
  distinct : ids.Nodup
  presented : ∀ id ∈ ids, id ∈ choices.map Choice.id

/-- An object with members of known names only. -/
structure Fields (names : List JsString) (response : Value) (members : Members) : Prop where
  object : response = .object members
  known : ∀ entry ∈ members, entry.1 ∈ names

/-- A coordinate of the drawing area. -/
def IsCoordinate (value : Value) : Prop :=
  ∃ number place, value = .number number ∧ number.toRat? = some place ∧ 0 ≤ place ∧ place ≤ 1

/-- A time within a day, in whole milliseconds, or none. -/
def IsPointTime (value : Value) : Prop :=
  value = .undefined ∨ ∃ number time, value = .number number ∧ number.isSafeInteger = true ∧
    number.toRat? = some time ∧ 0 ≤ time ∧ time ≤ 86400000

def IsPoint (value : Value) : Prop :=
  ∃ members, Fields [js "t", js "x", js "y"] value members ∧
    IsCoordinate (Value.member members (js "x")) ∧
    IsCoordinate (Value.member members (js "y")) ∧ IsPointTime (Value.member members (js "t"))

/-- A stroke of two to a thousand points. -/
def IsStroke (value : Value) (points : List Value) : Prop :=
  value = .array points ∧ 2 ≤ points.length ∧ points.length ≤ 1000 ∧
    ∀ point ∈ points, IsPoint point

/-- A drawing of one to fifty strokes with five thousand points at most. -/
def IsDrawing (value : Value) : Prop :=
  ∃ strokes : List (List Value), value = .array (strokes.map .array) ∧
    1 ≤ strokes.length ∧ strokes.length ≤ 50 ∧
    (∀ stroke ∈ strokes, IsStroke (.array stroke) stroke) ∧
    (strokes.map List.length).sum ≤ 5000

/-- A signature by one of the methods of the activity, with consent. The member of the
other method is not part of it. -/
def Signs (content : SignatureContent) (response : Value) : Prop :=
  ∃ members, Fields [js "consent", js "method", js "name", js "strokes"] response members ∧
    Value.member members (js "consent") = .bool true ∧
    ∃ method ∈ content.methods, Value.member members (js "method") = .string method.name ∧
      match method with
      | .typed => ∃ name, Value.member members (js "name") = .string name ∧
          name.length ≤ 160 ∧ 2 ≤ (trim name).length
      | .drawn => IsDrawing (Value.member members (js "strokes"))

/-- An answer to a question: a choice, or a list of choices. -/
def AnswersQuestion (question : Question) (answer : Value) : Prop :=
  if question.multiple then ∃ ids, Selects question.choices answer ids
  else OneOf answer (question.choices.map Choice.id)

/-- Answers to questions of the questionnaire only, each of them fitting, with none missing
that is required. -/
def AnswersQuestionnaire (content : QuestionnaireContent) (response : Value) : Prop :=
  ∃ answers, Fields (content.questions.map Question.id) response answers ∧
    ∀ question ∈ content.questions,
      (Value.member answers question.id ≠ .undefined →
        AnswersQuestion question (Value.member answers question.id)) ∧
      (question.required = true → Value.member answers question.id ≠ .undefined)

/-- A completion by a method that the policy allows. -/
def Completes (content : Media.ExternalMediaContent) (response : Value) : Prop :=
  ∃ members, Fields [js "acknowledged", js "method"] response members ∧
    ((Value.member members (js "method") = .string (js "playback") ∧
        content.completionPolicy.mode ≠ .acknowledgement) ∨
      (Value.member members (js "method") = .string (js "acknowledgement") ∧
        content.completionPolicy.mode ≠ .playback ∧
        Value.member members (js "acknowledged") = .bool true))

/-- The response conforms to the definition of its activity. -/
def Conforms (activity : Activity) (response : Value) : Prop :=
  match activity.content with
  | .termsResponse .acknowledgement _ => OneOf response [js "acknowledged"]
  | .termsResponse .yesNo _ => OneOf response [js "yes", js "no"]
  | .approval _ => OneOf response [js "approved", js "disapproved", js "declined"]
  | .singleChoice content => OneOf response (content.choices.map Choice.id)
  | .multipleChoice content => ∃ ids, Selects content.choices response ids ∧
      content.minSelections ≤ ids.length ∧ ids.length ≤ content.maxSelections
  | .freeForm content => ∃ text, response = .string text ∧ text.length ≤ content.maxLength ∧
      content.minLength ≤ (trim text).length ∧ 0 ∉ text
  | .electronicSignature content => Signs content response
  | .documentReview _ => OneOf response [js "reviewed"]
  | .questionnaire content => AnswersQuestionnaire content response
  | .externalMedia content => Completes content response

/-- The response is accepted. -/
def Accepts (activity : Activity) (response : Value) : Prop :=
  ∃ accepted, validateActivityResponse activity response = .ok accepted

/-- An optional question named constructor is left out. -/
def OmitsConstructor (activity : Activity) (response : Value) : Prop :=
  ∃ content answers, activity.content = .questionnaire content ∧ response = .object answers ∧
    js "constructor" ∉ answers.map Prod.fst ∧
    ∃ question ∈ content.questions, question.id = js "constructor" ∧ question.required = false

/-! ## Texts and choices -/

theorem oneOf_ok_iff {value : Value} {allowed : List JsString} {field text : JsString} :
    oneOf value allowed field = .ok text ↔ value = .string text ∧ text ∈ allowed := by
  cases value with
  | string own =>
      by_cases listed : own ∈ allowed
      · simp only [oneOf, if_pos listed, Except.ok.injEq, Value.string.injEq]
        exact ⟨fun same => ⟨same, same ▸ listed⟩, fun same => same.1⟩
      · simp only [oneOf, if_neg listed, Value.string.injEq, reduceCtorEq, false_iff]
        intro same
        exact listed (same.1 ▸ same.2)
  | _ => simp [oneOf]

/-- A response that only has to be one of some texts. -/
theorem oneOf_accepted_iff {α : Type} (response : Value) (allowed : List JsString)
    (field : JsString) (finish : JsString → α) :
    (∃ accepted, (do return finish (← oneOf response allowed field) : Checked α) = .ok accepted) ↔
      OneOf response allowed := by
  constructor
  · rintro ⟨accepted, found⟩
    obtain ⟨text, chosen, -⟩ := bind_ok found
    obtain ⟨same, listed⟩ := oneOf_ok_iff.mp chosen
    exact ⟨text, listed, same⟩
  · rintro ⟨text, listed, same⟩
    rw [oneOf_ok_iff.mpr ⟨same, listed⟩]
    exact ⟨_, rfl⟩

theorem isText_iff (value : Value) (text : JsString) :
    isText value text = true ↔ value = .string text := by
  cases value <;> simp [isText]

/-- An identifier is a response string that is neither too long nor blank. -/
theorem boundedResponseString_identifier {id : JsString} (patterned : isIdentifier id = true) :
    boundedResponseString (.string id) 64 1 = .ok id := by
  cases id with
  | nil => cases patterned
  | cons first rest =>
      simp only [isIdentifier, Bool.and_eq_true, decide_eq_true_eq, List.all_eq_true,
        Bool.or_eq_true] at patterned
      obtain ⟨⟨letter, short⟩, others⟩ := patterned
      have visible : (first :: rest).any isWhiteSpace = false := by
        have plain : ∀ unit : CodeUnit, isLowerLetter unit = true ∨ isDigit unit = true ∨
            unit.val ∈ [95, 45] → isWhiteSpace unit = false := by
          intro unit kind
          simp only [isLowerLetter, isDigit, Bool.and_eq_true, decide_eq_true_eq, List.mem_cons,
            List.not_mem_nil, or_false] at kind
          simp only [isWhiteSpace, Bool.or_eq_false_iff, Bool.and_eq_false_iff,
            decide_eq_false_iff_not, List.mem_cons, List.not_mem_nil, or_false]
          omega
        rw [List.any_eq_false]
        intro unit member
        rw [Bool.not_eq_true]
        rcases List.mem_cons.mp member with rfl | later
        · exact plain _ (.inl letter)
        · exact plain _ (or_assoc.mp (others unit later))
      have kept := StoredConfiguration.trim_visible visible
      unfold boundedResponseString
      dsimp only
      rw [kept, if_neg (by simp only [List.length_cons]; omega)]

theorem boundedResponseStrings_identifiers {ids : List JsString}
    (patterned : ∀ id ∈ ids, isIdentifier id = true) :
    boundedResponseStrings (ids.map .string) = .ok ids := by
  induction ids with
  | nil => rfl
  | cons id rest inductionHypothesis =>
      rw [List.forall_mem_cons] at patterned
      rw [List.map_cons, boundedResponseStrings,
        boundedResponseString_identifier patterned.1, inductionHypothesis patterned.2]
      rfl

theorem stringItems_iff {items : List Value} {texts : List JsString} :
    stringItems? items = some texts ↔ items = texts.map .string := by
  induction items generalizing texts with
  | nil => cases texts <;> simp [stringItems?]
  | cons item rest inductionHypothesis =>
      cases item with
      | string text =>
          cases texts with
          | nil => simp [stringItems?]
          | cons first others =>
              simp only [stringItems?, Option.map_eq_some_iff, List.map_cons, List.cons.injEq,
                Value.string.injEq]
              constructor
              · rintro ⟨tail, found, rfl, rfl⟩
                exact ⟨rfl, inductionHypothesis.mp found⟩
              · rintro ⟨rfl, same⟩
                exact ⟨others, inductionHypothesis.mpr same, rfl, rfl⟩
      | _ => cases texts <;> simp [stringItems?]

/-- The strings of an array that has been accepted. -/
theorem boundedResponseStrings_listed {items : List Value} {texts : List JsString}
    (accepted : boundedResponseStrings items = .ok texts) : items = texts.map .string :=
  stringItems_iff.mp (boundedResponseStrings_items accepted)

theorem findChoices_presented {choices : List Choice} {ids : List JsString} :
    (findChoices choices ids).isSome = true ↔ ∀ id ∈ ids, id ∈ choices.map Choice.id := by
  induction ids with
  | nil => simp [findChoices]
  | cons id rest inductionHypothesis =>
      rw [List.forall_mem_cons, ← inductionHypothesis, findChoices]
      have first : (choices.find? fun choice => choice.id = id).isSome = true ↔
          id ∈ choices.map Choice.id := by
        rw [List.find?_isSome]
        simp [eq_comm]
      rw [← first]
      cases choices.find? fun choice => choice.id = id with
      | none => simp
      | some choice => cases findChoices choices rest <;> simp

/-- The identifiers of presented choices have been checked. -/
def Patterned (choices : List Choice) : Prop := ∀ choice ∈ choices, isIdentifier choice.id = true

theorem Selects.patterned {choices : List Choice} {response : Value} {ids : List JsString}
    (selects : Selects choices response ids) (patterned : Patterned choices) :
    ∀ id ∈ ids, isIdentifier id = true := by
  intro id member
  obtain ⟨choice, listed, rfl⟩ := List.mem_map.mp (selects.presented id member)
  exact patterned choice listed

theorem singleChoice_iff (content : SingleChoiceContent) (response : Value) :
    (∃ accepted, respondToSingleChoice content response = .ok accepted) ↔
      OneOf response (content.choices.map Choice.id) := by
  unfold respondToSingleChoice
  constructor
  · rintro ⟨accepted, found⟩
    split at found
    · rename_i choice same
      have listed := List.mem_of_find?_eq_some same
      have text := List.find?_some same
      exact ⟨choice.id, List.mem_map_of_mem listed, (isText_iff _ _).mp text⟩
    · cases found
  · rintro ⟨id, listed, rfl⟩
    obtain ⟨choice, member, rfl⟩ := List.mem_map.mp listed
    split
    · exact ⟨_, rfl⟩
    · rename_i missing
      have none := List.find?_eq_none.mp missing choice member
      exact (none (by simp [isText])).elim

theorem multipleChoice_iff (content : MultipleChoiceContent) (patterned : Patterned content.choices)
    (response : Value) :
    (∃ accepted, respondToMultipleChoice content response = .ok accepted) ↔
      ∃ ids, Selects content.choices response ids ∧
        content.minSelections ≤ ids.length ∧ ids.length ≤ content.maxSelections := by
  unfold respondToMultipleChoice
  constructor
  · rintro ⟨accepted, found⟩
    split at found
    · obtain ⟨ids, bounded, found⟩ := bind_ok found
      split at found
      · cases found
      · rename_i distinct
        split at found
        · cases found
        · rename_i sized
          split at found
          · cases found
          · rename_i choices presented
            push Not at sized
            refine ⟨ids, ⟨?_, not_not.mp distinct, ?_⟩, sized.1, sized.2⟩
            · rw [boundedResponseStrings_listed bounded]
            · exact findChoices_presented.mp (by rw [presented]; rfl)
    · cases found
  · rintro ⟨ids, selects, least, most⟩
    obtain ⟨choices, presented⟩ :=
      Option.isSome_iff_exists.mp (findChoices_presented.mpr selects.presented)
    rw [selects.listed]
    dsimp only
    rw [boundedResponseStrings_identifiers (selects.patterned patterned)]
    simp only [bind, Except.bind]
    rw [if_neg (not_not.mpr selects.distinct), if_neg (by omega), presented]
    exact ⟨_, rfl⟩

theorem freeForm_iff (content : FreeFormContent) (response : Value) :
    (∃ accepted, respondToFreeForm content response = .ok accepted) ↔
      ∃ text, response = .string text ∧ text.length ≤ content.maxLength ∧
        content.minLength ≤ (trim text).length ∧ 0 ∉ text := by
  unfold respondToFreeForm
  constructor
  · rintro ⟨accepted, found⟩
    split at found
    · split at found
      · cases found
      · split at found
        · cases found
        · rename_i text sized plain
          push Not at sized
          exact ⟨text, rfl, sized.1, sized.2, plain⟩
    · cases found
  · rintro ⟨text, rfl, most, least, plain⟩
    dsimp only
    rw [if_neg (by omega), if_neg plain]
    exact ⟨_, rfl⟩

/-! ## Objects of a response -/

theorem fields_iff {value : Value} {name : JsString} {allowed : List JsString}
    {members : Members} :
    strictResponseObject value name allowed = .ok members ↔ Fields allowed value members := by
  constructor
  · intro accepted
    obtain ⟨object, known⟩ := strictObject_members accepted
    exact ⟨object, known⟩
  · rintro ⟨rfl, known⟩
    have clean : (propertyOrder members).find? (fun entry => entry.1 ∉ allowed) = none := by
      rw [List.find?_eq_none]
      intro entry member
      simpa using known entry ((propertyOrder_perm members).mem_iff.mp member)
    simp only [strictResponseObject, strictObjectWith, clean]

theorem isTrue_iff (value : Value) : Activities.isTrue value = true ↔ value = .bool true := by
  cases value with
  | bool own => cases own <;> simp [Activities.isTrue]
  | _ => simp [Activities.isTrue]

/-! ## Drawings -/

theorem coordinate_iff (value : Value) :
    (coordinate? value).isSome = true ↔ IsCoordinate value := by
  cases value with
  | number number =>
      simp only [coordinate?, Option.isSome_filter, Option.any_eq_true, decide_eq_true_eq,
        IsCoordinate]
      constructor
      · rintro ⟨place, found, least, most⟩
        exact ⟨number, place, rfl, found, least, most⟩
      · rintro ⟨own, place, same, found, least, most⟩
        obtain rfl := Value.number.inj same
        exact ⟨place, found, least, most⟩
  | _ => simp [coordinate?, IsCoordinate]

theorem pointTime_iff (value : Value) : isPointTime value = true ↔ IsPointTime value := by
  cases value with
  | number number =>
      simp only [isPointTime, Bool.and_eq_true, Option.any_eq_true, decide_eq_true_eq,
        IsPointTime]
      constructor
      · rintro ⟨safe, time, found, least, most⟩
        exact .inr ⟨number, time, rfl, safe, found, least, most⟩
      · rintro (same | ⟨own, time, same, safe, found, least, most⟩)
        · cases same
        · obtain rfl := Value.number.inj same
          exact ⟨safe, time, found, least, most⟩
  | _ => simp [isPointTime, IsPointTime]

theorem point_iff (value : Value) :
    (∃ point, normalizePoint value = .ok point) ↔ IsPoint value := by
  constructor
  · rintro ⟨point, accepted⟩
    obtain ⟨members, object, accepted⟩ := bind_ok accepted
    split at accepted
    · rename_i x y foundX foundY time
      refine ⟨members, fields_iff.mp object, (coordinate_iff _).mp ?_, (coordinate_iff _).mp ?_,
        (pointTime_iff _).mp time⟩
      · rw [foundX]
        rfl
      · rw [foundY]
        rfl
    · cases accepted
  · rintro ⟨members, fields, first, second, time⟩
    obtain ⟨x, foundX⟩ := Option.isSome_iff_exists.mp ((coordinate_iff _).mpr first)
    obtain ⟨y, foundY⟩ := Option.isSome_iff_exists.mp ((coordinate_iff _).mpr second)
    unfold normalizePoint
    rw [fields_iff.mpr fields]
    simp only [bind, Except.bind, foundX, foundY, (pointTime_iff _).mpr time]
    exact ⟨_, rfl⟩

/-- A list is accepted item by item, in order. -/
theorem eachAccepted_iff {α β : Type} (accept : α → Checked β)
    (acceptAll : List α → Checked (List β)) (none : acceptAll [] = .ok [])
    (next : ∀ item rest, acceptAll (item :: rest) = do
      let head ← accept item
      let tail ← acceptAll rest
      return head :: tail) (items : List α) :
    (∃ results, acceptAll items = .ok results) ↔
      ∀ item ∈ items, ∃ result, accept item = .ok result := by
  induction items with
  | nil => exact ⟨fun _ _ inside => (List.not_mem_nil inside).elim, fun _ => ⟨[], none⟩⟩
  | cons item rest inductionHypothesis =>
      rw [List.forall_mem_cons, ← inductionHypothesis, next]
      constructor
      · rintro ⟨results, accepted⟩
        obtain ⟨head, first, accepted⟩ := bind_ok accepted
        obtain ⟨tail, others, -⟩ := bind_ok accepted
        exact ⟨⟨head, first⟩, tail, others⟩
      · rintro ⟨⟨head, first⟩, tail, others⟩
        rw [first, others]
        exact ⟨_, rfl⟩

theorem points_iff (values : List Value) :
    (∃ points, normalizePoints values = .ok points) ↔ ∀ value ∈ values, IsPoint value := by
  rw [eachAccepted_iff normalizePoint normalizePoints rfl (fun _ _ => rfl)]
  exact forall₂_congr fun value _ => point_iff value

/-- The strokes are checked against what the drawing may still hold. -/
theorem strokeList_iff (drawn : ℕ) (values : List Value) :
    (∃ strokes, normalizeStrokeList drawn values = .ok strokes) ↔
      ∃ strokes : List (List Value), values = strokes.map .array ∧
        (∀ stroke ∈ strokes, IsStroke (.array stroke) stroke) ∧
        (strokes = [] ∨ drawn + (strokes.map List.length).sum ≤ 5000) := by
  induction values generalizing drawn with
  | nil =>
      constructor
      · intro _
        exact ⟨[], rfl, fun stroke inside => (List.not_mem_nil inside).elim, .inl rfl⟩
      · intro _
        exact ⟨[], rfl⟩
  | cons value rest inductionHypothesis =>
      constructor
      · rintro ⟨results, accepted⟩
        cases value with
        | array points =>
            rw [normalizeStrokeList] at accepted
            split at accepted
            · cases accepted
            · rename_i sized
              split at accepted
              · cases accepted
              · rename_i held
                obtain ⟨head, first, accepted⟩ := bind_ok accepted
                obtain ⟨tail, others, -⟩ := bind_ok accepted
                obtain ⟨strokes, rfl, each, total⟩ := (inductionHypothesis _).mp ⟨tail, others⟩
                refine ⟨points :: strokes, rfl, List.forall_mem_cons.mpr ⟨⟨rfl, by omega, by omega,
                  (points_iff points).mp ⟨head, first⟩⟩, each⟩, .inr ?_⟩
                rw [List.map_cons, List.sum_cons]
                rcases total with rfl | total
                · simp only [List.map_nil, List.sum_nil]
                  omega
                · omega
        | _ => cases accepted
      · rintro ⟨strokes, same, each, total⟩
        cases strokes with
        | nil => cases same
        | cons points others =>
            obtain ⟨rfl, rfl⟩ := List.cons.inj same
            rw [List.forall_mem_cons] at each
            obtain ⟨⟨-, least, most, placed⟩, each⟩ := each
            have held : drawn + points.length + (others.map List.length).sum ≤ 5000 := by
              rcases total with none | total
              · cases none
              · rw [List.map_cons, List.sum_cons] at total
                omega
            obtain ⟨head, first⟩ := (points_iff points).mpr placed
            obtain ⟨tail, later⟩ := (inductionHypothesis (drawn + points.length)).mpr
              ⟨others, rfl, each, .inr held⟩
            rw [normalizeStrokeList, if_neg (by omega), if_neg (by omega), first]
            simp only [bind, Except.bind, later]
            exact ⟨_, rfl⟩

theorem drawing_iff (value : Value) :
    (∃ strokes, normalizeStrokes value = .ok strokes) ↔ IsDrawing value := by
  cases value with
  | array values =>
      constructor
      · rintro ⟨results, accepted⟩
        simp only [normalizeStrokes] at accepted
        split at accepted
        · cases accepted
        · rename_i sized
          push Not at sized
          obtain ⟨strokes, rfl, each, total⟩ := (strokeList_iff 0 values).mp ⟨results, accepted⟩
          have some := List.length_pos_of_ne_nil sized.1
          rw [List.length_map] at some sized
          refine ⟨strokes, rfl, some, sized.2, each, ?_⟩
          rcases total with rfl | total
          · simp
          · omega
      · rintro ⟨strokes, same, least, most, each, total⟩
        obtain rfl := Value.array.inj same
        obtain ⟨results, accepted⟩ := (strokeList_iff 0 _).mpr
          ⟨strokes, rfl, each, .inr (by omega)⟩
        refine ⟨results, ?_⟩
        simp only [normalizeStrokes]
        rw [if_neg, accepted]
        rw [List.length_map, List.map_eq_nil_iff]
        rintro (rfl | long)
        · cases least
        · omega
  | _ =>
      exact iff_of_false (fun ⟨_, accepted⟩ => by cases accepted)
        (fun ⟨_, same, _⟩ => by cases same)

/-! ## Signatures -/

theorem signatureMethod_iff (value : Value) (method : SignatureMethod) :
    signatureMethod? value = some method ↔ value = .string method.name := by
  cases value with
  | string text =>
      rw [Value.string.injEq]
      unfold signatureMethod?
      dsimp only
      constructor
      · intro found
        have named := List.find?_some found
        exact (of_decide_eq_true named).symm
      · rintro rfl
        cases method <;> decide
  | _ => simp [signatureMethod?]

theorem signerName_iff (value : Value) :
    (∃ name, boundedResponseString value 160 2 = .ok name) ↔
      ∃ name, value = .string name ∧ name.length ≤ 160 ∧ 2 ≤ (trim name).length := by
  cases value with
  | string text =>
      unfold boundedResponseString
      dsimp only
      constructor
      · rintro ⟨name, accepted⟩
        split at accepted
        · cases accepted
        · exact ⟨text, rfl, by omega, by omega⟩
      · rintro ⟨name, same, most, least⟩
        obtain rfl := Value.string.inj same
        rw [if_neg (by omega)]
        exact ⟨_, rfl⟩
  | _ => simp [boundedResponseString]

theorem signature_iff (content : SignatureContent) (response : Value) :
    (∃ accepted, respondToSignature content response = .ok accepted) ↔
      Signs content response := by
  constructor
  · rintro ⟨accepted, found⟩
    obtain ⟨members, object, found⟩ := bind_ok found
    split at found
    · rename_i consent
      refine ⟨members, fields_iff.mp object, (isTrue_iff _).mp consent, ?_⟩
      split at found
      · cases found
      · rename_i chosen
        obtain ⟨chosen, listed⟩ := Option.filter_eq_some_iff.mp chosen
        obtain ⟨name, bounded, -⟩ := bind_ok found
        exact ⟨.typed, by simpa using listed, (signatureMethod_iff _ _).mp chosen,
          (signerName_iff _).mp ⟨name, bounded⟩⟩
      · rename_i chosen
        obtain ⟨chosen, listed⟩ := Option.filter_eq_some_iff.mp chosen
        obtain ⟨strokes, drawn, -⟩ := bind_ok found
        exact ⟨.drawn, by simpa using listed, (signatureMethod_iff _ _).mp chosen,
          (drawing_iff _).mp ⟨strokes, drawn⟩⟩
    · cases found
  · rintro ⟨members, fields, consent, method, listed, chosen, own⟩
    have selected : (signatureMethod? (Value.member members (js "method"))).filter
        (· ∈ content.methods) = some method := by
      rw [(signatureMethod_iff _ _).mpr chosen, Option.filter_some, if_pos (by simpa using listed)]
    unfold respondToSignature
    rw [fields_iff.mpr fields]
    simp only [bind, Except.bind]
    rw [if_pos ((isTrue_iff _).mpr consent), selected]
    cases method with
    | typed =>
        obtain ⟨name, bounded⟩ := (signerName_iff _).mpr own
        simp only [bounded]
        exact ⟨_, rfl⟩
    | drawn =>
        obtain ⟨strokes, drawn⟩ := (drawing_iff _).mpr own
        simp only [drawn]
        exact ⟨_, rfl⟩

/-! ## Questionnaires -/

theorem boundedResponseString_text {value : Value} {maximum minimum : ℕ} {text : JsString}
    (accepted : boundedResponseString value maximum minimum = .ok text) :
    value = .string text := by
  cases value with
  | string own =>
      unfold boundedResponseString at accepted
      dsimp only at accepted
      split at accepted
      · cases accepted
      · exact congrArg Value.string (Except.ok.inj accepted)
  | _ => cases accepted

theorem scoreSingleChoice_iff (question : Question) (patterned : Patterned question.choices)
    (answer : Value) : (∃ scored, scoreSingleChoice question answer = .ok scored) ↔
      OneOf answer (question.choices.map Choice.id) := by
  constructor
  · rintro ⟨scored, found⟩
    obtain ⟨text, bounded, found⟩ := bind_ok found
    split at found
    · rename_i listed
      exact ⟨text, listed, boundedResponseString_text bounded⟩
    · cases found
  · rintro ⟨id, listed, rfl⟩
    obtain ⟨choice, member, rfl⟩ := List.mem_map.mp listed
    unfold scoreSingleChoice
    rw [boundedResponseString_identifier (patterned choice member)]
    simp only [bind, Except.bind, if_pos listed]
    exact ⟨_, rfl⟩

theorem scoreMultipleChoice_iff (question : Question) (patterned : Patterned question.choices)
    (answer : Value) : (∃ scored, scoreMultipleChoice question answer = .ok scored) ↔
      ∃ ids, Selects question.choices answer ids := by
  constructor
  · rintro ⟨scored, found⟩
    unfold scoreMultipleChoice at found
    split at found
    · obtain ⟨ids, bounded, found⟩ := bind_ok found
      split at found
      · rename_i fitting
        exact ⟨ids, by rw [boundedResponseStrings_listed bounded], fitting.1, fitting.2⟩
      · cases found
    · cases found
  · rintro ⟨ids, selects⟩
    rw [selects.listed]
    simp only [scoreMultipleChoice, bind, Except.bind,
      boundedResponseStrings_identifiers (selects.patterned patterned)]
    rw [if_pos ⟨selects.distinct, selects.presented⟩]
    exact ⟨_, rfl⟩

/-- The lookup of an answer finds an inherited member. -/
def Inherits (answers : Members) (question : Question) : Prop :=
  question.id = js "constructor" ∧ question.id ∉ answers.map Prod.fst

theorem Inherits.missing {answers : Members} {question : Question}
    (inherits : Inherits answers question) : Value.member answers question.id = .undefined := by
  cases found : answers.lookup question.id with
  | none => rw [Value.member, found, Option.getD_none]
  | some answer => exact (inherits.2 (List.mem_map_of_mem (mem_of_lookup found))).elim

theorem scoreQuestion_iff (answers : Members) (question : Question)
    (patterned : Patterned question.choices) :
    (∃ scored, scoreQuestion answers question = .ok scored) ↔
      ((Value.member answers question.id ≠ .undefined →
        AnswersQuestion question (Value.member answers question.id)) ∧
      (question.required = true → Value.member answers question.id ≠ .undefined)) ∧
        ¬Inherits answers question := by
  by_cases inherited : Inherits answers question
  · refine iff_of_false ?_ fun conforming => conforming.2 inherited
    rintro ⟨scored, found⟩
    have inside : answerTo answers question = none := if_pos inherited
    rw [scoreQuestion, inside] at found
    dsimp only at found
    split at found <;> cases found
  · have own : answerTo answers question = some (Value.member answers question.id) :=
      if_neg inherited
    rw [and_iff_left inherited]
    by_cases missing : Value.member answers question.id = .undefined
    · simp only [scoreQuestion, own, missing, ne_eq, not_true_eq_false, false_imp_iff, true_and,
        imp_false]
      split
      · rename_i required
        exact iff_of_false nofun (fun optional => optional required)
      · rename_i optional
        exact iff_of_true ⟨_, rfl⟩ optional
    · have given : scoreQuestion answers question =
          if question.multiple then scoreMultipleChoice question (Value.member answers question.id)
          else scoreSingleChoice question (Value.member answers question.id) := by
        unfold scoreQuestion
        rw [own]
        split
        · rename_i nothing
          exact (missing (Option.some.inj nothing)).elim
        · rename_i found
          rw [Option.some.inj found]
        · rename_i nothing
          cases nothing
      rw [given, and_iff_left fun _ => missing, AnswersQuestion]
      simp only [ne_eq, missing, not_false_eq_true, true_imp_iff]
      split
      · exact scoreMultipleChoice_iff question patterned _
      · exact scoreSingleChoice_iff question patterned _

theorem questionnaire_iff (content : QuestionnaireContent)
    (patterned : ∀ question ∈ content.questions, Patterned question.choices) (response : Value) :
    (∃ accepted, respondToQuestionnaire content response = .ok accepted) ↔
      ∃ answers, Fields (content.questions.map Question.id) response answers ∧
        ∀ question ∈ content.questions,
          ((Value.member answers question.id ≠ .undefined →
            AnswersQuestion question (Value.member answers question.id)) ∧
          (question.required = true → Value.member answers question.id ≠ .undefined)) ∧
            ¬Inherits answers question := by
  have each (answers : Members) :
      (∃ scored, scoreQuestions answers content.questions = .ok scored) ↔
      ∀ question ∈ content.questions, ∃ scored, scoreQuestion answers question = .ok scored :=
    eachAccepted_iff (scoreQuestion answers) (scoreQuestions answers) rfl
      (fun _ _ => rfl) content.questions
  constructor
  · rintro ⟨accepted, found⟩
    obtain ⟨answers, object, found⟩ := bind_ok found
    obtain ⟨scored, found, -⟩ := bind_ok found
    refine ⟨answers, fields_iff.mp object, fun question asked => ?_⟩
    exact (scoreQuestion_iff answers question (patterned question asked)).mp
      ((each answers).mp ⟨scored, found⟩ question asked)
  · rintro ⟨answers, fields, conforming⟩
    obtain ⟨scored, found⟩ := (each answers).mpr fun question asked =>
      (scoreQuestion_iff answers question (patterned question asked)).mpr
        (conforming question asked)
    unfold respondToQuestionnaire
    rw [fields_iff.mpr fields]
    simp only [bind, Except.bind, found]
    exact ⟨_, rfl⟩

/-! ## External media -/

theorem media_iff (content : Media.ExternalMediaContent) (response : Value) :
    (∃ accepted, respondToMedia content response = .ok accepted) ↔ Completes content response := by
  have apart : js "playback" ≠ js "acknowledgement" := by decide
  constructor
  · rintro ⟨accepted, found⟩
    obtain ⟨members, object, found⟩ := bind_ok found
    obtain ⟨method, chosen, found⟩ := bind_ok found
    obtain ⟨chosen, listed⟩ := oneOf_ok_iff.mp chosen
    dsimp only at found
    split at found
    · cases found
    · rename_i playback
      split at found
      · cases found
      · rename_i required
        split at found
        · cases found
        · rename_i acknowledged
          refine ⟨members, fields_iff.mp object, ?_⟩
          rcases List.mem_pair.mp listed with rfl | rfl
          · exact .inl ⟨chosen, fun mode => playback ⟨rfl, mode⟩⟩
          · refine .inr ⟨chosen, fun mode => required ⟨rfl, mode⟩, ?_⟩
            exact (isTrue_iff _).mp (not_not.mp fun other => acknowledged ⟨rfl, other⟩)
  · rintro ⟨members, fields, ⟨chosen, mode⟩ | ⟨chosen, mode, acknowledged⟩⟩
    · have method : oneOf (Value.member members (js "method"))
          [js "playback", js "acknowledgement"] (js "media completion method") =
            .ok (js "playback") := oneOf_ok_iff.mpr ⟨chosen, List.mem_cons_self⟩
      unfold respondToMedia
      rw [fields_iff.mpr fields]
      simp only [bind, Except.bind, method]
      rw [if_neg fun both => mode both.2, if_neg fun both => apart both.1,
        if_neg fun both => apart both.1]
      exact ⟨_, rfl⟩
    · have method : oneOf (Value.member members (js "method"))
          [js "playback", js "acknowledgement"] (js "media completion method") =
            .ok (js "acknowledgement") :=
        oneOf_ok_iff.mpr ⟨chosen, List.mem_cons_of_mem _ List.mem_cons_self⟩
      unfold respondToMedia
      rw [fields_iff.mpr fields]
      simp only [bind, Except.bind, method]
      rw [if_neg fun both => apart.symm both.1, if_neg fun both => mode both.2,
        if_neg fun both => both.2 ((isTrue_iff _).mpr acknowledged)]
      exact ⟨_, rfl⟩

/-! ## Definitions -/

theorem normalizeChoice_patterned {number : ℕ} {value : Value} {choice : Choice}
    (accepted : normalizeChoice number value = .ok choice) : isIdentifier choice.id = true := by
  obtain ⟨input, -, accepted⟩ := bind_ok accepted
  obtain ⟨description, -, accepted⟩ := bind_ok accepted
  obtain ⟨id, patterned, accepted⟩ := bind_ok accepted
  obtain ⟨label, -, accepted⟩ := bind_ok accepted
  obtain rfl := Except.ok.inj accepted
  exact identifierWith_pattern patterned

/-- The list has between two and fifty items, and the identifiers of its choices differ. -/
theorem normalizeChoices_parts {value : Value} {name : JsString} {choices : List Choice}
    (accepted : normalizeChoices value name = .ok choices) :
    ∃ items, ¬(items.length < 2 ∨ items.length > 50) ∧
      normalizeEach normalizeChoice 1 items = .ok choices ∧ (choices.map Choice.id).Nodup := by
  unfold normalizeChoices at accepted
  split at accepted
  · split at accepted
    · cases accepted
    · rename_i items sized
      obtain ⟨normalized, each, accepted⟩ := bind_ok accepted
      split at accepted
      · rename_i distinct
        obtain rfl := Except.ok.inj accepted
        exact ⟨items, sized, each, distinct⟩
      · cases accepted
  · cases accepted

theorem normalizeChoices_patterned {value : Value} {name : JsString} {choices : List Choice}
    (accepted : normalizeChoices value name = .ok choices) : Patterned choices := by
  obtain ⟨items, -, each, -⟩ := normalizeChoices_parts accepted
  exact (normalizeEach_settled (fun _ _ _ one => normalizeChoice_patterned one) each).2

theorem normalizeMultipleChoice_patterned {value : Value} {content : MultipleChoiceContent}
    (accepted : normalizeMultipleChoice value = .ok content) : Patterned content.choices := by
  obtain ⟨input, -, accepted⟩ := bind_ok accepted
  obtain ⟨choices, patterned, accepted⟩ := bind_ok accepted
  obtain ⟨least, -, accepted⟩ := bind_ok accepted
  obtain ⟨most, -, accepted⟩ := bind_ok accepted
  obtain ⟨prompt, -, accepted⟩ := bind_ok accepted
  obtain rfl := Except.ok.inj accepted
  exact normalizeChoices_patterned patterned

theorem normalizeQuestion_patterned {number : ℕ} {value : Value} {question : Question}
    (accepted : normalizeQuestion number value = .ok question) : Patterned question.choices := by
  obtain ⟨⟨_, _, patterned⟩, -⟩ := normalizeQuestion_parts accepted
  exact normalizeChoices_patterned patterned

theorem normalizeQuestionnaire_patterned {value : Value} {content : QuestionnaireContent}
    (accepted : normalizeQuestionnaire value = .ok content) :
    ∀ question ∈ content.questions, Patterned question.choices :=
  normalizeQuestionnaire_each accepted fun _ _ _ one => normalizeQuestion_patterned one

/-- The choices that an activity presents, one list for each question. -/
def presentedChoices : Content → List (List Choice)
  | .multipleChoice content => [content.choices]
  | .questionnaire content => content.questions.map Question.choices
  | _ => []

theorem normalizeContent_patterned {platform : Media.Platform} {type : ActivityType}
    {mode : JsString} {value : Value} {content : Content}
    (accepted : normalizeContent platform type mode value = .ok content) :
    ∀ choices ∈ presentedChoices content, Patterned choices := by
  cases type with
  | multipleChoice =>
      obtain ⟨own, found, rfl⟩ := checkedMap_ok accepted
      intro choices listed
      rw [List.mem_singleton.mp listed]
      exact normalizeMultipleChoice_patterned found
  | questionnaire =>
      obtain ⟨own, found, rfl⟩ := checkedMap_ok accepted
      intro choices listed
      obtain ⟨question, asked, rfl⟩ := List.mem_map.mp listed
      exact normalizeQuestionnaire_patterned found question asked
  | _ =>
      obtain ⟨own, found, rfl⟩ := checkedMap_ok accepted
      intro choices listed
      cases listed

theorem normalizeActivityDefinition_patterned {platform : Media.Platform} {number : ℕ}
    {value : Value} {activity : Activity}
    (accepted : normalizeActivityDefinition platform number value = .ok activity) :
    ∀ choices ∈ presentedChoices activity.content, Patterned choices := by
  obtain ⟨type, mode, definition, own⟩ := normalizeActivityDefinition_content accepted
  exact normalizeContent_patterned own

/-- An activity whose definition has been accepted. -/
structure DefinedActivity (platform : Media.Platform) where
  number : ℕ
  definition : Value
  activity : Activity
  normalized : normalizeActivityDefinition platform number definition = .ok activity

/-! ## Accepted and conforming -/

theorem inherits_iff {content : QuestionnaireContent} {response : Value} {answers : Members}
    {activity : Activity} (kind : activity.content = .questionnaire content)
    (fields : Fields (content.questions.map Question.id) response answers)
    (each : ∀ question ∈ content.questions,
      question.required = true → Value.member answers question.id ≠ .undefined) :
    (∃ question ∈ content.questions, Inherits answers question) ↔
      OmitsConstructor activity response := by
  constructor
  · rintro ⟨question, asked, inherits⟩
    refine ⟨content, answers, kind, fields.object, ?_, question, asked, inherits.1, ?_⟩
    · rw [← inherits.1]
      exact inherits.2
    · rw [← Bool.not_eq_true]
      exact fun required => each question asked required inherits.missing
  · rintro ⟨own, members, same, object, absent, question, asked, named, -⟩
    obtain rfl := Content.questionnaire.inj (kind.symm.trans same)
    obtain rfl := Value.object.inj (fields.object.symm.trans object)
    refine ⟨question, asked, named, ?_⟩
    rw [named]
    exact absent

/-- Accepted is what conforms, with the exception of the inherited member. -/
theorem accepts_iff (activity : Activity)
    (patterned : ∀ choices ∈ presentedChoices activity.content, Patterned choices)
    (response : Value) :
    Accepts activity response ↔
      Conforms activity response ∧ ¬OmitsConstructor activity response := by
  have plain (other : ∀ content, activity.content ≠ .questionnaire content) :
      ¬OmitsConstructor activity response := by
    rintro ⟨content, -, kind, -⟩
    exact other content kind
  unfold Accepts Conforms validateActivityResponse
  cases kind : activity.content with
  | termsResponse mode content =>
      rw [and_iff_left (plain (by simp [kind]))]
      cases mode with
      | acknowledgement => exact oneOf_accepted_iff _ _ _ _
      | yesNo => exact oneOf_accepted_iff _ _ _ _
  | approval content =>
      rw [and_iff_left (plain (by simp [kind]))]
      exact oneOf_accepted_iff _ _ _ _
  | documentReview content =>
      rw [and_iff_left (plain (by simp [kind]))]
      exact oneOf_accepted_iff _ _ _ _
  | singleChoice content =>
      rw [and_iff_left (plain (by simp [kind]))]
      exact singleChoice_iff content response
  | multipleChoice content =>
      rw [and_iff_left (plain (by simp [kind]))]
      exact multipleChoice_iff content (patterned _ (by simp [kind, presentedChoices])) response
  | freeForm content =>
      rw [and_iff_left (plain (by simp [kind]))]
      exact freeForm_iff content response
  | electronicSignature content =>
      rw [and_iff_left (plain (by simp [kind]))]
      exact signature_iff content response
  | externalMedia content =>
      rw [and_iff_left (plain (by simp [kind]))]
      exact media_iff content response
  | questionnaire content =>
      rw [kind] at patterned
      dsimp only
      rw [questionnaire_iff content fun question asked =>
        patterned _ (List.mem_map_of_mem asked)]
      constructor
      · rintro ⟨answers, fields, conforming⟩
        refine ⟨⟨answers, fields, fun question asked => (conforming question asked).1⟩, ?_⟩
        rw [← inherits_iff kind fields fun question asked => (conforming question asked).1.2]
        rintro ⟨question, asked, inherits⟩
        exact (conforming question asked).2 inherits
      · rintro ⟨⟨answers, fields, conforming⟩, given⟩
        rw [← inherits_iff kind fields fun question asked => (conforming question asked).2] at given
        exact ⟨answers, fields, fun question asked =>
          ⟨conforming question asked, fun inherits => given ⟨question, asked, inherits⟩⟩⟩

/-- An accepted response takes one of the branches that the definition may name. -/
theorem outcome_branches {activity : Activity} {response : Value} {accepted : ActivityResponse}
    (found : validateActivityResponse activity response = .ok accepted)
    (branching : branchValuesForActivity activity ≠ []) :
    accepted.outcome ∈ branchValuesForActivity activity := by
  unfold validateActivityResponse at found
  unfold branchValuesForActivity at branching ⊢
  cases kind : activity.content with
  | termsResponse mode content =>
      rw [kind] at found
      obtain ⟨text, chosen, found⟩ := bind_ok found
      obtain rfl := Except.ok.inj found
      cases mode with
      | acknowledgement => exact (oneOf_ok_iff.mp chosen).2
      | yesNo => exact (oneOf_ok_iff.mp chosen).2
  | approval content =>
      rw [kind] at found
      obtain ⟨text, chosen, found⟩ := bind_ok found
      obtain rfl := Except.ok.inj found
      exact (oneOf_ok_iff.mp chosen).2
  | singleChoice content =>
      rw [kind] at found
      dsimp only at found
      unfold respondToSingleChoice at found
      split at found
      · rename_i choice same
        obtain rfl := Except.ok.inj found
        exact List.mem_map_of_mem (List.mem_of_find?_eq_some same)
      · cases found
  | multipleChoice content => simp [kind] at branching
  | freeForm content => simp [kind] at branching
  | electronicSignature content =>
      rw [kind] at found
      obtain ⟨members, -, found⟩ := bind_ok found
      split at found
      · split at found
        · cases found
        · obtain ⟨name, -, found⟩ := bind_ok found
          obtain rfl := Except.ok.inj found
          exact List.mem_singleton_self _
        · obtain ⟨strokes, -, found⟩ := bind_ok found
          obtain rfl := Except.ok.inj found
          exact List.mem_singleton_self _
      · cases found
  | documentReview content =>
      rw [kind] at found
      obtain ⟨text, -, found⟩ := bind_ok found
      obtain rfl := Except.ok.inj found
      exact List.mem_singleton_self _
  | questionnaire content =>
      rw [kind] at found
      obtain ⟨answers, -, found⟩ := bind_ok found
      obtain ⟨scored, -, found⟩ := bind_ok found
      obtain rfl := Except.ok.inj found
      dsimp only
      split
      · exact List.mem_cons_self
      · exact List.mem_cons_of_mem _ List.mem_cons_self
  | externalMedia content =>
      rw [kind] at found
      obtain ⟨members, -, found⟩ := bind_ok found
      obtain ⟨method, -, found⟩ := bind_ok found
      dsimp only at found
      split at found
      · cases found
      · split at found
        · cases found
        · split at found
          · cases found
          · obtain rfl := Except.ok.inj found
            exact List.mem_singleton_self _

/-- Every definition that has been accepted accepts exactly the responses that conform to
it, with an outcome among its branches, unless a conforming response leaves out an optional
question named constructor. -/
theorem response_accepted_iff {platform : Media.Platform} (defined : DefinedActivity platform)
    (response : Value) :
    ((Accepts defined.activity response ↔ Conforms defined.activity response) ∧
      (branchValuesForActivity defined.activity ≠ [] → ∀ accepted,
        validateActivityResponse defined.activity response = .ok accepted →
          accepted.outcome ∈ branchValuesForActivity defined.activity)) ↔
      ¬(Conforms defined.activity response ∧ OmitsConstructor defined.activity response) := by
  have patterned := normalizeActivityDefinition_patterned defined.normalized
  rw [accepts_iff defined.activity patterned response]
  constructor
  · rintro ⟨same, -⟩ ⟨conforms, omits⟩
    exact (same.mpr conforms).2 omits
  · intro given
    refine ⟨⟨fun both => both.1, fun conforms => ⟨conforms, fun omits => given ⟨conforms, omits⟩⟩⟩,
      fun branching accepted found => outcome_branches found branching⟩

/-! ### An optional answer that can not be left out -/

/-- A survey with one optional question, which the tenant named constructor. -/
def constructorSurvey : QuestionnaireContent where
  instructions := none
  passingPercent := 0
  questions := [{
    choices := [⟨none, js "y", js "Yes"⟩, ⟨none, js "n", js "No"⟩]
    correctChoiceIds := [js "y"], id := js "constructor", points := 1
    prompt := js "Who built it?", required := false, multiple := false }]
  resultDisclosure := js "pass_fail"

def constructorActivity : Activity where
  content := .questionnaire constructorSurvey
  id := js "survey"
  instructions := none
  title := js "Survey"
  transition := ⟨[], none⟩

/-- The response without answers conforms, and is refused. -/
theorem constructorSurvey_refused : ∃ activity response,
    (∀ platform : Media.Platform, ∃ defined : DefinedActivity platform,
      defined.activity = activity) ∧
      Conforms activity response ∧ ¬Accepts activity response := by
  refine ⟨constructorActivity, .object [], fun platform => ⟨{
    number := 1, definition := constructorActivity.toValue, activity := constructorActivity
    normalized := rfl }, rfl⟩, ⟨[], ⟨rfl, by simp⟩, ?_⟩, ?_⟩
  · intro question asked
    obtain rfl := List.mem_singleton.mp asked
    exact ⟨fun given => (given rfl).elim, fun required => by cases required⟩
  · rintro ⟨accepted, found⟩
    cases found

end Vasi.Conformance
