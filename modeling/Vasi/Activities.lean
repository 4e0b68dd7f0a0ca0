import Vasi.Media

/-!
# Activity contracts

The nine activity types of a workflow: what an author may define, which branch
values a type has, and which responses it accepts. A definition that passed
`normalizeActivityDefinition` is a value of `Activity`, whose content fixes its
type, so a definition with content of another type cannot be written down.

A response is accepted with its display text, outcome, result and normalized
value. Percentages and drawing coordinates are computed in double arithmetic,
with the rounding of `Binary64`. Freezing and the participant projection are
not modelled.
-/
namespace Vasi.Activities

open JsValue Validation

inductive ActivityType where
  | termsResponse
  | approval
  | singleChoice
  | multipleChoice
  | freeForm
  | electronicSignature
  | documentReview
  | questionnaire
  | externalMedia
deriving DecidableEq

/-- The name of a type in a workflow document. -/
def ActivityType.name : ActivityType → JsString
  | termsResponse => js "terms_response"
  | approval => js "approval"
  | singleChoice => js "single_choice"
  | multipleChoice => js "multiple_choice"
  | freeForm => js "free_form"
  | electronicSignature => js "electronic_signature"
  | documentReview => js "document_review"
  | questionnaire => js "questionnaire"
  | externalMedia => js "external_media"

def ACTIVITY_TYPES : List ActivityType :=
  [.termsResponse, .approval, .singleChoice, .multipleChoice, .freeForm, .electronicSignature,
    .documentReview, .questionnaire, .externalMedia]

inductive TermsMode where
  | acknowledgement
  | yesNo
deriving DecidableEq

structure TermsContent where
  acknowledgementLabel : JsString
  noLabel : JsString
  prompt : JsString
  terms : JsString
  yesLabel : JsString

structure ApprovalContent where
  approved : JsString
  declined : JsString
  disapproved : JsString
  prompt : JsString
  statement : JsString

structure Choice where
  description : Option JsString
  id : JsString
  label : JsString

structure SingleChoiceContent where
  choices : List Choice
  prompt : JsString

structure MultipleChoiceContent where
  choices : List Choice
  maxSelections : ℕ
  minSelections : ℕ
  prompt : JsString

structure FreeFormContent where
  maxLength : ℕ
  minLength : ℕ
  multiline : Bool
  prompt : JsString

inductive SignatureMethod where
  | typed
  | drawn
deriving DecidableEq

def SignatureMethod.name : SignatureMethod → JsString
  | typed => js "typed"
  | drawn => js "drawn"

structure SignatureContent where
  consentText : JsString
  drawnSignatureLabel : JsString
  methods : List SignatureMethod
  prompt : JsString
  statement : JsString
  typedNameLabel : JsString

structure DocumentContent where
  artifactId : JsString
  displayName : JsString
  prompt : JsString
  responseLabel : JsString

structure Question where
  choices : List Choice
  correctChoiceIds : List JsString
  id : JsString
  points : ℕ
  prompt : JsString
  required : Bool
  multiple : Bool

structure QuestionnaireContent where
  instructions : Option JsString
  passingPercent : ℕ
  questions : List Question
  resultDisclosure : JsString

/-- The content of an activity together with its type. -/
inductive Content where
  | termsResponse (mode : TermsMode) (content : TermsContent)
  | approval (content : ApprovalContent)
  | singleChoice (content : SingleChoiceContent)
  | multipleChoice (content : MultipleChoiceContent)
  | freeForm (content : FreeFormContent)
  | electronicSignature (content : SignatureContent)
  | documentReview (content : DocumentContent)
  | questionnaire (content : QuestionnaireContent)
  | externalMedia (content : Media.ExternalMediaContent)

def Content.type : Content → ActivityType
  | termsResponse _ _ => .termsResponse
  | approval _ => .approval
  | singleChoice _ => .singleChoice
  | multipleChoice _ => .multipleChoice
  | freeForm _ => .freeForm
  | electronicSignature _ => .electronicSignature
  | documentReview _ => .documentReview
  | questionnaire _ => .questionnaire
  | externalMedia _ => .externalMedia

/-- A branch: its destination (the member `to`), none for the end of the
workflow, and the response outcome that selects it. -/
structure Branch where
  destination : Option JsString
  equals : JsString

/-- The transition of an activity. `defaultTo` is none when it was not given,
and then the following activity is next; some none is the end of the workflow. -/
structure Transition where
  cases : List Branch
  defaultTo : Option (Option JsString)

/-- A normalized activity definition, contract version 1. -/
structure Activity where
  content : Content
  id : JsString
  instructions : Option JsString
  title : JsString
  transition : Transition

def invalidDefinition (message : JsString) : Failure := ⟨js "INVALID_WORKFLOW", message⟩

def invalidResponse (message : JsString) : Failure := ⟨js "INVALID_ACTIVITY_RESPONSE", message⟩

def strictObject := strictObjectWith invalidDefinition

def strictResponseObject := strictObjectWith invalidResponse

def boundedString := boundedStringWith invalidDefinition

def optionalString := optionalStringWith invalidDefinition

def safeInteger := safeIntegerWith invalidDefinition

def identifier := identifierWith invalidDefinition

/-! ## Definitions -/

/-- The string entries of an array, none if an entry is not a string. -/
def stringItems? : List Value → Option (List JsString)
  | [] => some []
  | .string text :: rest => (stringItems? rest).map (text :: ·)
  | _ => none

/-- Normalize the entries of an array in order, numbering them from one. -/
def normalizeEach {α : Type} (normalize : ℕ → Value → Checked α) :
    ℕ → List Value → Checked (List α)
  | _, [] => .ok []
  | number, value :: rest => do
      let head ← normalize number value
      let tail ← normalizeEach normalize (number + 1) rest
      return head :: tail

def normalizeChoice (number : ℕ) (value : Value) : Checked Choice := do
  let input ← strictObject value (js "choice " ++ decimal number)
    [js "description", js "id", js "label"]
  let description ← optionalString (Value.member input (js "description"))
    (js "choice.description") 1000
  let id ← identifier (Value.member input (js "id")) (js "choice.id")
  let label ← boundedString (Value.member input (js "label")) (js "choice.label") 1 500
  return { description, id, label }

def normalizeChoices (value : Value) (name : JsString) : Checked (List Choice) :=
  match value with
  | .array items =>
      if items.length < 2 ∨ items.length > 50 then
        .error (invalidDefinition (name ++ js " requires 2 to 50 choices."))
      else do
        let choices ← normalizeEach normalizeChoice 1 items
        if (choices.map Choice.id).Nodup then return choices
        else .error (invalidDefinition (js "Choice IDs must be unique."))
  | _ => .error (invalidDefinition (name ++ js " requires 2 to 50 choices."))

def normalizeTerms (value : Value) : Checked TermsContent := do
  let input ← strictObject value (js "activity.content")
    [js "acknowledgementLabel", js "noLabel", js "prompt", js "terms", js "yesLabel"]
  let acknowledgementLabel ← optionalString (Value.member input (js "acknowledgementLabel"))
    (js "acknowledgementLabel") 160
  let noLabel ← optionalString (Value.member input (js "noLabel")) (js "noLabel") 160
  let prompt ← boundedString (Value.member input (js "prompt")) (js "activity.content.prompt")
    2 1000
  let terms ← boundedString (Value.member input (js "terms")) (js "activity.content.terms")
    2 50000
  let yesLabel ← optionalString (Value.member input (js "yesLabel")) (js "yesLabel") 160
  return {
    acknowledgementLabel := acknowledgementLabel.getD (js "I acknowledge these terms.")
    noLabel := noLabel.getD (js "No")
    prompt, terms
    yesLabel := yesLabel.getD (js "Yes") }

def normalizeApproval (value : Value) : Checked ApprovalContent := do
  let input ← strictObject value (js "activity.content")
    [js "labels", js "prompt", js "statement"]
  let labels ← optionalObjectWith invalidDefinition (Value.member input (js "labels"))
    (js "approval labels") [js "approved", js "declined", js "disapproved"]
  let approved ← optionalString (Value.member labels (js "approved")) (js "labels.approved") 160
  let declined ← optionalString (Value.member labels (js "declined")) (js "labels.declined") 160
  let disapproved ← optionalString (Value.member labels (js "disapproved"))
    (js "labels.disapproved") 160
  let prompt ← boundedString (Value.member input (js "prompt")) (js "activity.content.prompt")
    2 1000
  let statement ← boundedString (Value.member input (js "statement"))
    (js "activity.content.statement") 2 50000
  return {
    approved := approved.getD (js "Approve")
    declined := declined.getD (js "Decline to decide")
    disapproved := disapproved.getD (js "Disapprove")
    prompt, statement }

def normalizeSingleChoice (value : Value) : Checked SingleChoiceContent := do
  let input ← strictObject value (js "activity.content") [js "choices", js "prompt"]
  let choices ← normalizeChoices (Value.member input (js "choices")) (js "activity")
  let prompt ← boundedString (Value.member input (js "prompt")) (js "activity.content.prompt")
    2 2000
  return { choices, prompt }

def normalizeMultipleChoice (value : Value) : Checked MultipleChoiceContent := do
  let input ← strictObject value (js "activity.content")
    [js "choices", js "maxSelections", js "minSelections", js "prompt"]
  let choices ← normalizeChoices (Value.member input (js "choices")) (js "activity")
  let minSelections ← safeInteger
    (orDefault (Value.member input (js "minSelections")) (.number (.finite 1)))
    (js "minSelections") 0 choices.length
  let maxSelections ← safeInteger
    (orDefault (Value.member input (js "maxSelections")) (.number (.finite choices.length)))
    (js "maxSelections") (max 1 minSelections) choices.length
  let prompt ← boundedString (Value.member input (js "prompt")) (js "activity.content.prompt")
    2 2000
  return { choices, maxSelections, minSelections, prompt }

/-- Whether a value is not the boolean false, the test of optional flags. -/
def isNotFalse : Value → Bool
  | .bool false => false
  | _ => true

def normalizeFreeForm (value : Value) : Checked FreeFormContent := do
  let input ← strictObject value (js "activity.content")
    [js "maxLength", js "minLength", js "multiline", js "prompt"]
  let minLength ← safeInteger
    (orDefault (Value.member input (js "minLength")) (.number (.finite 1)))
    (js "minLength") 0 10000
  let maxLength ← safeInteger
    (orDefault (Value.member input (js "maxLength")) (.number (.finite 2000)))
    (js "maxLength") (max 1 minLength) 10000
  let prompt ← boundedString (Value.member input (js "prompt")) (js "activity.content.prompt")
    2 2000
  return { maxLength, minLength, multiline := isNotFalse (Value.member input (js "multiline")), prompt }

def signatureMethod? : Value → Option SignatureMethod
  | .string text => [SignatureMethod.typed, .drawn].find? fun method => method.name = text
  | _ => none

def signatureMethods? : List Value → Option (List SignatureMethod)
  | [] => some []
  | value :: rest => do
      let method ← signatureMethod? value
      let methods ← signatureMethods? rest
      return method :: methods

def normalizeSignatureMethods (value : Value) : Checked (List SignatureMethod) :=
  let failure := Except.error
    (invalidDefinition (js "Signature methods must contain typed, drawn, or both."))
  if value.isPresent then
    match value with
    | .array items =>
        match signatureMethods? items with
        | some methods =>
            if methods ≠ [] ∧ methods.length ≤ 2 ∧ methods.Nodup then .ok methods else failure
        | none => failure
    | _ => failure
  else .ok [.typed, .drawn]

def normalizeSignature (value : Value) : Checked SignatureContent := do
  let input ← strictObject value (js "activity.content")
    [js "consentText", js "drawnSignatureLabel", js "methods", js "prompt", js "statement",
     js "typedNameLabel"]
  let methods ← normalizeSignatureMethods (Value.member input (js "methods"))
  let consentText ← boundedString (Value.member input (js "consentText"))
    (js "activity.content.consentText") 10 4000
  let drawnSignatureLabel ← optionalString (Value.member input (js "drawnSignatureLabel"))
    (js "drawnSignatureLabel") 160
  let prompt ← boundedString (Value.member input (js "prompt")) (js "activity.content.prompt")
    2 1000
  let statement ← boundedString (Value.member input (js "statement"))
    (js "activity.content.statement") 2 50000
  let typedNameLabel ← optionalString (Value.member input (js "typedNameLabel"))
    (js "typedNameLabel") 160
  return {
    consentText
    drawnSignatureLabel := drawnSignatureLabel.getD (js "Draw your signature")
    methods, prompt, statement
    typedNameLabel := typedNameLabel.getD (js "Type your full legal name") }

def normalizeDocument (value : Value) : Checked DocumentContent := do
  let input ← strictObject value (js "activity.content")
    [js "artifact", js "artifactId", js "displayName", js "prompt", js "responseLabel"]
  let artifactId ← boundedString (Value.member input (js "artifactId"))
    (js "activity.content.artifactId") 1 128
  let displayName ← boundedString (Value.member input (js "displayName"))
    (js "activity.content.displayName") 1 255
  let prompt ← boundedString (Value.member input (js "prompt")) (js "activity.content.prompt")
    2 1000
  let responseLabel ← optionalString (Value.member input (js "responseLabel"))
    (js "responseLabel") 160
  return { artifactId, displayName, prompt
           responseLabel := responseLabel.getD (js "I reviewed this document.") }

/-- The correct choices of a question: distinct, non-empty, presented choices,
and exactly one for a single choice. -/
def normalizeCorrectChoiceIds (value : Value) (choices : List Choice) (multiple : Bool) :
    Checked (List JsString) :=
  let failure := Except.error
    (invalidDefinition (js "Each scored question requires valid correct choice IDs."))
  match value with
  | .array items =>
      match stringItems? items with
      | some ids =>
          if ids ≠ [] ∧ ids.Nodup ∧ (∀ id ∈ ids, id ∈ choices.map Choice.id) ∧
              (multiple = false → ids.length = 1) then .ok ids
          else failure
      | none => failure
  | _ => failure

def normalizeQuestion (number : ℕ) (value : Value) : Checked Question := do
  let input ← strictObject value (js "question " ++ decimal number)
    [js "choices", js "correctChoiceIds", js "id", js "points", js "prompt", js "required",
     js "type"]
  let type ← Media.oneOfStrings
    (orDefault (Value.member input (js "type")) (.string (js "single_choice")))
    [js "single_choice", js "multiple_choice"] (js "The question type is unsupported.")
  let multiple := type == js "multiple_choice"
  let choices ← normalizeChoices (Value.member input (js "choices"))
    (js "question " ++ decimal number)
  let correctChoiceIds ← normalizeCorrectChoiceIds (Value.member input (js "correctChoiceIds"))
    choices multiple
  let id ← identifier (Value.member input (js "id")) (js "question.id")
  let points ← safeInteger
    (orDefault (Value.member input (js "points")) (.number (.finite 1)))
    (js "question.points") 1 1000
  let prompt ← boundedString (Value.member input (js "prompt")) (js "question.prompt") 2 2000
  return { choices, correctChoiceIds, id, points, prompt
           required := isNotFalse (Value.member input (js "required")), multiple }

def normalizeQuestions (value : Value) : Checked (List Question) :=
  let failure := Except.error
    (invalidDefinition (js "A questionnaire requires 1 to 50 questions."))
  match value with
  | .array items =>
      if items = [] ∨ items.length > 50 then failure
      else do
        let questions ← normalizeEach normalizeQuestion 1 items
        if (questions.map Question.id).Nodup then return questions
        else .error (invalidDefinition (js "Question IDs must be unique."))
  | _ => failure

def normalizeQuestionnaire (value : Value) : Checked QuestionnaireContent := do
  let input ← strictObject value (js "activity.content")
    [js "instructions", js "passingPercent", js "questions", js "resultDisclosure"]
  let questions ← normalizeQuestions (Value.member input (js "questions"))
  let resultDisclosure ← Media.oneOfStrings
    (orDefault (Value.member input (js "resultDisclosure")) (.string (js "pass_fail_and_score")))
    [js "pass_fail", js "pass_fail_and_score"]
    (js "The questionnaire result-disclosure policy is unsupported.")
  let instructions ← optionalString (Value.member input (js "instructions"))
    (js "questionnaire.instructions") 4000
  let passingPercent ← safeInteger
    (orDefault (Value.member input (js "passingPercent")) (.number (.finite 70)))
    (js "passingPercent") 0 100
  return { instructions, passingPercent, questions, resultDisclosure }

def responseModeForType (type : ActivityType) (supplied : Value) : Checked JsString :=
  match type with
  | .termsResponse => do
      let mode ← boundedString supplied (js "activity.responseMode") 1 32
      if mode ∈ [js "acknowledgement", js "yes_no"] then return mode
      else .error (invalidDefinition (js "The response mode is unsupported."))
  | _ =>
      match supplied with
      | .undefined => .ok type.name
      | .string text =>
          if text = type.name then .ok type.name
          else .error (invalidDefinition (js "The response mode for " ++ type.name ++
            js " must be " ++ type.name ++ js "."))
      | _ => .error (invalidDefinition (js "The response mode for " ++ type.name ++
            js " must be " ++ type.name ++ js "."))

/-- A destination that must be given: null or an identifier. -/
def normalizeRequiredDestination : Value → Checked (Option JsString)
  | .null => .ok none
  | value => (identifier value (js "transition destination")).map some

/-- A destination that may be left out. -/
def normalizeDestination : Value → Checked (Option (Option JsString))
  | .undefined => .ok none
  | value => (normalizeRequiredDestination value).map some

def normalizeBranch (number : ℕ) (value : Value) : Checked Branch := do
  let input ← strictObject value (js "branch " ++ decimal number) [js "to", js "when"]
  let condition ← strictObject (Value.member input (js "when")) (js "branch.when") [js "equals"]
  let destination ← normalizeRequiredDestination (Value.member input (js "to"))
  let equals ← boundedString (Value.member condition (js "equals")) (js "branch.when.equals") 1 64
  return { destination, equals }

def normalizeContent (platform : Media.Platform) (type : ActivityType) (mode : JsString)
    (value : Value) : Checked Content :=
  match type with
  | .termsResponse => (normalizeTerms value).map
      (.termsResponse (if mode = js "acknowledgement" then .acknowledgement else .yesNo))
  | .approval => (normalizeApproval value).map .approval
  | .singleChoice => (normalizeSingleChoice value).map .singleChoice
  | .multipleChoice => (normalizeMultipleChoice value).map .multipleChoice
  | .freeForm => (normalizeFreeForm value).map .freeForm
  | .electronicSignature => (normalizeSignature value).map .electronicSignature
  | .documentReview => (normalizeDocument value).map .documentReview
  | .questionnaire => (normalizeQuestionnaire value).map .questionnaire
  | .externalMedia => (Media.normalizeExternalMediaContent platform value).map .externalMedia

/-- The branch list of a transition: an array of at most sixteen entries. -/
def transitionCases (value : Value) : Checked (List Value) :=
  match orDefault value (.array []) with
  | .array items =>
      if items.length > 16 then
        .error (invalidDefinition (js "An activity may define at most sixteen branches."))
      else .ok items
  | _ => .error (invalidDefinition (js "An activity may define at most sixteen branches."))

def normalizeActivityDefinition (platform : Media.Platform) (number : ℕ) (value : Value) :
    Checked Activity := do
  let input ← strictObject value (js "activity " ++ decimal number)
    [js "content", js "contractVersion", js "id", js "instructions", js "responseMode",
     js "title", js "transition", js "type"]
  let typeName ← boundedString (Value.member input (js "type")) (js "activity.type") 1 64
  match ACTIVITY_TYPES.find? fun type => type.name = typeName with
  | none => .error (invalidDefinition (js "Unsupported activity type: " ++ typeName ++ js "."))
  | some type =>
      match orDefault (Value.member input (js "contractVersion")) (.number (.finite 1)) with
      | .number (.finite 1) => do
          let mode ← responseModeForType type (Value.member input (js "responseMode"))
          let transitionInput ← optionalObjectWith invalidDefinition
            (Value.member input (js "transition")) (js "activity.transition")
            [js "cases", js "defaultTo"]
          let items ← transitionCases (Value.member transitionInput (js "cases"))
          let content ← normalizeContent platform type mode (Value.member input (js "content"))
          let id ← identifier (Value.member input (js "id")) (js "activity.id")
          let instructions ← optionalString (Value.member input (js "instructions"))
            (js "activity.instructions") 2000
          let title ← boundedString (Value.member input (js "title")) (js "activity.title") 2 160
          let cases ← normalizeEach normalizeBranch 1 items
          let defaultTo ← normalizeDestination (Value.member transitionInput (js "defaultTo"))
          return { content, id, instructions, title, transition := { cases, defaultTo } }
      | _ => .error (invalidDefinition (js "The activity contract version is unsupported."))

/-- The outcomes a branch of an activity may name. -/
def branchValuesForActivity (activity : Activity) : List JsString :=
  match activity.content with
  | .termsResponse .acknowledgement _ => [js "acknowledged"]
  | .termsResponse .yesNo _ => [js "yes", js "no"]
  | .approval _ => [js "approved", js "disapproved", js "declined"]
  | .singleChoice content => content.choices.map Choice.id
  | .electronicSignature _ => [js "signed"]
  | .documentReview _ => [js "reviewed"]
  | .questionnaire _ => [js "passed", js "failed"]
  | .externalMedia _ => [js "completed"]
  | .multipleChoice _ | .freeForm _ => []

/-! ## Definitions as stored documents -/

def wholeNumber (value : ℕ) : Value := .number (.finite value)

/-- An optional string member; an absent one is undefined. -/
def optionalText : Option JsString → Value
  | some text => .string text
  | none => .undefined

def Choice.toValue (choice : Choice) : Value :=
  .object [(js "description", optionalText choice.description), (js "id", .string choice.id),
    (js "label", .string choice.label)]

def choicesValue (choices : List Choice) : Value := .array (choices.map Choice.toValue)

def Question.toValue (question : Question) : Value :=
  .object [(js "choices", choicesValue question.choices),
    (js "correctChoiceIds", .array (question.correctChoiceIds.map .string)),
    (js "id", .string question.id), (js "points", wholeNumber question.points),
    (js "prompt", .string question.prompt), (js "required", .bool question.required),
    (js "type", .string (if question.multiple then js "multiple_choice" else js "single_choice"))]

def completionPolicyValue (policy : Media.CompletionPolicy) : Value :=
  .object [(js "minimumUniqueSeconds", wholeNumber policy.minimumUniqueSeconds),
    (js "mode", .string policy.mode.text),
    (js "thresholdPercent", wholeNumber policy.thresholdPercent)]

def versionValue (version : Media.Version) : Value :=
  .object [(js "cTag", optionalText version.cTag), (js "checksum", optionalText version.checksum),
    (js "eTag", optionalText version.eTag), (js "id", optionalText version.id),
    (js "lastModifiedAt", optionalText version.lastModifiedAt)]

def dimensionsValue : Option Media.Dimensions → Value
  | some dimensions => .object [(js "height", wholeNumber dimensions.height),
      (js "width", wholeNumber dimensions.width)]
  | none => .undefined

def descriptorValue (descriptor : Media.Descriptor) : Value :=
  let provider := descriptor.providerDescriptor
  .object [(js "accessMode", .string descriptor.accessMode),
    (js "adapter", .object [(js "id", .string provider.adapter.id),
      (js "version", .string provider.adapter.version)]),
    (js "allowedOrigins", .array (provider.allowedOrigins.map .string)),
    (js "capability", .string provider.capability),
    (js "description", optionalText descriptor.description),
    (js "dimensions", dimensionsValue descriptor.dimensions),
    (js "durationMilliseconds", match descriptor.durationMilliseconds with
      | some duration => .number (.finite duration)
      | none => .undefined),
    (js "embedUrl", optionalText provider.embedUrl), (js "itemId", .string provider.itemId),
    (js "kind", .string provider.kind),
    (js "limitations", .array (provider.limitations.map .string)),
    (js "metadataProvenance", .string (js "tenant_supplied_unverified")),
    (js "owner", optionalText descriptor.owner), (js "provider", .string descriptor.provider),
    (js "sourceUrl", .string descriptor.sourceUrl), (js "title", .string descriptor.title),
    (js "version", versionValue descriptor.version)]

def Content.toValue : Content → Value
  | .termsResponse _ content => .object [
      (js "acknowledgementLabel", .string content.acknowledgementLabel),
      (js "noLabel", .string content.noLabel), (js "prompt", .string content.prompt),
      (js "terms", .string content.terms), (js "yesLabel", .string content.yesLabel)]
  | .approval content => .object [
      (js "labels", .object [(js "approved", .string content.approved),
        (js "declined", .string content.declined),
        (js "disapproved", .string content.disapproved)]),
      (js "prompt", .string content.prompt), (js "statement", .string content.statement)]
  | .singleChoice content => .object [(js "choices", choicesValue content.choices),
      (js "prompt", .string content.prompt)]
  | .multipleChoice content => .object [(js "choices", choicesValue content.choices),
      (js "maxSelections", wholeNumber content.maxSelections),
      (js "minSelections", wholeNumber content.minSelections),
      (js "prompt", .string content.prompt)]
  | .freeForm content => .object [(js "maxLength", wholeNumber content.maxLength),
      (js "minLength", wholeNumber content.minLength), (js "multiline", .bool content.multiline),
      (js "prompt", .string content.prompt)]
  | .electronicSignature content => .object [(js "consentText", .string content.consentText),
      (js "drawnSignatureLabel", .string content.drawnSignatureLabel),
      (js "methods", .array (content.methods.map fun method => .string method.name)),
      (js "prompt", .string content.prompt), (js "statement", .string content.statement),
      (js "typedNameLabel", .string content.typedNameLabel)]
  | .documentReview content => .object [(js "artifactId", .string content.artifactId),
      (js "displayName", .string content.displayName), (js "prompt", .string content.prompt),
      (js "responseLabel", .string content.responseLabel)]
  | .questionnaire content => .object [(js "instructions", optionalText content.instructions),
      (js "passingPercent", wholeNumber content.passingPercent),
      (js "questions", .array (content.questions.map Question.toValue)),
      (js "resultDisclosure", .string content.resultDisclosure)]
  | .externalMedia content => .object [
      (js "accessibilityAlternative", match content.accessibilityAlternative with
        | some alternative => .object [(js "label", .string alternative.label),
            (js "url", optionalText alternative.url)]
        | none => .undefined),
      (js "acknowledgementLabel", .string content.acknowledgementLabel),
      (js "completionPolicy", completionPolicyValue content.completionPolicy),
      (js "descriptor", descriptorValue content.descriptor),
      (js "prompt", .string content.prompt),
      (js "providerNotice", .string content.providerNotice),
      (js "telemetryPolicy", .object [
        (js "heartbeatSeconds", wholeNumber content.telemetryPolicy.heartbeatSeconds),
        (js "idleSeconds", wholeNumber content.telemetryPolicy.idleSeconds),
        (js "maxCreditedGapSeconds", wholeNumber content.telemetryPolicy.maxCreditedGapSeconds)])]

/-- The response mode of an activity, which is its type except for terms. -/
def Content.responseMode : Content → JsString
  | .termsResponse .acknowledgement _ => js "acknowledgement"
  | .termsResponse .yesNo _ => js "yes_no"
  | content => content.type.name

/-- A destination as stored: an identifier, or null for the end of the workflow. -/
def destinationValue : Option JsString → Value
  | some id => .string id
  | none => .null

def Branch.toValue (branch : Branch) : Value :=
  .object [(js "to", destinationValue branch.destination),
    (js "when", .object [(js "equals", .string branch.equals)])]

def Transition.toValue (transition : Transition) : Value :=
  .object [(js "cases", .array (transition.cases.map Branch.toValue)),
    (js "defaultTo", match transition.defaultTo with
      | some destination => destinationValue destination
      | none => .undefined)]

/-- The stored definition of an activity. -/
def Activity.toValue (activity : Activity) : Value :=
  .object [(js "content", activity.content.toValue), (js "contractVersion", wholeNumber 1),
    (js "id", .string activity.id), (js "instructions", optionalText activity.instructions),
    (js "responseMode", .string activity.content.responseMode),
    (js "title", .string activity.title), (js "transition", activity.transition.toValue),
    (js "type", .string activity.content.type.name)]

/-! ## Responses -/

/-- An accepted response. -/
structure ActivityResponse where
  display : JsString
  outcome : JsString
  result : Value
  value : Value

/-- The response as the object that an event payload embeds. -/
def ActivityResponse.toValue (response : ActivityResponse) : Value :=
  .object [(js "display", .string response.display), (js "outcome", .string response.outcome),
    (js "result", response.result), (js "value", response.value)]

def oneOf (value : Value) (allowed : List JsString) (field : JsString) : Checked JsString :=
  let failure := Except.error (invalidResponse (js "The " ++ field ++ js " is unsupported."))
  match value with
  | .string text => if text ∈ allowed then .ok text else failure
  | _ => failure

def boundedResponseString (value : Value) (maximum minimum : ℕ) : Checked JsString :=
  let failure := Except.error
    (invalidResponse (js "A response value is outside the allowed length."))
  match value with
  | .string text =>
      if text.length > maximum ∨ (trim text).length < minimum then failure else .ok text
  | _ => failure

/-- Bounded strings of an array, in order. -/
def boundedResponseStrings : List Value → Checked (List JsString)
  | [] => .ok []
  | value :: rest => do
      let head ← boundedResponseString value 64 1
      let tail ← boundedResponseStrings rest
      return head :: tail

/-- Whether a value is the given string. -/
def isText (value : Value) (text : JsString) : Bool :=
  match value with
  | .string actual => actual == text
  | _ => false

def respondToTerms (mode : TermsMode) (content : TermsContent) (response : Value) :
    Checked ActivityResponse := do
  let allowed := match mode with
    | .acknowledgement => [js "acknowledged"]
    | .yesNo => [js "yes", js "no"]
  let value ← oneOf response allowed (js "response")
  let display := match mode with
    | .acknowledgement => content.acknowledgementLabel
    | .yesNo => if value = js "yes" then content.yesLabel else content.noLabel
  return { display, outcome := value, result := .undefined, value := .string value }

def respondToApproval (content : ApprovalContent) (response : Value) :
    Checked ActivityResponse := do
  let value ← oneOf response [js "approved", js "disapproved", js "declined"] (js "response")
  let display := if value = js "approved" then content.approved
    else if value = js "disapproved" then content.disapproved else content.declined
  return { display, outcome := value, result := .undefined, value := .string value }

def respondToSingleChoice (content : SingleChoiceContent) (response : Value) :
    Checked ActivityResponse :=
  match content.choices.find? fun choice => isText response choice.id with
  | some choice => .ok {
      display := choice.label, outcome := choice.id, result := .undefined
      value := .string choice.id }
  | none => .error (invalidResponse (js "Select one of the presented choices."))

/-- The presented choices with the given identifiers; none when one is not presented. -/
def findChoices (choices : List Choice) : List JsString → Option (List Choice)
  | [] => some []
  | id :: rest => do
      let choice ← choices.find? fun choice => choice.id = id
      let others ← findChoices choices rest
      return choice :: others

def respondToMultipleChoice (content : MultipleChoiceContent) (response : Value) :
    Checked ActivityResponse :=
  match response with
  | .array items => do
      let values ← boundedResponseStrings items
      if ¬ values.Nodup then
        .error (invalidResponse (js "A choice cannot be selected more than once."))
      else if values.length < content.minSelections ∨ values.length > content.maxSelections then
        .error (invalidResponse (js "The number of selected choices is outside the allowed range."))
      else match findChoices content.choices values with
        | none => .error (invalidResponse (js "Select only presented choices."))
        | some choices => return {
            display := join (js "; ") (choices.map Choice.label)
            outcome := js "submitted", result := .undefined
            value := .array (values.map .string) }
  | _ => .error (invalidResponse (js "The response must be a list of choices."))

def respondToFreeForm (content : FreeFormContent) (response : Value) : Checked ActivityResponse :=
  match response with
  | .string text =>
      if text.length > content.maxLength ∨ (trim text).length < content.minLength then
        .error (invalidResponse (js "The text response is outside the allowed length."))
      else if (0 : CodeUnit) ∈ text then
        .error (invalidResponse (js "The text response contains an unsupported character."))
      else .ok { display := text, outcome := js "submitted", result := .undefined
                 value := .string text }
  | _ => .error (invalidResponse (js "The response must be text."))

/-! ### Electronic signatures -/

/-- A coordinate on the grid of millionths, in double arithmetic. -/
def roundCoordinate (value : ℚ) : ℚ :=
  Binary64.divide (Binary64.mathRound (Binary64.multiply value 1000000)) 1000000

/-- A drawing coordinate: a finite number from zero to one. -/
def coordinate? : Value → Option ℚ
  | .number number => number.toRat?.filter fun value => 0 ≤ value ∧ value ≤ 1
  | _ => none

/-- An optional time offset within a day, in milliseconds. -/
def isPointTime : Value → Bool
  | .undefined => true
  | .number number => number.isSafeInteger &&
      (number.toRat?.any fun value => 0 ≤ value ∧ value ≤ 86400000)
  | _ => false

/-- A point of a drawn signature, with its original time offset. -/
structure Point where
  t : Value
  x : ℚ
  y : ℚ

def Point.toValue (point : Point) : Value :=
  .object [(js "t", point.t), (js "x", .number (.finite (roundCoordinate point.x))),
    (js "y", .number (.finite (roundCoordinate point.y)))]

def normalizePoint (value : Value) : Checked Point := do
  let input ← strictResponseObject value (js "signature point") [js "t", js "x", js "y"]
  match coordinate? (Value.member input (js "x")), coordinate? (Value.member input (js "y")),
      isPointTime (Value.member input (js "t")) with
  | some x, some y, true => return { t := Value.member input (js "t"), x, y }
  | _, _, _ =>
      .error (invalidResponse (js "A signature point is outside the normalized drawing bounds."))

/-- Normalize the points of one stroke in order. -/
def normalizePoints : List Value → Checked (List Point)
  | [] => .ok []
  | value :: rest => do
      let head ← normalizePoint value
      let tail ← normalizePoints rest
      return head :: tail

/-- Normalize the strokes in order; the point count runs over all of them. -/
def normalizeStrokeList : ℕ → List Value → Checked (List (List Point))
  | _, [] => .ok []
  | pointCount, .array points :: rest => do
      if points.length < 2 ∨ points.length > 1000 then
        .error (invalidResponse (js "Each signature stroke requires 2 to 1000 points."))
      else if pointCount + points.length > 5000 then
        .error (invalidResponse (js "The drawn signature contains too many points."))
      else
        let head ← normalizePoints points
        let tail ← normalizeStrokeList (pointCount + points.length) rest
        return head :: tail
  | _, _ => .error (invalidResponse (js "Each signature stroke requires 2 to 1000 points."))

def normalizeStrokes (value : Value) : Checked (List (List Point)) :=
  let failure := Except.error (invalidResponse (js "A drawn signature requires 1 to 50 strokes."))
  match value with
  | .array strokes =>
      if strokes = [] ∨ strokes.length > 50 then failure else normalizeStrokeList 0 strokes
  | _ => failure

/-- The value of strokes inside a response. -/
def strokesValue (strokes : List (List Point)) : Value :=
  .array (strokes.map fun stroke => .array (stroke.map Point.toValue))

/-- The result of a signature: the consent that was shown and the representation. -/
def signatureResult (content : SignatureContent) (method : SignatureMethod) : Value :=
  .object [(js "consentText", .string content.consentText),
    (js "method", .string method.name),
    (js "representation", .string (match method with
      | .drawn => js "normalized-vector-strokes/v1"
      | .typed => js "typed-name/v1"))]

def isTrue : Value → Bool
  | .bool true => true
  | _ => false

def respondToSignature (content : SignatureContent) (response : Value) :
    Checked ActivityResponse := do
  let signature ← strictResponseObject response (js "electronic signature")
    [js "consent", js "method", js "name", js "strokes"]
  if isTrue (Value.member signature (js "consent")) then
    match (signatureMethod? (Value.member signature (js "method"))).filter (· ∈ content.methods) with
    | none => .error (invalidResponse (js "The selected signature method is unavailable."))
    | some .typed => do
        let name ← boundedResponseString (Value.member signature (js "name")) 160 2
        return {
          display := js "Typed electronic signature: " ++ name
          outcome := js "signed"
          result := signatureResult content .typed
          value := .object [(js "consent", .bool true), (js "method", .string (js "typed")),
            (js "name", .string name)] }
    | some .drawn => do
        let strokes ← normalizeStrokes (Value.member signature (js "strokes"))
        return {
          display := js "Drawn electronic signature"
          outcome := js "signed"
          result := signatureResult content .drawn
          value := .object [(js "consent", .bool true), (js "method", .string (js "drawn")),
            (js "strokes", strokesValue strokes)] }
  else .error (invalidResponse (js "Electronic-signature consent is required."))

def respondToDocument (content : DocumentContent) (response : Value) :
    Checked ActivityResponse := do
  let value ← oneOf response [js "reviewed"] (js "response")
  return { display := content.responseLabel, outcome := js "reviewed", result := .undefined
           value := .string value }

/-! ### Questionnaires -/

/-- A scored answer: its normalized value, undefined when it was not given, and
whether it is correct. -/
structure ScoredAnswer where
  question : Question
  normalized : Value
  correct : Bool

def sameSet (left right : List JsString) : Bool :=
  left.length == right.length && left.all fun entry => entry ∈ right

/-- The answer to a question as the lookup on the response object sees it. An
identifier can spell one inherited member of a plain object, which is a function
and no acceptable answer. -/
def answerTo (answers : Members) (question : Question) : Option Value :=
  if question.id = js "constructor" ∧ question.id ∉ answers.map Prod.fst then none
  else some (Value.member answers question.id)

def unsupportedAnswer (question : Question) : Failure :=
  invalidResponse (js "The answer for " ++ question.id ++ js " is unsupported.")

def scoreSingleChoice (question : Question) (answer : Value) : Checked ScoredAnswer := do
  let normalized ← boundedResponseString answer 64 1
  if normalized ∈ question.choices.map Choice.id then
    return { question, normalized := .string normalized
             correct := normalized ∈ question.correctChoiceIds }
  else .error (unsupportedAnswer question)

def scoreMultipleChoice (question : Question) (answer : Value) : Checked ScoredAnswer :=
  match answer with
  | .array items => do
      let normalized ← boundedResponseStrings items
      if normalized.Nodup ∧ ∀ entry ∈ normalized, entry ∈ question.choices.map Choice.id then
        return { question, normalized := .array (normalized.map .string)
                 correct := sameSet normalized question.correctChoiceIds }
      else .error (unsupportedAnswer question)
  | _ => .error (invalidResponse (js "The answer for " ++ question.id ++ js " must be a list."))

def scoreQuestion (answers : Members) (question : Question) : Checked ScoredAnswer :=
  match answerTo answers question with
  | some .undefined =>
      if question.required then
        .error (invalidResponse (js "An answer is required for " ++ question.id ++ js "."))
      else .ok { question, normalized := .undefined, correct := false }
  | some answer =>
      if question.multiple then scoreMultipleChoice question answer
      else scoreSingleChoice question answer
  | none =>
      if question.multiple then
        .error (invalidResponse (js "The answer for " ++ question.id ++ js " must be a list."))
      else .error (invalidResponse (js "A response value is outside the allowed length."))

/-- Score the questions in order. -/
def scoreQuestions (answers : Members) : List Question → Checked (List ScoredAnswer)
  | [] => .ok []
  | question :: rest => do
      let head ← scoreQuestion answers question
      let tail ← scoreQuestions answers rest
      return head :: tail

def totalPoints (answers : List ScoredAnswer) : ℕ := (answers.map fun a => a.question.points).sum

def earnedPoints (answers : List ScoredAnswer) : ℕ :=
  (answers.map fun a => if a.correct then a.question.points else 0).sum

/-- The score in hundredths of a percent, as double arithmetic rounds it. -/
def percentHundredths (earned total : ℕ) : ℤ :=
  Binary64.mathRound (Binary64.multiply (Binary64.divide earned total) 10000)

/-- The percentage of the points earned; a questionnaire without points is full. -/
def percent (earned total : ℕ) : ℚ :=
  if total = 0 then 100 else Binary64.divide (percentHundredths earned total) 100

/-- The printed percentage: at most two decimals, without trailing zeros. -/
def percentText (earned total : ℕ) : JsString :=
  let hundredths := if total = 0 then 10000 else (percentHundredths earned total).toNat
  let whole := decimal (hundredths / 100)
  let fraction := hundredths % 100
  if fraction = 0 then whole
  else if fraction % 10 = 0 then whole ++ js "." ++ decimal (fraction / 10)
  else if fraction < 10 then whole ++ js ".0" ++ decimal fraction
  else whole ++ js "." ++ decimal fraction

/-- The scored questions of a result. -/
def questionResult (answer : ScoredAnswer) : Value :=
  .object [(js "correct", .bool answer.correct), (js "id", .string answer.question.id),
    (js "pointsEarned", wholeNumber (if answer.correct then answer.question.points else 0))]

def questionnaireResult (content : QuestionnaireContent) (answers : List ScoredAnswer) : Value :=
  let earned := earnedPoints answers
  let total := totalPoints answers
  .object [(js "earnedPoints", wholeNumber earned),
    (js "passed", .bool (content.passingPercent ≤ percent earned total)),
    (js "passingPercent", wholeNumber content.passingPercent),
    (js "percent", .number (.finite (percent earned total))),
    (js "questionResults", .array (answers.map questionResult)),
    (js "totalPoints", wholeNumber total)]

/-- The normalized answers under their question identifiers. -/
def normalizedAnswers (answers : List ScoredAnswer) : Members :=
  (answers.filter fun answer => !answer.normalized.isUndefined).map fun answer =>
    (answer.question.id, answer.normalized)

def respondToQuestionnaire (content : QuestionnaireContent) (response : Value) :
    Checked ActivityResponse := do
  let members ← strictResponseObject response (js "questionnaire response")
    (content.questions.map Question.id)
  let answers ← scoreQuestions members content.questions
  let earned := earnedPoints answers
  let total := totalPoints answers
  let passed : Bool := content.passingPercent ≤ percent earned total
  return {
    display := decimal earned ++ js " of " ++ decimal total ++ js " points (" ++
      percentText earned total ++ js "%) — " ++ (if passed then js "passed" else js "not passed")
    outcome := if passed then js "passed" else js "failed"
    result := questionnaireResult content answers
    value := .object (normalizedAnswers answers) }

/-! ### External media -/

def respondToMedia (content : Media.ExternalMediaContent) (response : Value) :
    Checked ActivityResponse := do
  let mediaResponse ← strictResponseObject response (js "external media response")
    [js "acknowledged", js "method"]
  let method ← oneOf (Value.member mediaResponse (js "method"))
    [js "playback", js "acknowledgement"] (js "media completion method")
  let mode := content.completionPolicy.mode
  let acknowledged := method = js "acknowledgement"
  if method = js "playback" ∧ mode = .acknowledgement then
    .error (invalidResponse (js "This activity does not allow playback-based completion."))
  else if acknowledged ∧ mode = .playback then
    .error (invalidResponse (js "This activity requires validated playback completion."))
  else if acknowledged ∧ ¬ isTrue (Value.member mediaResponse (js "acknowledged")) then
    .error (invalidResponse (js "Media-review acknowledgement is required."))
  else return {
    display := if method = js "playback" then
        js "Playback met the configured " ++ decimal content.completionPolicy.thresholdPercent ++
          js "% threshold."
      else content.acknowledgementLabel
    outcome := js "completed"
    result := .object [
      (js "capability", .string content.descriptor.providerDescriptor.capability),
      (js "completionMethod", .string method),
      (js "completionPolicy", completionPolicyValue content.completionPolicy)]
    value := .object [
      (js "acknowledged", if acknowledged then .bool true else .undefined),
      (js "method", .string method)] }

/-- Accept a response under the contract of the activity. -/
def validateActivityResponse (activity : Activity) (response : Value) :
    Checked ActivityResponse :=
  match activity.content with
  | .termsResponse mode content => respondToTerms mode content response
  | .approval content => respondToApproval content response
  | .singleChoice content => respondToSingleChoice content response
  | .multipleChoice content => respondToMultipleChoice content response
  | .freeForm content => respondToFreeForm content response
  | .electronicSignature content => respondToSignature content response
  | .documentReview content => respondToDocument content response
  | .questionnaire content => respondToQuestionnaire content response
  | .externalMedia content => respondToMedia content response

end Vasi.Activities
