import Vasi.ClientAddress
import Vasi.EvidenceVerifier
import Vasi.PrettyJson

/-!
# Evidence reports

The plain-text reports of a sealed record. A report is read from the record, and its text
is a list of lines: each has the fixed words of the template and the texts of the values
it shows. The technical and the structured report end with the record as indented JSON.

A fixed text of the template carries the proof that it has no line break. The other two
formats of a report and the members that no line shows are not modelled; the order of the
platform's collation is a parameter.
-/
namespace Vasi.EvidenceReports

open JsValue Validation Coercion EvidenceVerifier
open Activities (isText)
open CanonicalJson (canonicalJSON)
open JsonText (parse stringify)
open PrettyJson (prettyText)
open Productization (wholeNumber)

def isLineBreak (unit : CodeUnit) : Bool := unit.val = 10 || unit.val = 13

/-- A text that stays on one line. -/
def Unbroken (text : JsString) : Prop := text.any isLineBreak = false

instance (text : JsString) : Decidable (Unbroken text) :=
  inferInstanceAs (Decidable (text.any isLineBreak = false))

/-- The characters of a fixed text decide it. -/
theorem unbroken_js {characters : List Char}
    (plain : (characters.flatMap codeUnits).any isLineBreak = false) :
    Unbroken (js (String.ofList characters)) := by
  unfold Unbroken js
  rw [String.toList_ofList]
  exact plain

/-- A piece of a line: a text of the template, or the text of a value. -/
inductive Piece where
  | label (text : JsString) (unbroken : Unbroken text := by exact unbroken_js rfl)
  | shown (text : JsString)

def Piece.text : Piece → JsString
  | label text _ => text
  | shown text => text

abbrev Line := List Piece

def lineText (line : Line) : JsString := (line.map Piece.text).flatten

/-- The fixed texts of a line, with none for each value. -/
def labels (line : Line) : List (Option JsString) :=
  line.map fun piece => match piece with
    | .label text _ => some text
    | .shown _ => none

/-! ## Reading the record -/

inductive Profile where
  | nontechnical
  | participant
  | structured
  | technical
deriving DecidableEq

/-- A member of a value that must be there. -/
def need (value : Value) (key : String) : Option Value :=
  if value.isPresent then some (value.get (js key)) else none

/-- Whether the length member of a value is truthy. -/
def hasLength : Value → Bool
  | .array items => items ≠ []
  | .string text => text ≠ []
  | .object members => (Value.member members (js "length")).truthy
  | _ => false

/-- A value, or an empty array for a falsy one, as an array to map over. -/
def mapped (value : Value) : Option (List Value) :=
  if value.truthy then arrayItems value else some []

/-- Array.prototype.sort of items that are there; one item is not converted. -/
def sortedItems (items : List Value) : Option (List Value) :=
  if items.length ≤ 1 ∨ items.all fun item => (toText item).isSome then some (sorted items)
  else none

/-- Number of a value; none is the TypeError of an object without a conversion. -/
def numberOf : Value → Option JsNumber
  | .undefined => some .nan
  | .null => some (.finite 0)
  | .bool value => some (.finite (if value then 1 else 0))
  | .number number => some number
  | value => (toText value).map ClientAddress.toNumber

/-- The order of two numbers; none is NaN. -/
def exceeds : JsNumber → JsNumber → Bool
  | .nan, _ | _, .nan => false
  | .infinite false, .infinite false => false
  | .infinite false, _ => true
  | .infinite true, _ => false
  | _, .infinite negative => negative
  | left, right => decide ((right.toRat?.getD 0) < (left.toRat?.getD 0))

structure Outcome where
  activityId : Value
  outcome : Value
  response : Value
  responseLabel : Value

structure Attempt where
  adapter : Value
  completedAt : Value
  outcome : Value

structure Notification where
  attempts : List Attempt
  notificationType : Value
  queuedAt : Value
  status : Value

structure NotificationDelivery where
  limitations : List Value
  notifications : List Notification

structure ProductionAdmission where
  admissionHash : Value
  approvedGates : ℕ
  requiredGates : ℕ
  revision : Value
  status : Value

structure LatestAccepted where
  evaluatedAt : Value
  method : Value
  provider : Value

structure AuthenticationAssurance where
  acceptedMethods : List Value
  evaluationCount : ℕ
  latestAccepted : Option LatestAccepted
  maximumAgeSeconds : Value

structure ActivityTiming where
  activityId : Value
  confidence : Value
  timing : Value

structure ContextEvidence where
  explanation : List Piece
  purposes : List Value
  reliabilityClass : Value
  snapshotCount : ℕ
  firstReceivedAt : Value
  lastReceivedAt : Value

structure TimelineEntry where
  receivedAt : Value
  description : List Piece
  eventId : Value
  sequence : Value

structure EventReference where
  eventHash : Value
  eventId : Value
  eventType : Value
  sequence : Value

structure Identity where
  authentication : Value
  email : Value
  requestContext : Value

structure Transaction where
  completedAt : Value
  issuedAt : Value
  purpose : Value
  startedAt : Value
  status : Value
  tenant : Value
  title : Value

structure Context where
  activityTiming : List ActivityTiming
  authenticationAssurance : Option AuthenticationAssurance
  contextEvidence : ContextEvidence
  eventReferences : List EventReference
  identity : Identity
  primarySeal : Value
  limitations : List Value
  manifest : Value
  notificationDelivery : Option NotificationDelivery
  productionAdmission : Option ProductionAdmission
  outcomes : List Outcome
  record : Value
  requesterEmail : Value
  seals : List Value
  timeline : List TimelineEntry
  transaction : Transaction

def authenticationAssuranceSummary (localeCompare : JsString → JsString → ℤ) (value : Value) :
    Option (Option AuthenticationAssurance) :=
  match value.get (js "evaluations") with
  | .array evaluations =>
      let policy := value.get (js "policy")
      if ¬policy.truthy then some none
      else do
        let satisfied := (evaluations.map fun entry => entry.get (js "evaluation")).filter
          fun entry => (entry.get (js "satisfied")).truthy
        let compared ← (
          if satisfied.length ≤ 1 then some (satisfied.map fun entry => ([], entry))
          else satisfied.mapM fun entry =>
            (toText (entry.get (js "evaluatedAt"))).map fun text => (text, entry))
        let latest := (compared.insertionSort fun left right =>
          localeCompare left.1 right.1 ≤ 0).getLast?
        let acceptedMethods ← iterated (policy.get (js "acceptedMethods"))
        return some {
          acceptedMethods
          evaluationCount := evaluations.length
          latestAccepted := latest.map fun entry => {
            evaluatedAt := entry.2.get (js "evaluatedAt")
            method := path entry.2 ["observation", "method"]
            provider := path entry.2 ["observation", "provider"] }
          maximumAgeSeconds := policy.get (js "maximumAgeSeconds") }
  | _ => some none

def tenantAdmissionSummary (value : Value) : Option ProductionAdmission :=
  let admission := value.get (js "admission")
  if isText (admission.get (js "status")) (js "admitted") then
    let gates := (arrayItems (admission.get (js "gates"))).getD []
    some {
      admissionHash := value.get (js "admissionHash")
      approvedGates :=
        (gates.filter fun gate => isText (gate.get (js "state")) (js "approved")).length
      requiredGates := gates.length
      revision := value.get (js "revision")
      status := admission.get (js "status") }
  else none

def deliveryAttempt (attempt : Value) : Option Attempt := do
  let adapter ← need attempt "adapter"
  return { adapter, completedAt := attempt.get (js "completedAt")
           outcome := attempt.get (js "outcome") }

def deliveryNotification (job : Value) : Option Notification := do
  let supplied ← need job "attempts"
  let items ← mapped supplied
  let attempts ← items.mapM deliveryAttempt
  return { attempts, notificationType := job.get (js "notificationType")
           queuedAt := job.get (js "queuedAt"), status := job.get (js "status") }

def notificationDeliverySummary (value : Value) : Option (Option NotificationDelivery) :=
  match value.get (js "jobs") with
  | .array jobs => do
      let limitations ← iterated (value.get (js "limitations"))
      let notifications ← jobs.mapM deliveryNotification
      return some { limitations, notifications }
  | _ => some none

/-- The words for an event that has an activity: before and after its identifier. -/
def aboutActivity (before after : Piece) (payload : Value) : Option (List Piece) :=
  let activityId := payload.get (js "activityId")
  if activityId.truthy then do
    let text ← toText activityId
    return [before, .label (js " for "), .shown text, after]
  else some [before, after]

def stop : Piece := .label (js ".")

def colon : Piece := .label (js ": ")

def closeBracket : Piece := .label (js "]")

def eventDescription (eventType payload : Value) : Option (List Piece) :=
  if isText eventType (js "request.issued") then
    some [.label (js "The company issued the immutable request to the intended participant.")]
  else if isText eventType (js "participant.opened") then
    some [.label (js "The authenticated participant opened the request.")]
  else if isText eventType (js "participant.responded") then
    aboutActivity (.label (js "The participant recorded a response")) stop payload
  else if isText eventType (js "activity.completed") then
    let activityId := payload.get (js "activityId")
    let completed : Piece := .label (js "The participant completed activity ")
    if activityId.truthy then (toText activityId).map fun text => [completed, .shown text, stop]
    else some [completed, .label (js "(unspecified)"), stop]
  else if isText eventType (js "media.telemetry.recorded") then
    aboutActivity (.label (js "VASI accepted a bounded media telemetry batch")) stop payload
  else if isText eventType (js "activity.interaction.recorded") then
    aboutActivity (.label (js "VASI accepted a privacy-bounded activity-presence batch")) stop
      payload
  else if isText eventType (js "participant.context.recorded") then
    aboutActivity (.label (js "VASI recorded a privacy-bounded browser context snapshot")) stop
      payload
  else if isText eventType (js "request.completed") then
    some [.label (js "All required activities completed and VASI sealed the transaction.")]
  else if isText eventType (js "request.revoked") then
    some [.label (js "The company revoked the request.")]
  else if isText eventType (js "request.reissued") then
    some [.label (js "The company reissued the request as a new transaction.")]
  else if isText eventType (js "request.reminder") then
    some [.label (js "The company requested a reminder.")]
  else
    let recorded : Piece := .label (js "VASI recorded ")
    if eventType.truthy then (toText eventType).map fun text => [recorded, .shown text, stop]
    else some [recorded, .label (js "an unspecified event"), stop]

/-- The limitations that the confidence of each summary names. -/
def summaryLimitations (summaries : Value) : Option (List Value) := do
  let entries ← iterated summaries
  let each ← entries.mapM fun summary =>
    if summary.isPresent then iterated (path summary ["summary", "confidence", "limitations"])
    else none
  return each.flatten

def descriptorLimitations (descriptors : Value) : Option (List Value) := do
  let entries ← iterated descriptors
  let each ← entries.mapM fun descriptor =>
    if descriptor.isPresent then iterated (path descriptor ["descriptor", "limitations"])
    else none
  return each.flatten

def evidenceLimitations (manifest : Value) : Option (List Value) := do
  let descriptors ← descriptorLimitations (path manifest ["media", "descriptors"])
  let media ← summaryLimitations (path manifest ["media", "summaries"])
  let interactions ← summaryLimitations (path manifest ["activityInteraction", "summaries"])
  let policy ← iterated (path manifest ["participantContext", "policy", "limitations"])
  let delivery ← iterated (path manifest ["notificationDelivery", "limitations"])
  let admitted := if (manifest.get (js "admission")).truthy then
    [.string (js "A tenant admission record proves which accountable approvals VASI bound at " ++
      js "issuance; it does not replace the underlying legal, security, accessibility, " ++
      js "recovery, or pilot review.")]
    else []
  let unseen := if hasSchema manifest 5 ∧
      hasLength (path manifest ["activityInteraction", "events"]) = false then
    [.string (js "No browser-reported generalized activity-presence events were available " ++
      js "when the record was sealed.")]
    else []
  let uncaptured := if hasSchema manifest 6 ∧
      hasLength (path manifest ["participantContext", "snapshots"]) = false then
    [.string (js "No privacy-bounded browser/device context snapshot was available when the " ++
      js "record was sealed.")]
    else []
  return newSet (
    [.string (js "The VASI integrity seal proves that the sealed record has not changed since " ++
        js "sealing; it does not by itself decide legal enforceability."),
     .string (js "Authentication and browser evidence identify the recorded session but cannot " ++
        js "prove a person's attention, comprehension, or freedom from coercion.")] ++
    admitted ++ descriptors ++ media ++ interactions ++ policy ++ unseen ++ uncaptured ++ delivery)

/-- One summary takes its place among the latest ones if its revision is a later one. -/
def laterSummary (latest : List (Value × Value)) (entry : Value) :
    Option (List (Value × Value)) := do
  let activityId ← need entry "activityId"
  match latest.find? fun other => sameMember other.1 activityId with
  | none => return latest ++ [(activityId, entry)]
  | some previous =>
      let own ← numberOf (entry.get (js "revision"))
      let other ← numberOf (previous.2.get (js "revision"))
      if exceeds own other then
        return latest.map fun place =>
          if sameMember place.1 activityId then (place.1, entry) else place
      else return latest

def latestActivityInteractionSummaries (manifest : Value) : Option (List Value) := do
  let summaries ← iterated (path manifest ["activityInteraction", "summaries"])
  let latest ← summaries.foldlM laterSummary []
  return latest.map Prod.snd

def participantContextSummary (manifest : Value) : Option ContextEvidence := do
  let snapshots ← mapped (path manifest ["participantContext", "snapshots"])
  let given ← snapshots.mapM fun entry => need entry "receivedAt"
  let received ← sortedItems (given.filter Value.truthy)
  let named := (snapshots.map fun entry => entry.get (js "purpose")).filter Value.truthy
  let purposes ← sortedItems (newSet named)
  return {
    explanation := if snapshots = [] then
        [.label (js "No browser-reported context snapshot was available."),
         .label (js " Missing context is not inferred.")]
      else
        [.label (js "VASI retained fixed, privacy-bounded browser-reported context observations."),
         .label (js " Ordinary reports summarize their presence; the sealed technical record"),
         .label (js " contains the eligible values and provenance. These observations do not"),
         .label (js " prove identity, attention, comprehension, or physical location.")]
    purposes
    reliabilityClass := orText (path manifest ["participantContext", "policy", "reliabilityClass"])
      (js "browser_reported")
    snapshotCount := snapshots.length
    firstReceivedAt := received.head?.getD .undefined
    lastReceivedAt := received.getLast?.getD .undefined }

def recordOutcomes (manifest : Value) : Option (List Outcome) :=
  let activities := path manifest ["outcome", "activities"]
  let response := path manifest ["outcome", "response"]
  if hasLength activities then do
    let items ← arrayItems activities
    items.mapM fun activity => do
      let activityId ← need activity "activityId"
      return { activityId, outcome := activity.get (js "outcome")
               response := activity.get (js "response")
               responseLabel := activity.get (js "responseLabel") }
  else if response.isUndefined then some []
  else some [{
    activityId := orText (path manifest ["workflow", "id"]) (js "response")
    outcome := response, response, responseLabel := response }]

def timelineEntry (event : Value) : Option TimelineEntry := do
  let description ← eventDescription (path event ["eventData", "eventType"])
    (path event ["eventData", "payload"])
  return { receivedAt := path event ["eventData", "receivedAt"], description
           eventId := path event ["eventData", "eventId"], sequence := event.get (js "sequence") }

def eventReference (event : Value) : EventReference where
  eventHash := event.get (js "eventHash")
  eventId := path event ["eventData", "eventId"]
  eventType := path event ["eventData", "eventType"]
  sequence := event.get (js "sequence")

/-- The actor of the first event of the participant that has one, or an empty object. -/
def participantActor (manifest : Value) (events : List Value) : Value :=
  let participantEvents := events.filter fun event =>
    same (path event ["eventData", "actor", "principalId"])
      (path manifest ["assignment", "principalId"])
  match participantEvents.find? fun event => (path event ["eventData", "actor"]).truthy with
  | some event => path event ["eventData", "actor"]
  | none => .object []

/-- The seals of a record; each is read, so each must be there. -/
def recordSeals (record : Value) : Option (List Value) := do
  let listed := record.get (js "seals")
  let seals ← (if hasLength listed then arrayItems listed else some [record.get (js "seal")])
  if seals.all Value.isPresent then return seals else none

def reportContext (localeCompare : JsString → JsString → ℤ) (record : Value) :
    Option Context := do
  let manifest ← need record "manifest"
  let seals ← recordSeals record
  let events ← arrayItems (record.get (js "events"))
  if ¬(manifest.isPresent && events.all Value.isPresent) then none
  else
    let completedAt := path manifest ["timestamps", "completedAt"]
    let limitations ← evidenceLimitations manifest
    let contextEvidence ← participantContextSummary manifest
    let notificationDelivery ← notificationDeliverySummary
      (manifest.get (js "notificationDelivery"))
    let authenticationAssurance ← authenticationAssuranceSummary localeCompare
      (manifest.get (js "authenticationAssurance"))
    let latest ← latestActivityInteractionSummaries manifest
    let outcomes ← recordOutcomes manifest
    let timeline ← events.mapM timelineEntry
    let actor := participantActor manifest events
    let requesterEvent := events.find? fun event =>
      let eventType := path event ["eventData", "eventType"]
      isText eventType (js "request.issued") || isText eventType (js "request.scheduled")
    return {
      activityTiming := latest.map fun entry => {
        activityId := entry.get (js "activityId")
        confidence := path entry ["summary", "confidence", "level"]
        timing := path entry ["summary", "timing"] }
      authenticationAssurance, contextEvidence
      eventReferences := events.map eventReference
      identity := {
        authentication := if (actor.get (js "authentication")).truthy then
            actor.get (js "authentication")
          else .object [(js "method", .string (js "unspecified"))]
        email := path manifest ["assignment", "participantEmail"]
        requestContext := actor.get (js "requestContext") }
      primarySeal := primarySeal seals
      limitations, manifest, notificationDelivery
      productionAdmission := tenantAdmissionSummary (manifest.get (js "admission"))
      outcomes, record
      requesterEmail := orDefault (path manifest ["requester", "email"])
        (match requesterEvent with
          | some event => path event ["eventData", "actor", "email"]
          | none => .undefined)
      seals, timeline
      transaction := {
        completedAt
        issuedAt := path manifest ["timestamps", "issuedAt"]
        purpose := path manifest ["request", "purpose"]
        startedAt := path manifest ["timestamps", "startedAt"]
        status := path manifest ["outcome", "status"]
        tenant := manifest.get (js "tenant")
        title := path manifest ["workflow", "title"] } }

/-- A report: what the text of one profile shows of the record. -/
structure EvidenceReport where
  profile : Profile
  context : Context
  requester : Bool
  identity : Option Identity
  outcomes : Option (List Outcome)
  activityTiming : List ActivityTiming
  contextEvidence : Option ContextEvidence
  timeline : Option (List TimelineEntry)
  limitations : Option (List Value)
  detail : Option Value

def buildReport (profile : Profile) (context : Context) : EvidenceReport :=
  match profile with
  | .participant => {
      profile, context, requester := true
      identity := some { context.identity with requestContext := .undefined }
      outcomes := some context.outcomes
      activityTiming := context.activityTiming
      contextEvidence := some { context.contextEvidence with
        firstReceivedAt := .undefined, lastReceivedAt := .undefined }
      timeline := none, limitations := none, detail := none }
  | .nontechnical => {
      profile, context, requester := true
      identity := some context.identity
      outcomes := some context.outcomes
      activityTiming := context.activityTiming
      contextEvidence := some context.contextEvidence
      timeline := some context.timeline
      limitations := some context.limitations
      detail := none }
  | .technical => {
      profile, context, requester := false, identity := none, outcomes := none
      activityTiming := [], contextEvidence := none, timeline := none
      limitations := some context.limitations
      detail := some (.object [(js "events", context.record.get (js "events")),
        (js "manifest", context.manifest), (js "seals", .array context.seals)]) }
  | .structured => {
      profile, context, requester := false, identity := none, outcomes := none
      activityTiming := [], contextEvidence := none, timeline := none, limitations := none
      detail := some context.record }

/-! ## The text -/

/-- A value as a template literal writes it. -/
def written (value : Value) : Option Piece := (toText value).map .shown

/-- A value, or a word of the template for one that is falsy. -/
def orWord (value : Value) (word : JsString)
    (unbroken : Unbroken word := by exact unbroken_js rfl) : Option Piece :=
  if value.truthy then written value else some (.label word unbroken)

/-- The joined texts, or a word for none. -/
def joinedOr (texts : Option (List JsString)) (separator word : JsString)
    (unbroken : Unbroken word := by exact unbroken_js rfl) : Option Piece :=
  texts.map fun own =>
    if join separator own = [] then .label word unbroken else .shown (join separator own)

def unspecified (value : Value) : Option Piece := orWord value (js "Unspecified")

def statusText (value : Value) : Option JsString :=
  (toText (orText value (js "indeterminate"))).map fun text =>
    text.map fun unit => if unit = 95 then 32 else unit

def notificationTypeText (value : Value) : Piece :=
  if isText value (js "request.issued") then .label (js "Invitation")
  else if isText value (js "request.reminder") then .label (js "Reminder")
  else if isText value (js "request.completed") then .label (js "Completion notice")
  else .label (js "Notification")

def profileTitle : Profile → Piece
  | .participant => .label (js "Participant")
  | .nontechnical => .label (js "Plain-Language")
  | .technical => .label (js "Technical Forensic")
  | .structured => .label (js "Structured")

def authenticationText (value : Value) : Option Piece :=
  if isReference value then
    joinedOr (Coercion.itemTexts ([value.get (js "method"), value.get (js "provider"),
      value.get (js "issuer")].filter Value.truthy)) (js " / ") (js "Unspecified")
  else some (.label (js "Unspecified"))

/-- The text of a response without a label. -/
def printable (value : Value) : Option JsString :=
  match value with
  | .string text => some text
  | .array items => (Coercion.itemTexts items).map (join (js ", "))
  | _ => some (PrettyJson.template (stringify value))

def durationText (value : Value) : List Piece :=
  match value with
  | .number number =>
      match number.toRat? with
      | some milliseconds =>
          if 0 ≤ milliseconds then
            [.shown (numberString (.finite (Binary64.mathRound milliseconds))), .label (js " ms")]
          else [.label (js "unavailable")]
      | none => [.label (js "unavailable")]
  | _ => [.label (js "unavailable")]

/-- The explanation of a profile. -/
def explanation : Profile → Line
  | .participant =>
      [.label (js "This report summarizes the participant's completed VASI transaction."),
       .label (js " It does not expose the full forensic browser and network record.")]
  | .nontechnical =>
      [.label (js "This report explains who requested the activity, who completed it,"),
       .label (js " what occurred, when it occurred, and how the integrity record can be checked.")]
  | .technical =>
      [.label (js "This forensic report preserves complete event, manifest, tenant-admission,"),
       .label (js " authentication-assurance, authentication, server-observed request context,"),
       .label (js " privacy-bounded browser-reported participant context, generalized"),
       .label (js " activity-interaction, notification-delivery, media, artifact,"),
       .label (js " response-revision, and seal data available in the sealed record.")]
  | .structured =>
      [.label (js "This structured export contains the sealed record without interpretive or"),
       .label (js " LLM-generated additions.")]

/-- A line of a word and a piece. -/
def labelled (word : JsString) (piece : Option Piece)
    (unbroken : Unbroken word := by exact unbroken_js rfl) : Option Line :=
  piece.map fun own => [.label word unbroken, own]

/-- The lines, if every one of them can be written. -/
def allLines (lines : List (Option Line)) : Option (List Line) := lines.mapM id

def heading (word : JsString) (unbroken : Unbroken word := by exact unbroken_js rfl) :
    List (Option Line) :=
  [some [], some [.label word unbroken]]

def headLines (report : EvidenceReport) : List (Option Line) :=
  let transaction := report.context.transaction
  [some [.label (js "VASI "), profileTitle report.profile, .label (js " Evidence Report")],
    some [.label (js "Report schema: vasi-evidence-report/v1")],
    labelled (js "Source manifest: ")
      (written (report.context.primarySeal.get (js "manifestHash"))),
    labelled (js "Transaction: ") (written transaction.title),
    labelled (js "Company: ") (unspecified (transaction.tenant.get (js "name"))),
    labelled (js "Purpose: ") (unspecified transaction.purpose),
    labelled (js "Issued: ") (unspecified transaction.issuedAt),
    labelled (js "Started: ") (unspecified transaction.startedAt),
    labelled (js "Completed: ") (unspecified transaction.completedAt),
    labelled (js "Status: ") (unspecified transaction.status),
    some [], some (explanation report.profile)]

def requesterLines (report : EvidenceReport) : List (Option Line) :=
  if report.requester then
    heading (js "REQUESTER") ++ [
      labelled (js "Company: ")
        (unspecified (report.context.transaction.tenant.get (js "name"))),
      labelled (js "Email: ") (unspecified report.context.requesterEmail)]
  else []

def admissionLines : Option ProductionAdmission → List (Option Line)
  | none => []
  | some admission =>
      heading (js "PRODUCTION ADMISSION") ++ [
        labelled (js "Status: ") ((statusText admission.status).map .shown),
        some [.label (js "Required gates: "), .shown (decimal admission.approvedGates),
          .label (js "/"), .shown (decimal admission.requiredGates), .label (js " approved")],
        labelled (js "Revision: ") (written admission.revision),
        labelled (js "Admission fingerprint: ") (written admission.admissionHash)]

def identityLines (profile : Profile) : Option Identity → List (Option Line)
  | none => []
  | some identity =>
      heading (js "PARTICIPANT IDENTITY") ++ [
        labelled (js "Email: ") (unspecified identity.email),
        labelled (js "Authentication: ") (authenticationText identity.authentication)] ++
      if profile ≠ .participant ∧ identity.requestContext.truthy then [
        labelled (js "IP address: ")
          (orWord (identity.requestContext.get (js "ipAddress")) (js "Unavailable")),
        labelled (js "User agent: ")
          (orWord (identity.requestContext.get (js "userAgent")) (js "Unavailable"))]
      else []

def assuranceLines : Option AuthenticationAssurance → List (Option Line)
  | none => []
  | some assurance =>
      heading (js "AUTHENTICATION ASSURANCE") ++ [
        labelled (js "Accepted methods: ")
          (joinedOr (assurance.acceptedMethods.mapM statusText) (js ", ") (js "Unspecified")),
        match assurance.maximumAgeSeconds with
        | .null => some [.label (js "Maximum authentication age: No additional freshness limit")]
        | seconds => (toText seconds).map fun text =>
            [.label (js "Maximum authentication age: "), .shown text, .label (js " seconds")],
        some [.label (js "Accepted material-event evaluations: "),
          .shown (decimal assurance.evaluationCount)]] ++
      match assurance.latestAccepted with
      | none => []
      | some latest => [
          labelled (js "Latest accepted method: ")
            ((statusText latest.method).map .shown),
          labelled (js "Latest accepted provider: ")
            (orWord latest.provider (js "Not provider-specific")),
          labelled (js "Latest evaluation: ") (unspecified latest.evaluatedAt)]

def outcomeLine (outcome : Outcome) : Option Line := do
  let activityId ← written outcome.activityId
  let response ← (if outcome.responseLabel.truthy then toText outcome.responseLabel
    else printable outcome.response)
  let line := [activityId, colon, .shown response]
  if outcome.outcome.truthy then
    let text ← toText outcome.outcome
    return line ++ [.label (js " ("), .shown text, .label (js ")")]
  else return line

def outcomeLines : Option (List Outcome) → List (Option Line)
  | none => []
  | some outcomes => heading (js "RECORDED OUTCOMES") ++ outcomes.map outcomeLine

def notificationLine (notification : Notification) : Option Line := do
  let status ← statusText notification.status
  let queuedAt ← unspecified notification.queuedAt
  let line := [notificationTypeText notification.notificationType, colon,
    .shown status, .label (js "; queued "), queuedAt, .label (js "; ")]
  match notification.attempts.getLast? with
  | none => return line ++ [.label (js "no provider attempt recorded before sealing")]
  | some attempt =>
      let adapter ← written attempt.adapter
      let outcome ← statusText attempt.outcome
      let completedAt ← written attempt.completedAt
      return line ++ [.label (js "latest adapter "), adapter,
        .label (js ", "), .shown outcome, .label (js " at "), completedAt]

def deliveryLines : Option NotificationDelivery → List (Option Line)
  | none => []
  | some delivery =>
      if delivery.notifications = [] then []
      else
        heading (js "NOTIFICATION DELIVERY (PROVIDER-ACCEPTANCE EVIDENCE)") ++
          delivery.notifications.map notificationLine ++
          delivery.limitations.map fun limitation =>
            labelled (js "Limit: ") (written limitation)

def timingLine (activity : ActivityTiming) : Option Line := do
  let activityId ← written activity.activityId
  let confidence ← orWord activity.confidence (js "unavailable")
  let duration (key : String) : List Piece := durationText (activity.timing.get (js key))
  return [activityId, .label (js ": open ")] ++ duration "openMilliseconds" ++
    [.label (js ", foreground-visible ")] ++
    duration "foregroundVisibleMilliseconds" ++
    [.label (js ", engaged ")] ++ duration "engagedMilliseconds" ++
    [.label (js ", idle foreground ")] ++ duration "idleForegroundMilliseconds" ++
    [.label (js ", uncredited gaps ")] ++ duration "uncreditedGapMilliseconds" ++
    [.label (js "; confidence "), confidence]

def timingLines (activities : List ActivityTiming) : List (Option Line) :=
  if activities = [] then []
  else heading (js "ACTIVITY PRESENCE (BROWSER-REPORTED SUPPORTING EVIDENCE)") ++
    activities.map timingLine

/-- A line for a value that is there. -/
def whenThere (value : Value) (line : Option Line) : List (Option Line) :=
  if value.truthy then [line] else []

def contextLines : Option ContextEvidence → List (Option Line)
  | none => []
  | some evidence =>
      heading (js "BROWSER/DEVICE CONTEXT (BROWSER-REPORTED SUPPORTING EVIDENCE)") ++ [
        some [.label (js "Snapshots: "), .shown (decimal evidence.snapshotCount)],
        labelled (js "Purposes: ")
          (joinedOr (Coercion.itemTexts evidence.purposes) (js ", ") (js "none")),
        labelled (js "Reliability: ")
          (orWord evidence.reliabilityClass (js "browser_reported")),
        some evidence.explanation] ++
      whenThere evidence.firstReceivedAt
        (labelled (js "First received: ") (written evidence.firstReceivedAt)) ++
      whenThere evidence.lastReceivedAt
        (labelled (js "Last received: ") (written evidence.lastReceivedAt))

def timelineLine (entry : TimelineEntry) : Option Line := do
  let sequence ← written entry.sequence
  let receivedAt ← orWord entry.receivedAt (js "time unavailable")
  let eventId ← written entry.eventId
  return [sequence, .label (js ". "), receivedAt, .label (js " — ")] ++
    entry.description ++ [.label (js " ["), eventId, closeBracket]

def timelineLines : Option (List TimelineEntry) → List (Option Line)
  | none => []
  | some timeline => heading (js "CHRONOLOGY") ++ timeline.map timelineLine

def limitationLines : Option (List Value) → List (Option Line)
  | none => []
  | some limitations => heading (js "LIMITATIONS") ++
      limitations.map fun limitation => labelled (js "- ") (written limitation)

def integrityLines (primarySeal : Value) : List (Option Line) :=
  heading (js "INTEGRITY") ++ [
    labelled (js "Profile: ") (written (primarySeal.get (js "profile"))),
    labelled (js "Algorithm: ") (written (primarySeal.get (js "algorithm"))),
    labelled (js "Key: ") (written (primarySeal.get (js "keyId"))),
    labelled (js "Manifest fingerprint: ")
      (written (primarySeal.get (js "manifestHash")))]

def referenceLine (event : EventReference) : Option Line := do
  let sequence ← written event.sequence
  let eventType ← written event.eventType
  let eventId ← written event.eventId
  let eventHash ← written event.eventHash
  let space : Piece := .label (js " ")
  return [sequence, .label (js ". "), eventType, space, eventId, space, eventHash]

/-- The lines of a report before the structured detail. -/
def reportLines (report : EvidenceReport) : Option (List Line) :=
  allLines (headLines report ++ requesterLines report ++
    admissionLines report.context.productionAdmission ++
    identityLines report.profile report.identity ++
    assuranceLines report.context.authenticationAssurance ++ outcomeLines report.outcomes ++
    deliveryLines report.context.notificationDelivery ++ timingLines report.activityTiming ++
    contextLines report.contextEvidence ++ timelineLines report.timeline ++
    limitationLines report.limitations ++ integrityLines report.context.primarySeal ++
    heading (js "EVENT REFERENCES") ++
    report.context.eventReferences.map referenceLine)

/-- JSON.parse of the canonical text of the detail, which JSON.stringify indents. -/
def detailValue (detail : Value) : Option Value :=
  (canonicalJSON detail).toOption.bind parse

def detailTexts : Option Value → Option (List JsString)
  | none => some []
  | some detail => do
      let parsed ← detailValue detail
      let text ← prettyText [] parsed
      return [[], js "STRUCTURED DETAIL", text]

def reportText (report : EvidenceReport) : Option JsString := do
  let lines ← reportLines report
  let detail ← detailTexts report.detail
  return join [10] (lines.map lineText ++ detail) ++ [10]

end Vasi.EvidenceReports
