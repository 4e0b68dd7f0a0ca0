import Vasi.Engine

/-!
# A small platform

A platform on which runs can be evaluated, a tenant that has been admitted, one
participant and the events of one session. The digest is a polynomial in the
units of the text and a signature is the digest of what it signs; neither is
secure, and no result rests on more than that they can be computed.
-/
namespace Vasi.Sample

open JsValue IsoTime ReadCommitted EngineRows EvidenceEvents EngineCases EvidenceStore Sealing
  Respond EngineEffects Engine Admission

/-- Sixty-four hexadecimal digits that depend on the whole text. -/
def digest (text : JsString) : JsString :=
  hexDigits 64 (text.foldl (fun value unit => (value * 257 + unit.val + 1) % 2 ^ 256) 0)

def env : Environment where
  sha256Hex := digest
  order := id
  rearranges := fun _ => List.Perm.refl _
  toLowerCase := List.map fun unit => if 65 ≤ unit.val ∧ unit.val ≤ 90 then unit + 32 else unit

def provider : SigningProvider where
  keyId := js "key"
  publicJWK := ⟨[], List.nodup_nil⟩
  sign := digest
  certificate := none

def verifier : Verifier where
  sections := fun _ _ => []
  verifySignature := fun manifestText _ signature => signature = digest manifestText
  verifyCertificateSeal := fun manifestText candidate => candidate.signature = digest manifestText
  sections_canonical := fun _ _ _ _ => rfl
  verifySignature_canonical := fun _ _ _ _ _ => rfl
  verifyCertificateSeal_same := fun _ _ _ same => by rw [same.signature]

def platform : Platform := ⟨env, provider, verifier⟩

/-- The object without members. -/
def nothing : Document := ⟨.object [], by simp [WellFormed, WellFormedMembers]⟩

def participant : Actor where
  authenticatedAt := nothing
  authentication := nothing
  email := js "participant@example.test"
  gatewaySessionId := js "session"
  principalId := js "participant"
  requestContext := nothing
  roles := nothing

def tenantId : Uuid := 7

/-- One tenant, admitted, and nothing issued. -/
def store : EngineStore :=
  (∅ : EngineStore).insert (.admission tenantId)
    (⟨1, ⟨fun _ => .approved ⟨0, [], [], []⟩⟩⟩ : AdmissionRow)

theorem store_initial : Initial store := by
  intro key other
  exact AList.lookup_insert_ne (other tenantId)

def idle : EngineState := State.idle Row Outside Point Outcome store

/-- What a statement takes from outside: both clocks, a new identifier, and the row it comes to. -/
def reading (clock databaseClock : Time) (uuid : Uuid) (first : Uuid) : Outside where
  clock := clock
  databaseClock := databaseClock
  uuid := uuid
  first := first
  dataRequest := none
  binding := .error []
  thrown := none

/-- Both clocks agree. -/
def moment (now : Time) (uuid : Uuid) : Outside := reading now now uuid uuid

/-- A session that runs its statements and commits. -/
def session (id : SessionId) (operation : Operation) (inputs : List Outside) : List EngineLabel :=
  .openSession id operation :: (inputs.map (Label.statement id) ++ [.commit id])

/-- A terms request that expires after a second, and the participant's command to open it. -/
def terms : TermsIssue := ⟨tenantId, participant.email, 1000, participant, nothing⟩

def requestId : Uuid := 1

def opening : ParticipantCommand := ⟨requestId, participant, nothing⟩

/-- Issuing the request. -/
def issuing : List EngineLabel :=
  session 1 (.issueTermsRequest terms) [moment 0 0, moment 0 0, moment 0 requestId, moment 0 2, moment 0 3, moment 0 0]

/-- The participant opens it. -/
def openingSession : List EngineLabel :=
  session 2 (.openAssignment opening) [moment 1 0, moment 1 0, moment 1 4, moment 1 5]

/-- The participant's answer to the terms request. -/
def answer : RespondCommand where
  requestId := requestId
  actor := participant
  payload := nothing
  interactionId := 4
  activityId := none
  intent := .submit
  response := .null
  mediaCompletion := .ok .null
  completionPayload := nothing
  notification := nothing
  manifest := fun _ _ _ _ => nothing

/-- A state that a list of events leads to is reachable. -/
theorem execute_reachable {guard : EngineGuard} {labels : List EngineLabel} {state : EngineState}
    (followed : execute (start platform) guard idle labels = some state) :
    Reachable platform guard state :=
  ⟨store, store_initial, execute_runs (start platform) labels idle state followed⟩

end Vasi.Sample
