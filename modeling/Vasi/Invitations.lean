import Mathlib.Logic.Relation
import Vasi.Productization

/-!
# Invitations

createInvitation with deliverInvitation and recordInvitationDelivery, and
acceptInvitation, as sessions that are interleaved statement by statement at read
committed isolation. A statement sees the committed rows; its rows are locked until its
transaction ends, and a statement that meets a locked row is not enabled until the row
is free. An insert waits for uncommitted rows with its key. A session may crash, or a
statement fail, at any point. The mail goes out between two transactions, and may have
gone out whatever the provider answers.

The user table is outside: an account may exist or not when it is asked for. The audit
rows and the text of the mail are left out. The rule for an e-mail domain is the
platform's, and so is the case mapping of the database.
-/
namespace Vasi.Invitations

open JsValue Validation
open Productization (asciiLower isLowerHex)

/-- What the code takes from outside. `lower` is the database's, `toLowerCase` the program's. -/
structure Platform where
  toLowerCase : JsString → JsString
  lower : JsString → JsString
  emailDomain : JsString → Option JsString
  sha256 : JsString → JsString

inductive DeliveryStatus where
  | pending
  | providerAccepted
  | failed
deriving DecidableEq

/-- A vasi_invitation row. Times are milliseconds. -/
structure Invitation where
  id : JsString
  email : JsString
  tokenHash : JsString
  invitedBy : JsString
  expiresAt : ℕ
  sourceCommandId : Option JsString
  deliveryStatus : DeliveryStatus
  acceptedAt : Option ℕ
  acceptedBy : Option JsString
  revokedAt : Option ℕ
deriving DecidableEq

/-- `"acceptedAt" is null and "revokedAt" is null` -/
def Invitation.Live (row : Invitation) : Prop := row.acceptedAt = none ∧ row.revokedAt = none

instance (row : Invitation) : Decidable row.Live := inferInstanceAs (Decidable (_ ∧ _))

/-- A call of createInvitation with its input accepted. -/
structure Call where
  email : JsString
  actorUserId : JsString
  commandId : Option JsString

/-- What a creation returns. -/
structure Receipt where
  id : JsString
  email : JsString
  expiresAt : ℕ

/-! ## The code outside the statements -/

def INVITATION_LIFETIME_MS : ℕ := 7 * 24 * 60 * 60 * 1000

def InvitationError (code message : JsString) : Failure := ⟨code, message⟩

/-- The pattern of uuid. -/
def uuid (text : JsString) : Bool :=
  text.length == 36 &&
    text.zipIdx.all fun entry =>
      if entry.2 ∈ [8, 13, 18, 23] then entry.1 = 45
      else if entry.2 = 14 then 49 ≤ entry.1.val && entry.1.val ≤ 56
      else if entry.2 = 19 then asciiLower entry.1 ∈ [56, 57, 97, 98]
      else isLowerHex (asciiLower entry.1)

section

variable (platform : Platform)

/-- `sourceCommandId?.trim().toLowerCase()`, if it is not empty. -/
def commandId (sourceCommandId : Option JsString) : Option JsString :=
  (sourceCommandId.map fun text => platform.toLowerCase (trim text)).filter
    fun text => decide (text ≠ [])

/-- The checks of createInvitation ahead of the first statement. -/
def acceptCall (emailValue actorUserId : JsString) (sourceCommandId : Option JsString) :
    Checked Call :=
  let email := platform.toLowerCase (trim emailValue)
  if (platform.emailDomain email).isNone then
    .error (InvitationError (js "invalid") (js "Enter a valid email address."))
  else if (commandId platform sourceCommandId).any fun text => !uuid text then
    .error (InvitationError (js "invalid") (js "The invitation command identifier is invalid."))
  else .ok ⟨email, actorUserId, commandId platform sourceCommandId⟩

def existingAccount : Failure :=
  InvitationError (js "existing_account") (js "That email already has a V·Sign account.")

def replayInvitation (row : Invitation) (email actorUserId : JsString) : Checked Receipt :=
  if platform.toLowerCase row.email ≠ email ∨ row.invitedBy ≠ actorUserId then
    .error (InvitationError (js "source_conflict")
      (js "This company provisioning command is already bound to another invitation."))
  else if row.revokedAt ≠ none ∨ row.deliveryStatus = .failed then
    .error (InvitationError (js "delivery_failed")
      (js "The command-bound invitation was not delivered and is no longer active."))
  else if row.deliveryStatus ≠ .providerAccepted then
    .error (InvitationError (js "delivery_unknown")
      (js "The invitation delivery outcome is unknown; it will not be sent again automatically."))
  else .ok ⟨row.id, email, row.expiresAt⟩

/-- What the provider makes of a mail. -/
inductive Outcome where
  | accepted
  | failed
  | unknown
deriving DecidableEq

def outcomeUnknown : Failure :=
  InvitationError (js "delivery_unknown")
    (js "The invitation provider outcome is unknown; it will not be sent again automatically.")

/-- The outcomes that recordInvitationDelivery writes. -/
def Outcome.status : Outcome → DeliveryStatus
  | accepted => .providerAccepted
  | _ => .failed

/-- The answer of a creation, once its outcome has been recorded or could not be. -/
def deliveryAnswer (row : Invitation) (outcome : Outcome) (recorded : Bool) : Checked Receipt :=
  if outcome = .accepted then
    if recorded then .ok ⟨row.id, row.email, row.expiresAt⟩
    else .error (InvitationError (js "delivery_unknown")
      (js "The provider accepted the invitation, but its delivery receipt could not be committed."))
  else .error (InvitationError (js "delivery_failed") (js "The invitation could not be delivered."))

/-- `/^[A-Za-z0-9_-]{40,64}$/` -/
def isToken (token : JsString) : Bool :=
  decide (40 ≤ token.length) && decide (token.length ≤ 64) &&
    token.all fun unit => isLowerLetter unit || isUpperLetter unit || isDigit unit ||
      unit.val ∈ [95, 45]

structure User where
  email : JsString
  id : JsString

/-- The row that getInvitation finds for a token. -/
def getInvitation (token : JsString) (now : ℕ) (rows : List Invitation) : Option Invitation :=
  if isToken token then
    rows.find? fun row => row.tokenHash = platform.sha256 token && decide row.Live &&
      decide (now < row.expiresAt)
  else none

/-- The row of a user who accepts, if there is one to accept. -/
def presented (token : JsString) (user : User) (now : ℕ) (rows : List Invitation) :
    Option Invitation :=
  (getInvitation platform token now rows).filter fun row =>
    decide (platform.toLowerCase row.email = platform.toLowerCase user.email)

/-! ## The rows -/

/-- The row that deliverInvitation inserts. -/
def newInvitation (call : Call) (id token : JsString) (now : ℕ) : Invitation where
  id
  email := call.email
  tokenHash := platform.sha256 token
  invitedBy := call.actorUserId
  expiresAt := now + INVITATION_LIFETIME_MS
  sourceCommandId := call.commandId
  deliveryStatus := .pending
  acceptedAt := none
  acceptedBy := none
  revokedAt := none

/-- The live rows of an address, as the first update of deliverInvitation finds them. -/
def superseded (email : JsString) (rows : List Invitation) : List JsString :=
  (rows.filter fun row => platform.lower row.email = email ∧ row.Live).map Invitation.id

/-- Update the rows with these identifiers. -/
def updateRows (ids : List JsString) (change : Invitation → Invitation)
    (rows : List Invitation) : List Invitation :=
  rows.map fun row => if row.id ∈ ids then change row else row

def Invitation.revoke (now : ℕ) (row : Invitation) : Invitation := { row with revokedAt := some now }

/-- The update of recordInvitationDelivery. -/
def Invitation.record (now : ℕ) (outcome : Outcome) (row : Invitation) : Invitation :=
  { row with
    deliveryStatus := outcome.status
    revokedAt := if outcome.status = .failed then some now else row.revokedAt }

def Invitation.accept (now : ℕ) (user : User) (row : Invitation) : Invitation :=
  { row with acceptedAt := some now, acceptedBy := some user.id }

/-! ## Sessions -/

/-- Where a creation stands. `began` is the time of its transaction. -/
inductive Creating where
  | waiting
  | locked
  | checking
  | selected (began : ℕ) (ids : List JsString)
  | revoked (began : ℕ) (ids : List JsString)
  | inserted (began : ℕ) (ids : List JsString) (row : Invitation)
  | sending (row : Invitation)
  | reporting (row : Invitation) (outcome : Outcome)
  | opened (began : ℕ) (row : Invitation) (outcome : Outcome)
  | recorded (began : ℕ) (row : Invitation) (outcome : Outcome)

/-- Where an acceptance stands. -/
inductive Accepting where
  | found (id : JsString)
  | opened (began : ℕ) (id : JsString)
  | accepted (began : ℕ) (id : JsString)

inductive Session where
  | creating (call : Call) (phase : Creating)
  | accepting (user : User) (phase : Accepting)

/-- The rows that a session has locked. -/
def Session.locks : Session → List JsString
  | .creating _ (.revoked _ ids) => ids
  | .creating _ (.inserted _ ids _) => ids
  | .creating _ (.recorded _ row _) => [row.id]
  | .accepting _ (.accepted _ id) => [id]
  | _ => []

/-- The row that a session has inserted and not committed. -/
def Session.staged : Session → Option Invitation
  | .creating _ (.inserted _ _ row) => some row
  | _ => none

/-- The invitation whose mail a session is about to send. -/
def Session.sends : Session → Option JsString
  | .creating _ (.sending row) => some row.id
  | _ => none

/-- The session has the advisory lock of the command, which it keeps to its end. -/
def Session.Holds (command : JsString) : Session → Prop
  | .creating _ .waiting => False
  | .creating call _ => call.commandId = some command
  | .accepting _ _ => False

/-- A mail that went out. -/
structure Mail where
  invitationId : JsString
  sourceCommandId : Option JsString

structure State where
  rows : List Invitation
  sessions : ℕ → Option Session
  clock : ℕ
  mails : List Mail
  answers : List (Call × Checked Receipt)

def State.set (state : State) (id : ℕ) (session : Option Session) : State :=
  { state with sessions := Function.update state.sessions id session }

/-- A creation ends with an answer. -/
def State.answer (state : State) (id : ℕ) (call : Call) (outcome : Checked Receipt) : State :=
  { state.set id none with answers := state.answers ++ [(call, outcome)] }

/-- No other session has locked the row. -/
def State.Free (state : State) (id : ℕ) (row : JsString) : Prop :=
  ∀ other session, other ≠ id → state.sessions other = some session → row ∉ session.locks

/-- The first phase of a creation; without a command there is no lock to take. -/
def Call.start (call : Call) : Creating := if call.commandId = none then .checking else .waiting

/-- Two rows can both be in the table: its key and its two unique indexes. -/
structure Distinct (first second : Invitation) : Prop where
  id : first.id ≠ second.id
  email : first.Live → second.Live → platform.lower first.email ≠ platform.lower second.email
  command : ∀ command, first.sourceCommandId = some command →
    second.sourceCommandId ≠ some command

/-- One statement, commit or mail of a session. Under `careful` no failed delivery is
recorded for an invitation that has been accepted. -/
inductive Step (careful : Prop) : State → State → Prop
  | tick {state : State} {later : ℕ} (forward : state.clock ≤ later) :
      Step careful state { state with clock := later }
  | call {state : State} {id : ℕ} {emailValue actorUserId : JsString}
      {sourceCommandId : Option JsString} {call : Call} (idle : state.sessions id = none)
      (accepted : acceptCall platform emailValue actorUserId sourceCommandId = .ok call) :
      Step careful state (state.set id (some (.creating call call.start)))
  | lock {state : State} {id : ℕ} {call : Call} {command : JsString}
      (waits : state.sessions id = some (.creating call .waiting))
      (bound : call.commandId = some command)
      (free : ∀ other session, state.sessions other = some session → ¬ session.Holds command) :
      Step careful state (state.set id (some (.creating call .locked)))
  | replay {state : State} {id : ℕ} {call : Call} {command : JsString} {row : Invitation}
      (locked : state.sessions id = some (.creating call .locked))
      (bound : call.commandId = some command)
      (prior : state.rows.find? (fun row => row.sourceCommandId = some command) = some row) :
      Step careful state
        (state.answer id call (replayInvitation platform row call.email call.actorUserId))
  | proceed {state : State} {id : ℕ} {call : Call} {command : JsString}
      (locked : state.sessions id = some (.creating call .locked))
      (bound : call.commandId = some command)
      (absent : state.rows.find? (fun row => row.sourceCommandId = some command) = none) :
      Step careful state (state.set id (some (.creating call .checking)))
  | hasAccount {state : State} {id : ℕ} {call : Call}
      (checking : state.sessions id = some (.creating call .checking)) :
      Step careful state (state.answer id call (.error existingAccount))
  | select {state : State} {id : ℕ} {call : Call}
      (checking : state.sessions id = some (.creating call .checking)) :
      Step careful state (state.set id (some (.creating call
        (.selected state.clock (superseded platform call.email state.rows)))))
  | revoke {state : State} {id : ℕ} {call : Call} {began : ℕ} {ids : List JsString}
      (selected : state.sessions id = some (.creating call (.selected began ids)))
      (free : ∀ row ∈ ids, state.Free id row) :
      Step careful state (state.set id (some (.creating call (.revoked began
        (ids.filter fun row => state.rows.any fun stored => stored.id = row && decide stored.Live)))))
  | insert {state : State} {id : ℕ} {call : Call} {began : ℕ} {ids : List JsString}
      {newId token : JsString}
      (revoked : state.sessions id = some (.creating call (.revoked began ids)))
      (unique : ∀ row ∈ updateRows ids (Invitation.revoke began) state.rows,
        Distinct platform row (newInvitation platform call newId token state.clock))
      (others : ∀ other session, other ≠ id → state.sessions other = some session →
        ∀ row ∈ session.staged,
          Distinct platform row (newInvitation platform call newId token state.clock)) :
      Step careful state (state.set id (some (.creating call (.inserted began ids
        (newInvitation platform call newId token state.clock)))))
  | commit {state : State} {id : ℕ} {call : Call} {began : ℕ} {ids : List JsString}
      {row : Invitation}
      (inserted : state.sessions id = some (.creating call (.inserted began ids row))) :
      Step careful state { state.set id (some (.creating call (.sending row))) with
        rows := updateRows ids (Invitation.revoke began) state.rows ++ [row] }
  | send {state : State} {id : ℕ} {call : Call} {row : Invitation} {outcome : Outcome}
      (sending : state.sessions id = some (.creating call (.sending row)))
      (known : outcome ≠ .unknown) :
      Step careful state { state.set id (some (.creating call (.reporting row outcome))) with
        mails := state.mails ++ [⟨row.id, call.commandId⟩] }
  | sendUnknown {state : State} {id : ℕ} {call : Call} {row : Invitation}
      (sending : state.sessions id = some (.creating call (.sending row))) :
      Step careful state { state.answer id call (.error outcomeUnknown) with
        mails := state.mails ++ [⟨row.id, call.commandId⟩] }
  | sendNothing {state : State} {id : ℕ} {call : Call} {row : Invitation}
      (sending : state.sessions id = some (.creating call (.sending row))) :
      Step careful state (state.set id (some (.creating call (.reporting row .failed))))
  | report {state : State} {id : ℕ} {call : Call} {row : Invitation} {outcome : Outcome}
      (reporting : state.sessions id = some (.creating call (.reporting row outcome))) :
      Step careful state
        (state.set id (some (.creating call (.opened state.clock row outcome))))
  | record {state : State} {id : ℕ} {call : Call} {began : ℕ} {row stored : Invitation}
      {outcome : Outcome}
      (opened : state.sessions id = some (.creating call (.opened began row outcome)))
      (found : stored ∈ state.rows) (same : stored.id = row.id)
      (pending : stored.deliveryStatus = .pending) (free : state.Free id row.id)
      (guarded : careful → outcome.status = .failed → stored.acceptedAt = none) :
      Step careful state (state.set id (some (.creating call (.recorded began row outcome))))
  | recordFails {state : State} {id : ℕ} {call : Call} {began : ℕ} {row : Invitation}
      {outcome : Outcome}
      (opened : state.sessions id = some (.creating call (.opened began row outcome))) :
      Step careful state (state.answer id call (deliveryAnswer row outcome false))
  | commitRecord {state : State} {id : ℕ} {call : Call} {began : ℕ} {row : Invitation}
      {outcome : Outcome}
      (recorded : state.sessions id = some (.creating call (.recorded began row outcome))) :
      Step careful state { state.answer id call (deliveryAnswer row outcome true) with
        rows := updateRows [row.id] (Invitation.record began outcome) state.rows }
  | present {state : State} {id : ℕ} {token : JsString} {user : User} {row : Invitation}
      (idle : state.sessions id = none)
      (found : presented platform token user state.clock state.rows = some row) :
      Step careful state (state.set id (some (.accepting user (.found row.id))))
  | openAcceptance {state : State} {id : ℕ} {user : User} {row : JsString}
      (found : state.sessions id = some (.accepting user (.found row))) :
      Step careful state (state.set id (some (.accepting user (.opened state.clock row))))
  | accept {state : State} {id : ℕ} {user : User} {began : ℕ} {row : JsString}
      {stored : Invitation}
      (opened : state.sessions id = some (.accepting user (.opened began row)))
      (found : stored ∈ state.rows) (same : stored.id = row) (live : stored.Live)
      (unexpired : began < stored.expiresAt) (free : state.Free id row) :
      Step careful state (state.set id (some (.accepting user (.accepted began row))))
  | commitAcceptance {state : State} {id : ℕ} {user : User} {began : ℕ} {row : JsString}
      (accepted : state.sessions id = some (.accepting user (.accepted began row))) :
      Step careful state { state.set id none with
        rows := updateRows [row] (Invitation.accept began user) state.rows }
  | crash {state : State} (id : ℕ) : Step careful state (state.set id none)

end

end Vasi.Invitations
