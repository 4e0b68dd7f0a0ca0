import Vasi.DraftStability
import Vasi.MediaCredit

/-!
# Saving a draft again

A validated workflow document is validated once more, as it is or as it is read back from
the store. A document without external media is returned whole, with the same hash, and a
document with external media is refused.
-/
namespace Vasi.DraftStability

open JsValue Validation CanonicalJson Activities Workflow Conformance Redaction

/-! ## Documents -/

/-- The methods in their listed order are selected once more. -/
theorem filter_selected {methods known : List JsString} :
    known.filter (· ∈ known.filter (· ∈ methods)) = known.filter (· ∈ methods) := by
  refine List.filter_congr fun method inside => ?_
  simp [List.mem_filter, inside]

theorem methods_proper {value : Value} {methods : List JsString}
    (accepted : normalizeMethods value = .ok methods) :
    methods ≠ [] ∧ methods.length ≤ AUTHENTICATION_ASSURANCE_METHODS.length ∧ methods.Nodup ∧
      (∀ method ∈ methods, method ∈ AUTHENTICATION_ASSURANCE_METHODS) ∧
      (js "any_verified" ∈ methods → methods.length = 1) ∧
      AUTHENTICATION_ASSURANCE_METHODS.filter (· ∈ methods) = methods := by
  have distinct : AUTHENTICATION_ASSURANCE_METHODS.Nodup := by decide
  unfold normalizeMethods at accepted
  split at accepted
  · rename_i items supplied
    split at accepted
    · cases accepted
    · rename_i sized
      push Not at sized
      split at accepted
      · rename_i own found
        split at accepted
        · rename_i proper
          obtain ⟨apart, known, alone⟩ := proper
          obtain rfl := Except.ok.inj accepted
          have inside : ∀ method, method ∈ AUTHENTICATION_ASSURANCE_METHODS.filter (· ∈ own) ↔
              method ∈ own := by
            intro method
            rw [List.mem_filter, decide_eq_true_eq]
            exact ⟨fun both => both.2, fun there => ⟨known method there, there⟩⟩
          have same : (AUTHENTICATION_ASSURANCE_METHODS.filter (· ∈ own)).Perm own :=
            (List.perm_ext_iff_of_nodup (distinct.filter _) apart).mpr inside
          refine ⟨?_, List.length_filter_le _ _, distinct.filter _, ?_, ?_, filter_selected⟩
          · rintro none
            rw [none] at same
            obtain rfl := List.nil_perm.mp same
            rw [stringItems_iff] at found
            exact sized.1 found
          · exact fun method there => known method ((inside method).mp there)
          · intro there
            rw [same.length_eq]
            exact alone ((inside _).mp there)
        · cases accepted
      · cases accepted
  · cases accepted

theorem reminderOffset_range {number : ℕ} {value : Value} {offset : ℕ}
    (accepted : reminderOffset number value = .ok offset) : 1 ≤ offset ∧ offset ≤ 8760 := by
  unfold reminderOffset at accepted
  split at accepted
  · rename_i own inside
    obtain rfl := Except.ok.inj accepted
    exact safeIntegerWith_range inside
  · cases accepted

theorem reminders_proper {value : Value} {reminders : List ℕ}
    (accepted : normalizeReminders value = .ok reminders) :
    reminders.length ≤ 8 ∧ (∀ offset ∈ reminders, 1 ≤ offset ∧ offset ≤ 8760) ∧
      reminders.dedup.insertionSort (· ≥ ·) = reminders := by
  unfold normalizeReminders at accepted
  split at accepted
  · split at accepted
    · cases accepted
    · rename_i items _ sized
      obtain ⟨offsets, each, accepted⟩ := bind_ok accepted
      obtain rfl := Except.ok.inj accepted
      have same := List.perm_insertionSort (· ≥ ·) offsets.dedup
      have few : offsets.dedup.length ≤ offsets.length := (List.dedup_sublist offsets).length_le
      refine ⟨?_, ?_, ?_⟩
      · rw [same.length_eq]
        have length := normalizeEach_length each
        omega
      · intro offset there
        exact (normalizeEach_settled (fun _ _ _ one => reminderOffset_range one) each).2 offset
          (List.mem_dedup.mp (same.mem_iff.mp there))
      · have distinct : (offsets.dedup.insertionSort (· ≥ ·)).Nodup :=
          same.nodup_iff.mpr (List.nodup_dedup offsets)
        rw [distinct.dedup]
        exact (List.pairwise_insertionSort (· ≥ ·) offsets.dedup).insertionSort_eq
  · cases accepted

section Documents

variable {keep : Value → Value} (keeps : Keeps keep) {platform : Media.Platform}

include keeps

theorem authenticationMethods_again {value : Value} {methods : List JsString}
    (accepted : normalizeMethods value = .ok methods) :
    normalizeMethods (keep (.array (methods.map .string))) = .ok methods := by
  obtain ⟨some, few, distinct, known, alone, ordered⟩ := methods_proper accepted
  have sized : ¬ ((methods.map Value.string) = [] ∨
      (methods.map Value.string).length > AUTHENTICATION_ASSURANCE_METHODS.length) := by
    rw [List.map_eq_nil_iff, List.length_map]
    push Not
    exact ⟨some, few⟩
  rw [keeps.strings]
  unfold normalizeMethods
  simp only [orDefault, Value.isPresent, if_true, if_neg sized, stringItems_iff.mpr rfl,
    if_pos (And.intro distinct (And.intro known alone)), ordered]

theorem reminders_again {value : Value} {reminders : List ℕ}
    (accepted : normalizeReminders value = .ok reminders) :
    normalizeReminders (keep (.array (reminders.map wholeNumber))) = .ok reminders := by
  obtain ⟨few, inside, ordered⟩ := reminders_proper accepted
  have each : normalizeEach reminderOffset 1 ((reminders.map wholeNumber).map keep) =
      .ok reminders := by
    clear accepted few ordered
    generalize 1 = number
    induction reminders generalizing number with
    | nil => rfl
    | cons offset rest inductionHypothesis =>
        rw [List.forall_mem_cons] at inside
        have here : Value.member [(js "offset", wholeNumber offset)] (js "offset") =
            wholeNumber offset := rfl
        have read : safeIntegerWith invalid
            (Value.member [(js "offset", wholeNumber offset)] (js "offset")) [] 1 8760 =
              .ok offset :=
          keeps_id.integerAt (fun _ => rfl) here inside.1 (by decide) _
        rw [here] at read
        have first : reminderOffset number (keep (wholeNumber offset)) = .ok offset := by
          rw [keeps.whole, reminderOffset, read]
        refine (bind_of first).trans ?_
        exact bind_of (inductionHypothesis inside.2 (number + 1))
  have sized : ¬ ((reminders.map wholeNumber).map keep).length > 8 := by
    rw [List.length_map, List.length_map]
    omega
  rw [keeps.array _ (mapped_defined (fun _ => rfl) _)]
  unfold normalizeReminders
  simp only [orDefault, Value.isPresent, if_true, if_neg sized]
  refine (bind_of each).trans ?_
  rw [ordered]
  rfl

/-- A member that is an object is found by the check of an object that may be left out. -/
theorem optionalObjectAt (fail : JsString → Failure) (name : JsString) {kept members : Members}
    (member : ∀ key, Value.member kept key = keep (Value.member members key)) {key : JsString}
    {own : Members} (here : Value.member members key = .object own) (keys : List JsString)
    (listed : own.map Prod.fst = keys) (distinct : keys.Nodup) :
    ∃ inner, optionalObjectWith fail (Value.member kept key) name keys = .ok inner ∧
      ∀ key, Value.member inner key = keep (Value.member own key) := by
  obtain ⟨inner, same, read, under⟩ := keeps.strict fail name (rfl : Value.object own = _) keys
    listed distinct (fun _ inside => inside)
  refine ⟨inner, ?_, under⟩
  rw [same] at read
  rw [member, here, same]
  exact read

end Documents

section Drafts

variable {keep : Value → Value} (keeps : Keeps keep) {platform : Media.Platform}

include keeps

theorem activities_again {value : Value} {activities : List Activity}
    (accepted : validateActivities platform value = .ok activities)
    (other : ∀ activity ∈ activities, activity.content.type ≠ .externalMedia) :
    validateActivities platform (keep (.array (activities.map Activity.toValue))) =
      .ok activities := by
  unfold validateActivities at accepted
  dsimp only at accepted
  split at accepted
  · split at accepted
    · cases accepted
    · rename_i items sized
      obtain ⟨normalized, each, accepted⟩ := bind_ok accepted
      split at accepted
      · rename_i distinct
        obtain ⟨_, forward, accepted⟩ := bind_ok accepted
        obtain rfl := Except.ok.inj accepted
        have length := normalizeEach_length each
        have sizedAgain : ¬ (((normalized.map Activity.toValue).map keep).length < 1 ∨
            ((normalized.map Activity.toValue).map keep).length > 50) := by
          rw [List.length_map, List.length_map, length]
          exact sized
        have one : ∀ number value activity,
            normalizeActivityDefinition platform number value = .ok activity →
              activity.content.type ≠ .externalMedia → ∀ again,
                normalizeActivityDefinition platform again (keep activity.toValue) =
                  .ok activity :=
          fun _ _ _ defined media again => activity_again keeps defined media again
        have eachAgain : normalizeEach (normalizeActivityDefinition platform) 1
            ((normalized.map Activity.toValue).map keep) = .ok normalized :=
          normalizeEach_again _ one each other 1
        rw [keeps.array _ (mapped_defined (fun _ => rfl) _)]
        unfold validateActivities
        dsimp only
        rw [if_neg sizedAgain]
        refine (bind_of eachAgain).trans ?_
        rw [if_pos distinct]
        exact bind_of forward
      · cases accepted
  · cases accepted

omit keeps in
theorem oneOfWithDefault_again {value : Value} {fallback : JsString} {allowed : List JsString}
    {message text : JsString} (accepted : oneOfWithDefault value fallback allowed message =
      .ok text) : oneOfWithDefault (.string text) fallback allowed message = .ok text := by
  unfold oneOfWithDefault at accepted
  split at accepted
  · split at accepted
    · rename_i listed
      obtain rfl := Except.ok.inj accepted
      exact if_pos listed
    · cases accepted
  · cases accepted

omit keeps in
theorem optionalSafeInteger_range {value : Value} {field : JsString} {minimum maximum : ℕ}
    {number : Option ℕ}
    (accepted : optionalSafeInteger value field minimum maximum = .ok number) :
    ∀ own ∈ number, minimum ≤ own ∧ own ≤ maximum := by
  unfold optionalSafeInteger at accepted
  split at accepted
  · obtain ⟨own, inside, rfl⟩ := checkedMap_ok accepted
    intro other there
    obtain rfl := Option.some.inj there
    exact safeIntegerWith_range inside
  · obtain rfl := Except.ok.inj accepted
    exact nofun

theorem optionalIntegerAt {kept members : Members}
    (member : ∀ key, Value.member kept key = keep (Value.member members key)) {key : JsString}
    {number minimum maximum : ℕ} (here : Value.member members key = wholeNumber number)
    (inside : minimum ≤ number ∧ number ≤ maximum) (safe : maximum ≤ 2 ^ 53 - 1)
    (field : JsString) :
    optionalSafeInteger (Value.member kept key) field minimum maximum = .ok (some number) := by
  have read : safeIntegerWith invalid (Value.member kept key) field minimum maximum =
      .ok number := keeps.integerAt member here inside safe field
  rw [keeps.wholeAt member here] at read ⊢
  exact map_of read

theorem assurance_again {value : Value} {assurance : AuthenticationAssurance}
    (accepted : normalizeAuthenticationAssurance value = .ok assurance) :
    normalizeAuthenticationAssurance (keep assurance.toValue) = .ok assurance := by
  have proper : (∃ given, normalizeMethods given = .ok assurance.acceptedMethods) ∧
      ∀ own ∈ assurance.maximumAgeSeconds, 300 ≤ own ∧ own ≤ 2592000 := by
    unfold normalizeAuthenticationAssurance at accepted
    split at accepted
    · obtain ⟨input, -, accepted⟩ := bind_ok accepted
      obtain ⟨methods, chosen, accepted⟩ := bind_ok accepted
      obtain ⟨seconds, aged, accepted⟩ := bind_ok accepted
      obtain rfl := Except.ok.inj accepted
      exact ⟨⟨_, chosen⟩, optionalSafeInteger_range aged⟩
    · obtain rfl := Except.ok.inj accepted
      exact ⟨⟨.undefined, rfl⟩, nofun⟩
  obtain ⟨⟨given, chosen⟩, aged⟩ := proper
  obtain ⟨methods, seconds⟩ := assurance
  obtain ⟨kept, same, read, member⟩ := keeps.strict invalid (js "authentication assurance")
    (rfl : AuthenticationAssurance.toValue ⟨methods, seconds⟩ = _)
    [js "acceptedMethods", js "maximumAgeSeconds"] rfl (by decide) (fun _ inside => inside)
  have methodsAt : normalizeMethods (Value.member kept (js "acceptedMethods")) =
      .ok methods := by
    rw [member]
    exact authenticationMethods_again keeps chosen
  have secondsAt : optionalSafeInteger (Value.member kept (js "maximumAgeSeconds"))
      (js "maximumAgeSeconds") 300 2592000 = .ok seconds := by
    cases seconds with
    | none =>
        have here : Value.member kept (js "maximumAgeSeconds") = .null := by
          rw [member]
          exact keeps.null
        rw [here]
        rfl
    | some number => exact optionalIntegerAt keeps member rfl (aged number rfl) (by decide) _
  rw [same] at read ⊢
  unfold normalizeAuthenticationAssurance
  simp only [Value.isPresent, if_true]
  refine (bind_of read).trans ?_
  refine (bind_of methodsAt).trans ?_
  exact bind_of secondsAt

end Drafts

/-! ## Saving again -/

section Saving

variable {keep : Value → Value} (keeps : Keeps keep) {platform : Media.Platform}

theorem profile_fits {value : Value} {name fallback profile : JsString}
    (accepted : normalizeNamedProfile value name fallback = .ok profile)
    (fits : Fits 1 128 fallback) : Fits 1 128 profile := by
  obtain ⟨input, -, accepted⟩ := bind_ok accepted
  obtain ⟨own, given, accepted⟩ := bind_ok accepted
  obtain rfl := Except.ok.inj accepted
  exact default_fits given fits

theorem schedule_proper {value : Value} {schedule : Schedule}
    (accepted : normalizeSchedule value = .ok schedule) :
    (1 ≤ schedule.defaultDueDays ∧ schedule.defaultDueDays ≤ 365) ∧
      schedule.defaultDueDays ≤ schedule.defaultExpirationDays ∧
      schedule.defaultExpirationDays ≤ 365 := by
  obtain ⟨input, -, accepted⟩ := bind_ok accepted
  obtain ⟨due, dueDays, accepted⟩ := bind_ok accepted
  obtain ⟨expiration, expirationDays, accepted⟩ := bind_ok accepted
  obtain rfl := Except.ok.inj accepted
  have dueInside : 1 ≤ due.getD 7 ∧ due.getD 7 ≤ 365 := by
    cases due with
    | none => decide
    | some own => exact optionalSafeInteger_range dueDays own rfl
  refine ⟨dueInside, ?_⟩
  cases expiration with
  | none =>
      dsimp only [Option.getD_none]
      omega
  | some own => exact optionalSafeInteger_range expirationDays own rfl

section Members

variable {kept members : Members}
  (member : ∀ key, Value.member kept key = keep (Value.member members key)) {key : JsString}

include keeps member

theorem profile_again {profile : JsString}
    (here : Value.member members key = .object [(js "profile", .string profile)])
    (fits : Fits 1 128 profile) (name fallback : JsString) :
    normalizeNamedProfile (Value.member kept key) name fallback = .ok profile := by
  obtain ⟨inner, read, under⟩ := optionalObjectAt keeps invalid name member here
    [js "profile"] rfl (by decide)
  refine (bind_of read).trans ?_
  exact bind_of (keeps.textAt under rfl fits _)

theorem schedule_again {due expiration : ℕ}
    (here : Value.member members key = .object [(js "defaultDueDays", wholeNumber due),
      (js "defaultExpirationDays", wholeNumber expiration)])
    (dueInside : 1 ≤ due ∧ due ≤ 365) (later : due ≤ expiration ∧ expiration ≤ 365) :
    normalizeSchedule (Value.member kept key) = .ok ⟨due, expiration⟩ := by
  obtain ⟨inner, read, under⟩ := optionalObjectAt keeps invalid (js "schedule") member here
    [js "defaultDueDays", js "defaultExpirationDays"] rfl (by decide)
  refine (bind_of read).trans ?_
  refine (bind_of (optionalIntegerAt keeps under rfl dueInside (by decide) _)).trans ?_
  exact bind_of (optionalIntegerAt keeps under rfl later (by decide) _)

theorem notifications_again {value : Value} {notifications : Notifications}
    (accepted : normalizeNotifications value = .ok notifications)
    (here : Value.member members key = .object [
      (js "onCompletion", .bool notifications.onCompletion),
      (js "onIssue", .bool notifications.onIssue),
      (js "reminderHoursBeforeDue",
        .array (notifications.reminderHoursBeforeDue.map wholeNumber))]) :
    normalizeNotifications (Value.member kept key) = .ok notifications := by
  obtain ⟨input, -, accepted⟩ := bind_ok accepted
  obtain ⟨reminders, offsets, accepted⟩ := bind_ok accepted
  replace accepted := Except.ok.inj accepted
  subst accepted
  obtain ⟨inner, read, under⟩ := optionalObjectAt keeps invalid (js "notifications") member here
    [js "onCompletion", js "onIssue", js "reminderHoursBeforeDue"] rfl (by decide)
  have remindersAt : normalizeReminders (Value.member inner (js "reminderHoursBeforeDue")) =
      .ok reminders := by
    rw [under]
    exact reminders_again keeps offsets
  refine (bind_of read).trans ?_
  refine (bind_of remindersAt).trans ?_
  rw [keeps.flagAt under rfl, keeps.flagAt under rfl]
  rfl

theorem completion_again {value : Value} {mode : JsString}
    (accepted : normalizeCompletion value = .ok mode)
    (here : Value.member members key = .object [(js "mode", .string mode)]) :
    normalizeCompletion (Value.member kept key) = .ok mode := by
  obtain ⟨input, -, accepted⟩ := bind_ok accepted
  obtain ⟨inner, read, under⟩ := optionalObjectAt keeps invalid (js "completion") member here
    [js "mode"] rfl (by decide)
  refine (bind_of read).trans ?_
  rw [keeps.stringAt under rfl]
  exact oneOfWithDefault_again accepted

theorem access_again {value : Value} {access : Access}
    (accepted : normalizeAccess value = .ok access)
    (here : Value.member members key = .object [
      (js "authentication", .string access.authentication),
      (js "authenticationAssurance", access.authenticationAssurance.toValue),
      (js "postCompletion", .string access.postCompletion)]) :
    normalizeAccess (Value.member kept key) = .ok access := by
  obtain ⟨input, -, accepted⟩ := bind_ok accepted
  obtain ⟨authentication, verified, accepted⟩ := bind_ok accepted
  obtain ⟨postCompletion, after, accepted⟩ := bind_ok accepted
  obtain ⟨assurance, assured, accepted⟩ := bind_ok accepted
  replace accepted := Except.ok.inj accepted
  subst accepted
  obtain ⟨inner, read, under⟩ := optionalObjectAt keeps invalid (js "access") member here
    [js "authentication", js "authenticationAssurance", js "postCompletion"] rfl (by decide)
  have verifiedAt : oneOfWithDefault (Value.member inner (js "authentication"))
      (js "verified_email") [js "verified_email"]
      (js "Only verified-email participant access is supported.") = .ok authentication := by
    rw [keeps.stringAt under rfl]
    exact oneOfWithDefault_again verified
  have afterAt : oneOfWithDefault (Value.member inner (js "postCompletion"))
      (js "receipt_only") POST_COMPLETION_ACCESS
      (js "The post-completion access policy is unsupported.") = .ok postCompletion := by
    rw [keeps.stringAt under rfl]
    exact oneOfWithDefault_again after
  have assuranceAt : normalizeAuthenticationAssurance
      (Value.member inner (js "authenticationAssurance")) = .ok assurance := by
    rw [under]
    exact assurance_again keeps assured
  refine (bind_of read).trans ?_
  refine (bind_of verifiedAt).trans ?_
  refine (bind_of afterAt).trans ?_
  exact bind_of assuranceAt

end Members

end Saving

/-! ## The types of the activities -/

/-- The type that a definition names. -/
def namedType (definition : Value) : Option JsString :=
  match definition.get (js "type") with
  | .string text => some (trim text)
  | _ => none

/-- The activity definitions of a draft. -/
def draftActivities (draft : Value) : List Value :=
  match draft.get (js "activities") with
  | .array items => items
  | _ => []

theorem normalizeContent_type {platform : Media.Platform} {type : ActivityType} {mode : JsString}
    {value : Value} {content : Content}
    (accepted : normalizeContent platform type mode value = .ok content) :
    content.type = type := by
  cases type <;> obtain ⟨own, -, rfl⟩ := checkedMap_ok accepted <;> rfl

/-- An accepted definition names the type of its activity. -/
theorem definition_type {platform : Media.Platform} {number : ℕ} {value : Value}
    {activity : Activity}
    (accepted : normalizeActivityDefinition platform number value = .ok activity) :
    namedType value = some activity.content.type.name := by
  unfold normalizeActivityDefinition at accepted
  obtain ⟨input, read, accepted⟩ := bind_ok accepted
  obtain ⟨typeName, typed, accepted⟩ := bind_ok accepted
  obtain ⟨shape, -⟩ := strictObject_members read
  have named : namedType value = some typeName := by
    rw [shape]
    show (match Value.member input (js "type") with
      | .string text => some (trim text)
      | _ => none) = some typeName
    generalize Value.member input (js "type") = given at typed ⊢
    cases given with
    | string text =>
        simp only [boundedString, boundedStringWith] at typed
        split at typed
        · cases typed
        · rw [← Except.ok.inj typed]
    | _ => cases typed
  split at accepted
  · cases accepted
  · rename_i type found
    have known : type.name = typeName := by
      simpa using List.find?_some found
    split at accepted
    · obtain ⟨mode, -, accepted⟩ := bind_ok accepted
      obtain ⟨transitionInput, -, accepted⟩ := bind_ok accepted
      obtain ⟨items, -, accepted⟩ := bind_ok accepted
      obtain ⟨content, own, accepted⟩ := bind_ok accepted
      obtain ⟨id, -, accepted⟩ := bind_ok accepted
      obtain ⟨instructions, -, accepted⟩ := bind_ok accepted
      obtain ⟨title, -, accepted⟩ := bind_ok accepted
      obtain ⟨branches, -, accepted⟩ := bind_ok accepted
      obtain ⟨defaultTo, -, accepted⟩ := bind_ok accepted
      obtain rfl := Except.ok.inj accepted
      rw [named, normalizeContent_type own, known]
    · cases accepted

theorem media_named (type : ActivityType) :
    some type.name = some (js "external_media") ↔ type = .externalMedia := by
  cases type <;> decide

/-- A property of each item is a property of each result. -/
theorem normalizeEach_all {α : Type} {normalize : ℕ → Value → Checked α} {given : Value → Prop}
    {made : α → Prop}
    (each : ∀ number value result, normalize number value = .ok result →
      (given value ↔ made result))
    {number : ℕ} {values : List Value} {results : List α}
    (accepted : normalizeEach normalize number values = .ok results) :
    (∀ value ∈ values, given value) ↔ ∀ result ∈ results, made result := by
  induction values generalizing number results with
  | nil =>
      obtain rfl := Except.ok.inj accepted
      simp
  | cons value rest inductionHypothesis =>
      obtain ⟨head, first, accepted⟩ := bind_ok accepted
      obtain ⟨tail, others, accepted⟩ := bind_ok accepted
      obtain rfl := Except.ok.inj accepted
      rw [List.forall_mem_cons, List.forall_mem_cons, each _ _ _ first,
        inductionHypothesis others]

theorem normalizeEach_each {α : Type} {normalize : ℕ → Value → Checked α} {number : ℕ}
    {values : List Value} {results : List α}
    (accepted : normalizeEach normalize number values = .ok results) :
    ∀ value ∈ values, ∃ own result, normalize own value = .ok result := by
  induction values generalizing number results with
  | nil => exact nofun
  | cons value rest inductionHypothesis =>
      obtain ⟨head, first, accepted⟩ := bind_ok accepted
      obtain ⟨tail, others, -⟩ := bind_ok accepted
      rw [List.forall_mem_cons]
      exact ⟨⟨number, head, first⟩, inductionHypothesis others⟩

theorem validateActivities_each {platform : Media.Platform} {items : List Value}
    {activities : List Activity}
    (accepted : validateActivities platform (.array items) = .ok activities) :
    normalizeEach (normalizeActivityDefinition platform) 1 items = .ok activities := by
  unfold validateActivities at accepted
  dsimp only at accepted
  split at accepted
  · cases accepted
  · obtain ⟨normalized, each, accepted⟩ := bind_ok accepted
    split at accepted
    · obtain ⟨_, -, accepted⟩ := bind_ok accepted
      obtain rfl := Except.ok.inj accepted
      exact each
    · cases accepted

/-! ## Drafts that are saved again -/

/-- The validated draft: its document and the hash of the document. The error of a value
without a canonical form has no code. -/
def validatedDraft (sha256Hex : JsString → JsString) (platform : Media.Platform)
    (value : Value) : Checked (WorkflowDocument × JsString) := do
  let document ← validateWorkflowDraft platform value
  match hashCanonicalJSON sha256Hex document.toValue with
  | .ok documentHash => return (document, documentHash)
  | .error message => .error ⟨[], message⟩

/-- A draft that has been accepted. -/
structure AcceptedDraft (sha256Hex : JsString → JsString) (platform : Media.Platform) where
  draft : Value
  document : WorkflowDocument
  documentHash : JsString
  accepted : validatedDraft sha256Hex platform draft = .ok (document, documentHash)

/-- The document, as it is returned and as it is read back from the store, is accepted
with the same document and the same hash. -/
def AcceptedDraft.SavedUnchanged {sha256Hex : JsString → JsString} {platform : Media.Platform}
    (saved : AcceptedDraft sha256Hex platform) : Prop :=
  validatedDraft sha256Hex platform saved.document.toValue =
      .ok (saved.document, saved.documentHash) ∧
    ∀ order : Members → Members, (∀ members, (order members).Perm members) →
      validatedDraft sha256Hex platform (readBack order saved.document.toValue) =
        .ok (saved.document, saved.documentHash)

section Workflows

variable {keep : Value → Value} (keeps : Keeps keep) {platform : Media.Platform}

include keeps in
theorem workflow_again {value : Value} {document : WorkflowDocument}
    (accepted : validateWorkflowDraft platform value = .ok document)
    (other : ∀ activity ∈ document.activities, activity.content.type ≠ .externalMedia) :
    validateWorkflowDraft platform (keep document.toValue) = .ok document := by
  obtain ⟨input, -, accepted⟩ := bind_ok accepted
  obtain ⟨_, -, accepted⟩ := bind_ok accepted
  obtain ⟨activities, defined, accepted⟩ := bind_ok accepted
  obtain ⟨access, admitted, accepted⟩ := bind_ok accepted
  obtain ⟨assuranceProfile, assured, accepted⟩ := bind_ok accepted
  obtain ⟨completionMode, completed, accepted⟩ := bind_ok accepted
  obtain ⟨instructions, instructed, accepted⟩ := bind_ok accepted
  obtain ⟨notifications, notified, accepted⟩ := bind_ok accepted
  obtain ⟨purpose, purposed, accepted⟩ := bind_ok accepted
  obtain ⟨retentionProfile, retained, accepted⟩ := bind_ok accepted
  obtain ⟨schedule, scheduled, accepted⟩ := bind_ok accepted
  obtain ⟨title, titled, accepted⟩ := bind_ok accepted
  obtain rfl := Except.ok.inj accepted
  obtain ⟨dueInside, later⟩ := schedule_proper scheduled
  obtain ⟨due, expiration⟩ := schedule
  obtain ⟨kept, -, read, member⟩ := keeps.strict invalid (js "workflow")
    (rfl : WorkflowDocument.toValue ⟨access, activities, assuranceProfile, completionMode,
      instructions, notifications, purpose, retentionProfile, ⟨due, expiration⟩, title⟩ = _)
    [js "access", js "activities", js "assurance", js "completion", js "instructions",
      js "notifications", js "purpose", js "retention", js "schedule", js "schema", js "title"]
    rfl (by decide) (fun _ inside => inside)
  have schemaAt : checkSchema (Value.member kept (js "schema")) = .ok () := by
    rw [keeps.stringAt member rfl]
    rfl
  have activitiesAt : validateActivities platform (Value.member kept (js "activities")) =
      .ok activities := by
    rw [member]
    exact activities_again keeps defined other
  unfold validateWorkflowDraft
  refine (bind_of read).trans ?_
  refine (bind_of schemaAt).trans ?_
  refine (bind_of activitiesAt).trans ?_
  refine (bind_of (access_again keeps member admitted rfl)).trans ?_
  refine (bind_of (profile_again keeps member rfl
    (profile_fits assured (by decide)) _ _)).trans ?_
  refine (bind_of (completion_again keeps member completed rfl)).trans ?_
  refine (bind_of (keeps.optionalAt member rfl (optional_fits instructed) _)).trans ?_
  refine (bind_of (notifications_again keeps member notified rfl)).trans ?_
  refine (bind_of (keeps.boundedAt member rfl (bounded_fits purposed) _)).trans ?_
  refine (bind_of (profile_again keeps member rfl
    (profile_fits retained (by decide)) _ _)).trans ?_
  refine (bind_of (schedule_again keeps member rfl dueInside later)).trans ?_
  exact bind_of (keeps.boundedAt member rfl (bounded_fits titled) _)

/-- An accepted draft without external media has a document without it. -/
theorem draft_media {value : Value} {document : WorkflowDocument}
    (accepted : validateWorkflowDraft platform value = .ok document) :
    (∀ definition ∈ draftActivities value, namedType definition ≠ some (js "external_media")) ↔
      ∀ activity ∈ document.activities, activity.content.type ≠ .externalMedia := by
  obtain ⟨input, read, accepted⟩ := bind_ok accepted
  obtain ⟨_, -, accepted⟩ := bind_ok accepted
  obtain ⟨activities, defined, accepted⟩ := bind_ok accepted
  have same : document.activities = activities := by
    obtain ⟨access, -, accepted⟩ := bind_ok accepted
    obtain ⟨assuranceProfile, -, accepted⟩ := bind_ok accepted
    obtain ⟨completionMode, -, accepted⟩ := bind_ok accepted
    obtain ⟨instructions, -, accepted⟩ := bind_ok accepted
    obtain ⟨notifications, -, accepted⟩ := bind_ok accepted
    obtain ⟨purpose, -, accepted⟩ := bind_ok accepted
    obtain ⟨retentionProfile, -, accepted⟩ := bind_ok accepted
    obtain ⟨schedule, -, accepted⟩ := bind_ok accepted
    obtain ⟨title, -, accepted⟩ := bind_ok accepted
    rw [← Except.ok.inj accepted]
  obtain ⟨shape, -⟩ := strictObject_members read
  have listed : ∃ items, draftActivities value = items ∧
      normalizeEach (normalizeActivityDefinition platform) 1 items = .ok activities := by
    rw [shape]
    show ∃ items, (match Value.member input (js "activities") with
      | .array items => items
      | _ => []) = items ∧ _
    generalize Value.member input (js "activities") = given at defined ⊢
    cases given with
    | array items => exact ⟨items, rfl, validateActivities_each defined⟩
    | _ => cases defined
  obtain ⟨items, draft, each⟩ := listed
  rw [draft, same]
  refine normalizeEach_all (fun number definition activity one => ?_) each
  rw [definition_type one, ne_eq, media_named]

theorem workflow_refused {document again : WorkflowDocument}
    (accepted : validateWorkflowDraft platform document.toValue = .ok again) :
    ∀ activity ∈ document.activities, activity.content.type ≠ .externalMedia := by
  intro activity inside media
  obtain ⟨input, read, accepted⟩ := bind_ok accepted
  obtain ⟨same, -⟩ := strictObject_members read
  obtain rfl := Value.object.inj same
  obtain ⟨_, -, accepted⟩ := bind_ok accepted
  obtain ⟨activities, defined, -⟩ := bind_ok accepted
  obtain ⟨number, own, one⟩ := normalizeEach_each (validateActivities_each defined) _
    (List.mem_map_of_mem inside)
  exact media_refused media number own one

end Workflows

theorem validatedDraft_ok {sha256Hex : JsString → JsString} {platform : Media.Platform}
    {value : Value} {document : WorkflowDocument} {documentHash : JsString}
    (accepted : validatedDraft sha256Hex platform value = .ok (document, documentHash)) :
    validateWorkflowDraft platform value = .ok document ∧
      hashCanonicalJSON sha256Hex document.toValue = .ok documentHash := by
  obtain ⟨own, validated, hashed⟩ := bind_ok accepted
  split at hashed
  · rename_i digest found
    obtain ⟨rfl, rfl⟩ := Prod.mk.inj (Except.ok.inj hashed)
    exact ⟨validated, found⟩
  · cases hashed

/-- A draft can be saved again unchanged exactly when it has no external media. -/
theorem saved_unchanged_iff {sha256Hex : JsString → JsString} {platform : Media.Platform}
    (saved : AcceptedDraft sha256Hex platform) :
    saved.SavedUnchanged ↔
      ∀ definition ∈ draftActivities saved.draft,
        namedType definition ≠ some (js "external_media") := by
  obtain ⟨draft, document, documentHash, accepted⟩ := saved
  obtain ⟨validated, digest⟩ := validatedDraft_ok accepted
  rw [draft_media validated]
  have finish : ∀ value, validateWorkflowDraft platform value = .ok document →
      validatedDraft sha256Hex platform value = .ok (document, documentHash) := by
    intro value again
    refine (bind_of again).trans ?_
    rw [digest]
    rfl
  constructor
  · rintro ⟨again, -⟩
    exact workflow_refused (validatedDraft_ok again).1
  · intro other
    exact ⟨finish _ (workflow_again keeps_id validated other),
      fun order rearranges => finish _ (workflow_again (keeps_readBack rearranges) validated
        other)⟩

/-- A draft with one video. -/
def trainingDraft : Value :=
  .object [
    (js "activities", .array [.object [
      (js "content", MediaSummary.trainingVideo),
      (js "id", .string (js "training")),
      (js "title", .string (js "Training")),
      (js "type", .string (js "external_media"))]]),
    (js "purpose", .string (js "Safety training")),
    (js "title", .string (js "Safety"))]

/-- The document of the video is refused when it is saved again. -/
theorem trainingDraft_refused :
    ¬ ∀ sha256Hex platform (saved : AcceptedDraft sha256Hex platform), saved.SavedUnchanged := by
  intro always
  have evaluated : (match validatedDraft id MediaSummary.youtubePlatform trainingDraft with
      | .ok _ => true
      | .error _ => false) = true := by
    decide +kernel
  split at evaluated
  · rename_i result accepted
    obtain ⟨document, documentHash⟩ := result
    obtain ⟨again, -⟩ := always id MediaSummary.youtubePlatform
      ⟨trainingDraft, document, documentHash, accepted⟩
    have media := (draft_media (validatedDraft_ok accepted).1).mpr
      (workflow_refused (validatedDraft_ok again).1)
    exact absurd (media _ List.mem_cons_self) (by decide)
  · cases evaluated

end Vasi.DraftStability
