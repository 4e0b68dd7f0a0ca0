import Vasi.Conformance
import Vasi.Workflow

/-!
# Definitions in normal form

Every field of an activity definition has a normal form: a check returns only normal
values, and returns a normal value as it is. A definition that was accepted is therefore
accepted again from its stored value, as it is or as it is read back from the store, and
gives the same activity. External media is the exception: the normalized descriptor has
members that the validator does not know.
-/
namespace Vasi.DraftStability

open JsValue Validation CanonicalJson Activities Workflow Conformance Redaction

/-! ## Kept values -/

/-- A way to keep values: as they are, or in a store that may drop undefined members and
rearrange the others. -/
structure Keeps (keep : Value → Value) : Prop where
  undefined : keep .undefined = .undefined
  null : keep .null = .null
  bool : ∀ value, keep (.bool value) = .bool value
  string : ∀ text, keep (.string text) = .string text
  whole : ∀ number : ℕ, keep (wholeNumber number) = wholeNumber number
  array : ∀ items, (∀ item ∈ items, item.isUndefined = false) →
    keep (.array items) = .array (items.map keep)
  object : ∀ members, (members.map Prod.fst).Nodup → ∃ kept, keep (.object members) =
    .object kept ∧ (∀ key, Value.member kept key = keep (Value.member members key)) ∧
      ∀ entry ∈ kept, entry.1 ∈ members.map Prod.fst

theorem keeps_id : Keeps id where
  undefined := rfl
  null := rfl
  bool _ := rfl
  string _ := rfl
  whole _ := rfl
  array items _ := by rw [id, List.map_id]
  object members _ := ⟨members, rfl, fun _ => rfl, fun _ inside => List.mem_map_of_mem inside⟩

theorem keeps_readBack {order : Members → Members}
    (rearranges : ∀ members, (order members).Perm members) : Keeps (readBack order) where
  undefined := rfl
  null := rfl
  bool _ := rfl
  string _ := rfl
  whole _ := rfl
  array items defined := by
    rw [readBack]
    congr 1
    induction items with
    | nil => rfl
    | cons item rest inductionHypothesis =>
        rw [List.forall_mem_cons] at defined
        rw [readBackItems, inductionHypothesis defined.2, defined.1]
        rfl
  object members distinct := by
    obtain ⟨stored, read, member⟩ := StoredConfiguration.strictObject_stored rearranges members
      (js "document") (members.map Prod.fst) distinct fun _ inside => inside
    obtain ⟨same, known⟩ := strictObject_members read
    exact ⟨stored, same, member, known⟩

/-! ## Fields -/

/-- A trimmed text of a length in range. -/
def Fits (minimum maximum : ℕ) (text : JsString) : Prop :=
  trim text = text ∧ minimum ≤ text.length ∧ text.length ≤ maximum

instance (minimum maximum : ℕ) (text : JsString) : Decidable (Fits minimum maximum text) :=
  inferInstanceAs (Decidable (trim text = text ∧ minimum ≤ text.length ∧ text.length ≤ maximum))

section Fields

variable {fail : JsString → Failure}

theorem bounded_fits {value : Value} {field text : JsString} {minimum maximum : ℕ}
    (accepted : boundedStringWith fail value field minimum maximum = .ok text) :
    Fits minimum maximum text := by
  refine ⟨?_, boundedStringWith_length accepted⟩
  cases value with
  | string own =>
      simp only [boundedStringWith] at accepted
      split at accepted
      · cases accepted
      · rw [← Except.ok.inj accepted]
        exact StoredConfiguration.trim_trim own
  | _ => cases accepted

theorem optional_fits {value : Value} {field : JsString} {maximum : ℕ} {text : Option JsString}
    (accepted : optionalStringWith fail value field maximum = .ok text) :
    ∀ own ∈ text, Fits 1 maximum own := by
  unfold optionalStringWith at accepted
  split at accepted
  · obtain rfl := Except.ok.inj accepted
    exact nofun
  · obtain rfl := Except.ok.inj accepted
    exact nofun
  · obtain rfl := Except.ok.inj accepted
    exact nofun
  · obtain ⟨own, bounded, rfl⟩ := checkedMap_ok accepted
    intro other inside
    obtain rfl := Option.some.inj inside
    exact bounded_fits bounded

/-- A default that fits stands for a text that was left out. -/
theorem default_fits {value : Value} {field fallback : JsString} {maximum : ℕ}
    {text : Option JsString} (accepted : optionalStringWith fail value field maximum = .ok text)
    (fits : Fits 1 maximum fallback) : Fits 1 maximum (text.getD fallback) := by
  cases text with
  | none => exact fits
  | some own => exact optional_fits accepted own rfl

theorem identifier_fits {value : Value} {field text : JsString}
    (accepted : identifierWith fail value field = .ok text) :
    Fits 1 64 text ∧ isIdentifier text = true := by
  refine ⟨?_, identifierWith_pattern accepted⟩
  obtain ⟨own, bounded, accepted⟩ := bind_ok accepted
  split at accepted
  · obtain rfl := Except.ok.inj accepted
    exact bounded_fits bounded
  · cases accepted

end Fields

theorem bind_of {ε α β : Type} {first : Except ε α} {second : α → Except ε β} {value : α}
    (done : first = .ok value) : (first >>= second) = second value := by
  rw [done]
  rfl

theorem map_of {α β : Type} {checked : Checked α} {change : α → β} {value : α}
    (done : checked = .ok value) : checked.map change = .ok (change value) := by
  rw [done]
  rfl

namespace Keeps

variable {keep : Value → Value} (keeps : Keeps keep)

include keeps

/-- The object check finds the kept members. -/
theorem strict (fail : JsString → Failure) (name : JsString) {value : Value} {members : Members}
    (shape : value = .object members) (keys : List JsString)
    (listed : members.map Prod.fst = keys) (distinct : keys.Nodup) {allowed : List JsString}
    (known : ∀ key ∈ keys, key ∈ allowed) :
    ∃ kept, keep value = .object kept ∧
      strictObjectWith fail (keep value) name allowed = .ok kept ∧
        ∀ key, Value.member kept key = keep (Value.member members key) := by
  subst shape
  obtain ⟨kept, same, member, inside⟩ := keeps.object members (by rw [listed]; exact distinct)
  refine ⟨kept, same, ?_, member⟩
  have clean : (propertyOrder kept).find? (fun entry => entry.1 ∉ allowed) = none := by
    rw [List.find?_eq_none]
    intro entry listedEntry
    have there := inside entry ((propertyOrder_perm kept).mem_iff.mp listedEntry)
    rw [listed] at there
    simpa using known _ there
  rw [same]
  simp only [strictObjectWith, clean]

section At

variable {kept members : Members}
  (member : ∀ key, Value.member kept key = keep (Value.member members key)) {key : JsString}

include member

theorem stringAt {text : JsString} (here : Value.member members key = .string text) :
    Value.member kept key = .string text := by rw [member, here, keeps.string]

theorem boolAt {value : Bool} (here : Value.member members key = .bool value) :
    Value.member kept key = .bool value := by rw [member, here, keeps.bool]

theorem wholeAt {number : ℕ} (here : Value.member members key = wholeNumber number) :
    Value.member kept key = wholeNumber number := by rw [member, here, keeps.whole]

theorem boundedAt {fail : JsString → Failure} {text : JsString}
    (here : Value.member members key = .string text) {minimum maximum : ℕ}
    (fits : Fits minimum maximum text) (field : JsString) :
    boundedStringWith fail (Value.member kept key) field minimum maximum = .ok text := by
  obtain ⟨trimmed, least, most⟩ := fits
  rw [keeps.stringAt member here, boundedStringWith]
  simp only [trimmed]
  rw [if_neg (by omega)]

theorem identifierAt {fail : JsString → Failure} {text : JsString}
    (here : Value.member members key = .string text)
    (fits : Fits 1 64 text ∧ isIdentifier text = true) (field : JsString) :
    identifierWith fail (Value.member kept key) field = .ok text := by
  refine (bind_of (keeps.boundedAt member here fits.1 field)).trans ?_
  rw [if_pos fits.2]
  rfl

theorem textAt {fail : JsString → Failure} {text : JsString}
    (here : Value.member members key = .string text) {maximum : ℕ} (fits : Fits 1 maximum text)
    (field : JsString) :
    optionalStringWith fail (Value.member kept key) field maximum = .ok (some text) := by
  have bounded : boundedStringWith fail (Value.member kept key) field 1 maximum = .ok text :=
    keeps.boundedAt member here fits field
  rw [keeps.stringAt member here] at bounded ⊢
  cases text with
  | nil => exact absurd fits.2.1 (by decide)
  | cons unit rest => exact map_of bounded

theorem optionalAt {fail : JsString → Failure} {text : Option JsString}
    (here : Value.member members key = optionalText text) {maximum : ℕ}
    (fits : ∀ own ∈ text, Fits 1 maximum own) (field : JsString) :
    optionalStringWith fail (Value.member kept key) field maximum = .ok text := by
  cases text with
  | none =>
      rw [member, here, optionalText, keeps.undefined]
      rfl
  | some own => exact keeps.textAt member here (fits own rfl) field

theorem integerAt {fail : JsString → Failure} {number minimum maximum : ℕ}
    (here : Value.member members key = wholeNumber number)
    (inside : minimum ≤ number ∧ number ≤ maximum) (safe : maximum ≤ 2 ^ 53 - 1)
    (field : JsString) :
    safeIntegerWith fail (Value.member kept key) field minimum maximum = .ok number := by
  have integer : JsNumber.isSafeInteger (.finite (number : ℚ)) = true := by
    have small : (number : ℤ).natAbs ≤ 2 ^ 53 - 1 := by omega
    exact decide_eq_true small
  have read : ((JsNumber.finite (number : ℚ)).toRat?.getD 0).num = number := rfl
  rw [keeps.wholeAt member here, wholeNumber, safeIntegerWith]
  dsimp only
  rw [if_pos integer, read, if_neg (by omega)]
  rfl

/-- A number that is there is no default. -/
theorem defaultIntegerAt {fail : JsString → Failure} {number minimum maximum : ℕ}
    (here : Value.member members key = wholeNumber number)
    (inside : minimum ≤ number ∧ number ≤ maximum) (safe : maximum ≤ 2 ^ 53 - 1)
    (fallback : Value) (field : JsString) :
    safeIntegerWith fail (orDefault (Value.member kept key) fallback) field minimum maximum =
      .ok number := by
  have accepted : safeIntegerWith fail (Value.member kept key) field minimum maximum =
      .ok number := keeps.integerAt member here inside safe field
  rw [keeps.wholeAt member here] at accepted ⊢
  exact accepted

theorem oneOfAt {text : JsString} (here : Value.member members key = .string text)
    {allowed : List JsString} (listed : text ∈ allowed) (fallback : Value) (message : JsString) :
    Media.oneOfStrings (orDefault (Value.member kept key) fallback) allowed message =
      .ok text := by
  rw [keeps.stringAt member here]
  exact if_pos listed

theorem flagAt {value : Bool} (here : Value.member members key = .bool value) :
    isNotFalse (Value.member kept key) = value := by
  rw [keeps.boolAt member here]
  cases value <;> rfl

end At

end Keeps

theorem oneOfStrings_mem {value : Value} {allowed : List JsString} {message text : JsString}
    (accepted : Media.oneOfStrings value allowed message = .ok text) : text ∈ allowed := by
  cases value with
  | string own =>
      simp only [Media.oneOfStrings] at accepted
      split at accepted
      · rename_i listed
        rw [← Except.ok.inj accepted]
        exact listed
      · cases accepted
  | _ => cases accepted

/-- A list is checked again item by item. -/
theorem normalizeEach_again {α : Type} {normalize : ℕ → Value → Checked α} {keep : Value → Value}
    {toValue : α → Value} (plain : α → Prop)
    (each : ∀ number value result, normalize number value = .ok result → plain result →
      ∀ again, normalize again (keep (toValue result)) = .ok result)
    {number : ℕ} {values : List Value} {results : List α}
    (accepted : normalizeEach normalize number values = .ok results)
    (all : ∀ result ∈ results, plain result) (again : ℕ) :
    normalizeEach normalize again ((results.map toValue).map keep) = .ok results := by
  induction values generalizing number results again with
  | nil =>
      obtain rfl := Except.ok.inj accepted
      rfl
  | cons value rest inductionHypothesis =>
      obtain ⟨head, first, accepted⟩ := bind_ok accepted
      obtain ⟨tail, others, accepted⟩ := bind_ok accepted
      obtain rfl := Except.ok.inj accepted
      rw [List.forall_mem_cons] at all
      refine (bind_of (each _ _ _ first all.1 again)).trans ?_
      exact bind_of (inductionHypothesis others all.2 (again + 1))

/-! ## Contents -/

theorem mapped_defined {α : Type} {toValue : α → Value}
    (object : ∀ own, (toValue own).isUndefined = false) (results : List α) :
    ∀ item ∈ results.map toValue, item.isUndefined = false := by
  intro item inside
  obtain ⟨own, -, rfl⟩ := List.mem_map.mp inside
  exact object own

theorem Keeps.strings {keep : Value → Value} (keeps : Keeps keep) (texts : List JsString) :
    keep (.array (texts.map .string)) = .array (texts.map .string) := by
  rw [keeps.array _ (mapped_defined (fun _ => rfl) texts), List.map_map]
  congr 1
  exact List.map_congr_left fun text _ => keeps.string text

section Contents

variable {keep : Value → Value} (keeps : Keeps keep)

include keeps

theorem choice_again {number : ℕ} {value : Value} {choice : Choice}
    (accepted : normalizeChoice number value = .ok choice) (again : ℕ) :
    normalizeChoice again (keep choice.toValue) = .ok choice := by
  obtain ⟨input, -, accepted⟩ := bind_ok accepted
  obtain ⟨description, described, accepted⟩ := bind_ok accepted
  obtain ⟨id, identified, accepted⟩ := bind_ok accepted
  obtain ⟨label, labelled, accepted⟩ := bind_ok accepted
  obtain rfl := Except.ok.inj accepted
  obtain ⟨kept, -, read, member⟩ := keeps.strict invalidDefinition
    (js "choice " ++ decimal again) (rfl : Choice.toValue ⟨description, id, label⟩ = _)
    [js "description", js "id", js "label"] rfl (by decide) (fun _ inside => inside)
  unfold normalizeChoice
  refine (bind_of read).trans ?_
  refine (bind_of (keeps.optionalAt member rfl (optional_fits described) _)).trans ?_
  refine (bind_of (keeps.identifierAt member rfl (identifier_fits identified) _)).trans ?_
  exact bind_of (keeps.boundedAt member rfl (bounded_fits labelled) _)

theorem choices_again {value : Value} {name : JsString} {choices : List Choice}
    (accepted : normalizeChoices value name = .ok choices) (other : JsString) :
    normalizeChoices (keep (choicesValue choices)) other = .ok choices := by
  obtain ⟨items, sized, each, distinct⟩ := normalizeChoices_parts accepted
  have length := normalizeEach_length each
  rw [choicesValue, keeps.array _ (mapped_defined (fun _ => rfl) _)]
  unfold normalizeChoices
  dsimp only
  rw [if_neg (by rw [List.length_map, List.length_map, length]; exact sized)]
  refine (bind_of (normalizeEach_again (fun _ => True)
    (fun _ _ _ one _ again => choice_again keeps one again) each
    (fun _ _ => trivial) 1)).trans ?_
  exact if_pos distinct

theorem terms_again {value : Value} {content : TermsContent}
    (accepted : normalizeTerms value = .ok content) (mode : TermsMode) :
    normalizeTerms (keep (Content.termsResponse mode content).toValue) = .ok content := by
  obtain ⟨input, -, accepted⟩ := bind_ok accepted
  obtain ⟨acknowledgementLabel, acknowledged, accepted⟩ := bind_ok accepted
  obtain ⟨noLabel, no, accepted⟩ := bind_ok accepted
  obtain ⟨prompt, prompted, accepted⟩ := bind_ok accepted
  obtain ⟨terms, stated, accepted⟩ := bind_ok accepted
  obtain ⟨yesLabel, yes, accepted⟩ := bind_ok accepted
  replace accepted := Except.ok.inj accepted
  subst accepted
  obtain ⟨kept, -, read, member⟩ := keeps.strict invalidDefinition (js "activity.content")
    (rfl : Content.toValue (.termsResponse mode
      ⟨acknowledgementLabel.getD (js "I acknowledge these terms."), noLabel.getD (js "No"),
        prompt, terms, yesLabel.getD (js "Yes")⟩) = _)
    [js "acknowledgementLabel", js "noLabel", js "prompt", js "terms", js "yesLabel"] rfl
    (by decide) (fun _ inside => inside)
  unfold normalizeTerms
  refine (bind_of read).trans ?_
  refine (bind_of (keeps.textAt member rfl
    (default_fits acknowledged (by decide)) _)).trans ?_
  refine (bind_of (keeps.textAt member rfl (default_fits no (by decide)) _)).trans ?_
  refine (bind_of (keeps.boundedAt member rfl (bounded_fits prompted) _)).trans ?_
  refine (bind_of (keeps.boundedAt member rfl (bounded_fits stated) _)).trans ?_
  refine (bind_of (keeps.textAt member rfl (default_fits yes (by decide)) _)).trans ?_
  rfl

theorem approval_again {value : Value} {content : ApprovalContent}
    (accepted : normalizeApproval value = .ok content) :
    normalizeApproval (keep (Content.approval content).toValue) = .ok content := by
  obtain ⟨input, -, accepted⟩ := bind_ok accepted
  obtain ⟨labels, -, accepted⟩ := bind_ok accepted
  obtain ⟨approved, yes, accepted⟩ := bind_ok accepted
  obtain ⟨declined, none, accepted⟩ := bind_ok accepted
  obtain ⟨disapproved, no, accepted⟩ := bind_ok accepted
  obtain ⟨prompt, prompted, accepted⟩ := bind_ok accepted
  obtain ⟨statement, stated, accepted⟩ := bind_ok accepted
  replace accepted := Except.ok.inj accepted
  subst accepted
  obtain ⟨kept, -, read, member⟩ := keeps.strict invalidDefinition (js "activity.content")
    (rfl : Content.toValue (.approval ⟨approved.getD (js "Approve"),
      declined.getD (js "Decline to decide"), disapproved.getD (js "Disapprove"), prompt,
      statement⟩) = _) [js "labels", js "prompt", js "statement"] rfl
    (by decide) (fun _ inside => inside)
  obtain ⟨keptLabels, same, readLabels, label⟩ := keeps.strict invalidDefinition
    (js "approval labels")
    (rfl : Value.object [(js "approved", .string (approved.getD (js "Approve"))),
      (js "declined", .string (declined.getD (js "Decline to decide"))),
      (js "disapproved", .string (disapproved.getD (js "Disapprove")))] = _)
    [js "approved", js "declined", js "disapproved"] rfl (by decide) (fun _ inside => inside)
  have labelsAt : optionalObjectWith invalidDefinition (Value.member kept (js "labels"))
      (js "approval labels") [js "approved", js "declined", js "disapproved"] =
        .ok keptLabels := by
    have here : Value.member kept (js "labels") = .object keptLabels := by
      rw [member]
      exact same
    rw [here, ← same]
    rw [same] at readLabels ⊢
    exact readLabels
  unfold normalizeApproval
  refine (bind_of read).trans ?_
  refine (bind_of labelsAt).trans ?_
  refine (bind_of (keeps.textAt label rfl (default_fits yes (by decide)) _)).trans ?_
  refine (bind_of (keeps.textAt label rfl (default_fits none (by decide)) _)).trans ?_
  refine (bind_of (keeps.textAt label rfl (default_fits no (by decide)) _)).trans ?_
  refine (bind_of (keeps.boundedAt member rfl (bounded_fits prompted) _)).trans ?_
  exact bind_of (keeps.boundedAt member rfl (bounded_fits stated) _)

theorem singleChoice_again {value : Value} {content : SingleChoiceContent}
    (accepted : normalizeSingleChoice value = .ok content) :
    normalizeSingleChoice (keep (Content.singleChoice content).toValue) = .ok content := by
  obtain ⟨input, -, accepted⟩ := bind_ok accepted
  obtain ⟨choices, chosen, accepted⟩ := bind_ok accepted
  obtain ⟨prompt, prompted, accepted⟩ := bind_ok accepted
  obtain rfl := Except.ok.inj accepted
  obtain ⟨kept, -, read, member⟩ := keeps.strict invalidDefinition (js "activity.content")
    (rfl : Content.toValue (.singleChoice ⟨choices, prompt⟩) = _) [js "choices", js "prompt"] rfl
    (by decide) (fun _ inside => inside)
  have choicesAt : normalizeChoices (Value.member kept (js "choices")) (js "activity") =
      .ok choices := by
    rw [member]
    exact choices_again keeps chosen _
  unfold normalizeSingleChoice
  refine (bind_of read).trans ?_
  refine (bind_of choicesAt).trans ?_
  exact bind_of (keeps.boundedAt member rfl (bounded_fits prompted) _)

omit keeps in
/-- There are never more choices than a number can count. -/
theorem choices_few {value : Value} {name : JsString} {choices : List Choice}
    (accepted : normalizeChoices value name = .ok choices) : choices.length ≤ 50 := by
  unfold normalizeChoices at accepted
  split at accepted
  · split at accepted
    · cases accepted
    · rename_i sized
      obtain ⟨normalized, each, accepted⟩ := bind_ok accepted
      split at accepted
      · obtain rfl := Except.ok.inj accepted
        rw [normalizeEach_length each]
        omega
      · cases accepted
  · cases accepted

theorem multipleChoice_again {value : Value} {content : MultipleChoiceContent}
    (accepted : normalizeMultipleChoice value = .ok content) :
    normalizeMultipleChoice (keep (Content.multipleChoice content).toValue) = .ok content := by
  obtain ⟨input, -, accepted⟩ := bind_ok accepted
  obtain ⟨choices, chosen, accepted⟩ := bind_ok accepted
  obtain ⟨least, fewest, accepted⟩ := bind_ok accepted
  obtain ⟨most, greatest, accepted⟩ := bind_ok accepted
  obtain ⟨prompt, prompted, accepted⟩ := bind_ok accepted
  obtain rfl := Except.ok.inj accepted
  have few := choices_few chosen
  obtain ⟨kept, -, read, member⟩ := keeps.strict invalidDefinition (js "activity.content")
    (rfl : Content.toValue (.multipleChoice ⟨choices, most, least, prompt⟩) = _)
    [js "choices", js "maxSelections", js "minSelections", js "prompt"] rfl (by decide)
    (fun _ inside => inside)
  have choicesAt : normalizeChoices (Value.member kept (js "choices")) (js "activity") =
      .ok choices := by
    rw [member]
    exact choices_again keeps chosen _
  unfold normalizeMultipleChoice
  refine (bind_of read).trans ?_
  refine (bind_of choicesAt).trans ?_
  refine (bind_of (keeps.defaultIntegerAt member rfl (safeIntegerWith_range fewest)
    (few.trans (by decide)) _ _)).trans ?_
  refine (bind_of (keeps.defaultIntegerAt member rfl (safeIntegerWith_range greatest)
    (few.trans (by decide)) _ _)).trans ?_
  exact bind_of (keeps.boundedAt member rfl (bounded_fits prompted) _)

theorem freeForm_again {value : Value} {content : FreeFormContent}
    (accepted : normalizeFreeForm value = .ok content) :
    normalizeFreeForm (keep (Content.freeForm content).toValue) = .ok content := by
  obtain ⟨input, -, accepted⟩ := bind_ok accepted
  obtain ⟨least, fewest, accepted⟩ := bind_ok accepted
  obtain ⟨most, greatest, accepted⟩ := bind_ok accepted
  obtain ⟨prompt, prompted, accepted⟩ := bind_ok accepted
  replace accepted := Except.ok.inj accepted
  subst accepted
  obtain ⟨kept, -, read, member⟩ := keeps.strict invalidDefinition (js "activity.content")
    (rfl : Content.toValue (.freeForm
      ⟨most, least, isNotFalse (Value.member input (js "multiline")), prompt⟩) = _)
    [js "maxLength", js "minLength", js "multiline", js "prompt"] rfl (by decide)
    (fun _ inside => inside)
  unfold normalizeFreeForm
  refine (bind_of read).trans ?_
  refine (bind_of (keeps.defaultIntegerAt member rfl (safeIntegerWith_range fewest)
    (by decide) _ _)).trans ?_
  refine (bind_of (keeps.defaultIntegerAt member rfl (safeIntegerWith_range greatest)
    (by decide) _ _)).trans ?_
  refine (bind_of (keeps.boundedAt member rfl (bounded_fits prompted) _)).trans ?_
  rw [keeps.flagAt member rfl]
  rfl

omit keeps in
theorem signatureMethods_iff {items : List Value} {methods : List SignatureMethod} :
    signatureMethods? items = some methods ↔ items = methods.map fun own => .string own.name := by
  induction items generalizing methods with
  | nil => cases methods <;> simp [signatureMethods?]
  | cons item rest inductionHypothesis =>
      rw [signatureMethods?]
      constructor
      · intro found
        obtain ⟨first, one, found⟩ := Option.bind_eq_some_iff.mp found
        obtain ⟨others, tail, found⟩ := Option.bind_eq_some_iff.mp found
        obtain rfl := Option.some.inj found
        rw [(signatureMethod_iff _ _).mp one, inductionHypothesis.mp tail, List.map_cons]
      · intro same
        cases methods with
        | nil => cases same
        | cons first others =>
            obtain ⟨rfl, tail⟩ := List.cons.inj same
            rw [(signatureMethod_iff _ _).mpr rfl, inductionHypothesis.mpr tail]
            rfl

theorem methods_again {value : Value} {methods : List SignatureMethod}
    (accepted : normalizeSignatureMethods value = .ok methods) :
    normalizeSignatureMethods (keep (.array (methods.map fun own => .string own.name))) =
      .ok methods := by
  have proper : methods ≠ [] ∧ methods.length ≤ 2 ∧ methods.Nodup := by
    unfold normalizeSignatureMethods at accepted
    dsimp only at accepted
    split at accepted
    · split at accepted
      · split at accepted
        · split at accepted
          · rename_i fitting
            obtain rfl := Except.ok.inj accepted
            exact fitting
          · cases accepted
        · cases accepted
      · cases accepted
    · obtain rfl := Except.ok.inj accepted
      decide
  have listed : (methods.map fun own : SignatureMethod => Value.string own.name) =
      (methods.map SignatureMethod.name).map .string := (List.map_map).symm
  rw [listed, keeps.strings, ← listed]
  unfold normalizeSignatureMethods
  simp only [Value.isPresent, if_true, signatureMethods_iff.mpr rfl, if_pos proper]

theorem signature_again {value : Value} {content : SignatureContent}
    (accepted : normalizeSignature value = .ok content) :
    normalizeSignature (keep (Content.electronicSignature content).toValue) = .ok content := by
  obtain ⟨input, -, accepted⟩ := bind_ok accepted
  obtain ⟨methods, chosen, accepted⟩ := bind_ok accepted
  obtain ⟨consentText, consented, accepted⟩ := bind_ok accepted
  obtain ⟨drawnLabel, drawn, accepted⟩ := bind_ok accepted
  obtain ⟨prompt, prompted, accepted⟩ := bind_ok accepted
  obtain ⟨statement, stated, accepted⟩ := bind_ok accepted
  obtain ⟨typedLabel, typed, accepted⟩ := bind_ok accepted
  replace accepted := Except.ok.inj accepted
  subst accepted
  obtain ⟨kept, -, read, member⟩ := keeps.strict invalidDefinition (js "activity.content")
    (rfl : Content.toValue (.electronicSignature ⟨consentText,
      drawnLabel.getD (js "Draw your signature"), methods, prompt, statement,
      typedLabel.getD (js "Type your full legal name")⟩) = _)
    [js "consentText", js "drawnSignatureLabel", js "methods", js "prompt", js "statement",
      js "typedNameLabel"] rfl (by decide) (fun _ inside => inside)
  have methodsAt : normalizeSignatureMethods (Value.member kept (js "methods")) = .ok methods := by
    rw [member]
    exact methods_again keeps chosen
  unfold normalizeSignature
  refine (bind_of read).trans ?_
  refine (bind_of methodsAt).trans ?_
  refine (bind_of (keeps.boundedAt member rfl (bounded_fits consented) _)).trans ?_
  refine (bind_of (keeps.textAt member rfl (default_fits drawn (by decide)) _)).trans ?_
  refine (bind_of (keeps.boundedAt member rfl (bounded_fits prompted) _)).trans ?_
  refine (bind_of (keeps.boundedAt member rfl (bounded_fits stated) _)).trans ?_
  refine (bind_of (keeps.textAt member rfl (default_fits typed (by decide)) _)).trans ?_
  rfl

theorem document_again {value : Value} {content : DocumentContent}
    (accepted : normalizeDocument value = .ok content) :
    normalizeDocument (keep (Content.documentReview content).toValue) = .ok content := by
  obtain ⟨input, -, accepted⟩ := bind_ok accepted
  obtain ⟨artifactId, stored, accepted⟩ := bind_ok accepted
  obtain ⟨displayName, named, accepted⟩ := bind_ok accepted
  obtain ⟨prompt, prompted, accepted⟩ := bind_ok accepted
  obtain ⟨responseLabel, labelled, accepted⟩ := bind_ok accepted
  replace accepted := Except.ok.inj accepted
  subst accepted
  obtain ⟨kept, -, read, member⟩ := keeps.strict invalidDefinition (js "activity.content")
    (rfl : Content.toValue (.documentReview ⟨artifactId, displayName, prompt,
      responseLabel.getD (js "I reviewed this document.")⟩) = _)
    [js "artifactId", js "displayName", js "prompt", js "responseLabel"] rfl (by decide)
    (show ∀ key ∈ [js "artifactId", js "displayName", js "prompt", js "responseLabel"],
      key ∈ [js "artifact", js "artifactId", js "displayName", js "prompt", js "responseLabel"]
      by decide)
  unfold normalizeDocument
  refine (bind_of read).trans ?_
  refine (bind_of (keeps.boundedAt member rfl (bounded_fits stored) _)).trans ?_
  refine (bind_of (keeps.boundedAt member rfl (bounded_fits named) _)).trans ?_
  refine (bind_of (keeps.boundedAt member rfl (bounded_fits prompted) _)).trans ?_
  refine (bind_of (keeps.textAt member rfl (default_fits labelled (by decide)) _)).trans ?_
  rfl

end Contents

/-! ## Questionnaires -/

section Questionnaires

variable {keep : Value → Value} (keeps : Keeps keep)

include keeps

theorem correct_again {value : Value} {choices : List Choice} {multiple : Bool}
    {ids : List JsString} (accepted : normalizeCorrectChoiceIds value choices multiple = .ok ids) :
    normalizeCorrectChoiceIds (keep (.array (ids.map .string))) choices multiple = .ok ids := by
  have proper := normalizeCorrectChoiceIds_settled accepted
  rw [keeps.strings]
  unfold normalizeCorrectChoiceIds
  simp only [stringItems_iff.mpr rfl, if_pos proper]

theorem question_again {number : ℕ} {value : Value} {question : Question}
    (accepted : normalizeQuestion number value = .ok question) (again : ℕ) :
    normalizeQuestion again (keep question.toValue) = .ok question := by
  obtain ⟨input, -, accepted⟩ := bind_ok accepted
  obtain ⟨type, typed, accepted⟩ := bind_ok accepted
  obtain ⟨choices, chosen, accepted⟩ := bind_ok accepted
  obtain ⟨correct, scored, accepted⟩ := bind_ok accepted
  obtain ⟨id, identified, accepted⟩ := bind_ok accepted
  obtain ⟨points, counted, accepted⟩ := bind_ok accepted
  obtain ⟨prompt, prompted, accepted⟩ := bind_ok accepted
  replace accepted := Except.ok.inj accepted
  subst accepted
  have known : type ∈ [js "single_choice", js "multiple_choice"] := oneOfStrings_mem typed
  have named : (if (type == js "multiple_choice") = true then js "multiple_choice"
      else js "single_choice") = type := by
    rcases List.mem_pair.mp known with rfl | rfl <;> decide
  obtain ⟨kept, -, read, member⟩ := keeps.strict invalidDefinition
    (js "question " ++ decimal again)
    (rfl : Question.toValue ⟨choices, correct, id, points, prompt,
      isNotFalse (Value.member input (js "required")), type == js "multiple_choice"⟩ = _)
    [js "choices", js "correctChoiceIds", js "id", js "points", js "prompt", js "required",
      js "type"] rfl (by decide) (fun _ inside => inside)
  have typeAt : Media.oneOfStrings
      (orDefault (Value.member kept (js "type")) (.string (js "single_choice")))
      [js "single_choice", js "multiple_choice"] (js "The question type is unsupported.") =
        .ok type := by
    have here : Value.member kept (js "type") = .string type :=
      (keeps.stringAt member rfl).trans (congrArg Value.string named)
    rw [here]
    exact if_pos known
  have choicesAt : normalizeChoices (Value.member kept (js "choices"))
      (js "question " ++ decimal again) = .ok choices := by
    rw [member]
    exact choices_again keeps chosen _
  have correctAt : normalizeCorrectChoiceIds (Value.member kept (js "correctChoiceIds")) choices
      (type == js "multiple_choice") = .ok correct := by
    rw [member]
    exact correct_again keeps scored
  unfold normalizeQuestion
  refine (bind_of read).trans ?_
  refine (bind_of typeAt).trans ?_
  refine (bind_of choicesAt).trans ?_
  refine (bind_of correctAt).trans ?_
  refine (bind_of (keeps.identifierAt member rfl (identifier_fits identified) _)).trans ?_
  refine (bind_of (keeps.defaultIntegerAt member rfl (safeIntegerWith_range counted)
    (by decide) _ _)).trans ?_
  refine (bind_of (keeps.boundedAt member rfl (bounded_fits prompted) _)).trans ?_
  rw [keeps.flagAt member rfl]
  rfl

theorem questions_again {value : Value} {questions : List Question}
    (accepted : normalizeQuestions value = .ok questions) :
    normalizeQuestions (keep (.array (questions.map Question.toValue))) = .ok questions := by
  obtain ⟨items, sized, each, distinct⟩ := normalizeQuestions_parts accepted
  have length := normalizeEach_length each
  have sizedAgain : ¬ ((questions.map Question.toValue).map keep = [] ∨
      ((questions.map Question.toValue).map keep).length > 50) := by
    rw [← List.length_eq_zero_iff, List.length_map, List.length_map, length,
      List.length_eq_zero_iff]
    exact sized
  rw [keeps.array _ (mapped_defined (fun _ => rfl) _)]
  unfold normalizeQuestions
  dsimp only
  rw [if_neg sizedAgain]
  refine (bind_of (normalizeEach_again (fun _ => True)
    (fun _ _ _ one _ again => question_again keeps one again) each
    (fun _ _ => trivial) 1)).trans ?_
  exact if_pos distinct

theorem questionnaire_again {value : Value} {content : QuestionnaireContent}
    (accepted : normalizeQuestionnaire value = .ok content) :
    normalizeQuestionnaire (keep (Content.questionnaire content).toValue) = .ok content := by
  obtain ⟨input, -, accepted⟩ := bind_ok accepted
  obtain ⟨questions, asked, accepted⟩ := bind_ok accepted
  obtain ⟨disclosure, disclosed, accepted⟩ := bind_ok accepted
  obtain ⟨instructions, instructed, accepted⟩ := bind_ok accepted
  obtain ⟨percent, passing, accepted⟩ := bind_ok accepted
  obtain rfl := Except.ok.inj accepted
  obtain ⟨kept, -, read, member⟩ := keeps.strict invalidDefinition (js "activity.content")
    (rfl : Content.toValue (.questionnaire ⟨instructions, percent, questions, disclosure⟩) = _)
    [js "instructions", js "passingPercent", js "questions", js "resultDisclosure"] rfl
    (by decide) (fun _ inside => inside)
  have questionsAt : normalizeQuestions (Value.member kept (js "questions")) = .ok questions := by
    rw [member]
    exact questions_again keeps asked
  unfold normalizeQuestionnaire
  refine (bind_of read).trans ?_
  refine (bind_of questionsAt).trans ?_
  refine (bind_of (keeps.oneOfAt member rfl (oneOfStrings_mem disclosed) _ _)).trans ?_
  refine (bind_of (keeps.optionalAt member rfl (optional_fits instructed) _)).trans ?_
  exact bind_of (keeps.defaultIntegerAt member rfl (safeIntegerWith_range passing)
    (by decide) _ _)

end Questionnaires

/-! ## Activities -/

section Activities

variable {keep : Value → Value} (keeps : Keeps keep)

include keeps

theorem destination_again {value : Value} {destination : Option JsString}
    (accepted : normalizeRequiredDestination value = .ok destination) :
    normalizeRequiredDestination (keep (destinationValue destination)) = .ok destination := by
  cases destination with
  | none =>
      rw [destinationValue, keeps.null]
      rfl
  | some id =>
      have named : ∃ field, identifier value field = .ok id := by
        unfold normalizeRequiredDestination at accepted
        split at accepted
        · cases accepted
        · obtain ⟨own, identified, same⟩ := checkedMap_ok accepted
          obtain rfl := Option.some.inj same
          exact ⟨_, identified⟩
      obtain ⟨field, identified⟩ := named
      have here : Value.member [(js "to", .string id)] (js "to") = .string id := rfl
      have again : identifier (Value.member [(js "to", .string id)] (js "to"))
          (js "transition destination") = .ok id :=
        keeps_id.identifierAt (fun _ => rfl) here (identifier_fits identified) _
      rw [here] at again
      rw [destinationValue, keeps.string]
      exact map_of again

theorem default_again {value : Value} {destination : Option (Option JsString)} :
    normalizeDestination value = .ok destination →
      normalizeDestination (keep (match destination with
        | some given => destinationValue given
        | none => .undefined)) = .ok destination := by
  intro accepted
  cases destination with
  | none =>
      dsimp only
      rw [keeps.undefined]
      rfl
  | some given =>
      have normal : normalizeRequiredDestination value = .ok given := by
        unfold normalizeDestination at accepted
        split at accepted
        · cases accepted
        · obtain ⟨own, normal, same⟩ := checkedMap_ok accepted
          obtain rfl := Option.some.inj same
          exact normal
      have again := destination_again keeps normal
      cases given with
      | none =>
          dsimp only [destinationValue]
          rw [keeps.null]
          rfl
      | some id =>
          dsimp only [destinationValue] at again ⊢
          rw [keeps.string] at again ⊢
          exact map_of again

theorem branch_again {number : ℕ} {value : Value} {branch : Branch}
    (accepted : normalizeBranch number value = .ok branch) (again : ℕ) :
    normalizeBranch again (keep branch.toValue) = .ok branch := by
  obtain ⟨input, -, accepted⟩ := bind_ok accepted
  obtain ⟨condition, -, accepted⟩ := bind_ok accepted
  obtain ⟨destination, leads, accepted⟩ := bind_ok accepted
  obtain ⟨equals, selected, accepted⟩ := bind_ok accepted
  obtain rfl := Except.ok.inj accepted
  obtain ⟨kept, -, read, member⟩ := keeps.strict invalidDefinition
    (js "branch " ++ decimal again) (rfl : Branch.toValue ⟨destination, equals⟩ = _)
    [js "to", js "when"] rfl (by decide) (fun _ inside => inside)
  obtain ⟨keptCondition, -, readCondition, under⟩ := keeps.strict invalidDefinition
    (js "branch.when") (rfl : Value.object [(js "equals", .string equals)] = _) [js "equals"] rfl
    (by decide) (fun _ inside => inside)
  have conditionAt : strictObject (Value.member kept (js "when")) (js "branch.when")
      [js "equals"] = .ok keptCondition := by
    rw [member]
    exact readCondition
  have destinationAt : normalizeRequiredDestination (Value.member kept (js "to")) =
      .ok destination := by
    rw [member]
    exact destination_again keeps leads
  unfold normalizeBranch
  refine (bind_of read).trans ?_
  refine (bind_of conditionAt).trans ?_
  refine (bind_of destinationAt).trans ?_
  exact bind_of (keeps.boundedAt under rfl (bounded_fits selected) _)

end Activities

section Definitions

variable {keep : Value → Value} (keeps : Keeps keep) {platform : Media.Platform}

include keeps

theorem content_again {type : ActivityType} {mode : JsString} {value : Value} {content : Content}
    (accepted : normalizeContent platform type mode value = .ok content)
    (other : content.type ≠ .externalMedia) :
    normalizeContent platform content.type content.responseMode (keep content.toValue) =
      .ok content := by
  cases type with
  | termsResponse =>
      obtain ⟨own, normal, rfl⟩ := checkedMap_ok accepted
      generalize (if mode = js "acknowledgement" then TermsMode.acknowledgement else .yesNo) =
        kind
      cases kind <;> exact map_of (terms_again keeps normal _)
  | approval =>
      obtain ⟨own, normal, rfl⟩ := checkedMap_ok accepted
      exact map_of (approval_again keeps normal)
  | singleChoice =>
      obtain ⟨own, normal, rfl⟩ := checkedMap_ok accepted
      exact map_of (singleChoice_again keeps normal)
  | multipleChoice =>
      obtain ⟨own, normal, rfl⟩ := checkedMap_ok accepted
      exact map_of (multipleChoice_again keeps normal)
  | freeForm =>
      obtain ⟨own, normal, rfl⟩ := checkedMap_ok accepted
      exact map_of (freeForm_again keeps normal)
  | electronicSignature =>
      obtain ⟨own, normal, rfl⟩ := checkedMap_ok accepted
      exact map_of (signature_again keeps normal)
  | documentReview =>
      obtain ⟨own, normal, rfl⟩ := checkedMap_ok accepted
      exact map_of (document_again keeps normal)
  | questionnaire =>
      obtain ⟨own, normal, rfl⟩ := checkedMap_ok accepted
      exact map_of (questionnaire_again keeps normal)
  | externalMedia =>
      obtain ⟨own, normal, rfl⟩ := checkedMap_ok accepted
      exact absurd rfl other

omit keeps in
theorem typeName_fits (type : ActivityType) : Fits 1 64 type.name := by
  cases type <;> decide

omit keeps in
theorem typeName_found (type : ActivityType) :
    (ACTIVITY_TYPES.find? fun own => own.name = type.name) = some type := by
  cases type <;> decide

omit keeps in
theorem responseMode_again (content : Content) :
    responseModeForType content.type (.string content.responseMode) =
      .ok content.responseMode := by
  cases content with
  | termsResponse mode own => cases mode <;> rfl
  | _ => rfl

omit keeps in
/-- What an accepted definition was made of. -/
theorem definition_parts {number : ℕ} {value : Value} {activity : Activity}
    (accepted : normalizeActivityDefinition platform number value = .ok activity) :
    (∃ type mode given, normalizeContent platform type mode given = .ok activity.content) ∧
      (Fits 1 64 activity.id ∧ isIdentifier activity.id = true) ∧
      (∀ own ∈ activity.instructions, Fits 1 2000 own) ∧ Fits 2 160 activity.title ∧
      (∃ items, items.length ≤ 16 ∧
        normalizeEach normalizeBranch 1 items = .ok activity.transition.cases) ∧
      ∃ given, normalizeDestination given = .ok activity.transition.defaultTo := by
  unfold normalizeActivityDefinition at accepted
  obtain ⟨input, -, accepted⟩ := bind_ok accepted
  obtain ⟨typeName, -, accepted⟩ := bind_ok accepted
  split at accepted
  · cases accepted
  · split at accepted
    · obtain ⟨mode, -, accepted⟩ := bind_ok accepted
      obtain ⟨transitionInput, -, accepted⟩ := bind_ok accepted
      obtain ⟨items, branching, accepted⟩ := bind_ok accepted
      obtain ⟨content, own, accepted⟩ := bind_ok accepted
      obtain ⟨id, identified, accepted⟩ := bind_ok accepted
      obtain ⟨instructions, instructed, accepted⟩ := bind_ok accepted
      obtain ⟨title, titled, accepted⟩ := bind_ok accepted
      obtain ⟨branches, branched, accepted⟩ := bind_ok accepted
      obtain ⟨defaultTo, leads, accepted⟩ := bind_ok accepted
      obtain rfl := Except.ok.inj accepted
      have few : items.length ≤ 16 := by
        unfold transitionCases at branching
        split at branching
        · split at branching
          · cases branching
          · obtain rfl := Except.ok.inj branching
            omega
        · cases branching
      exact ⟨⟨_, _, _, own⟩, identifier_fits identified, optional_fits instructed,
        bounded_fits titled, ⟨items, few, branched⟩, _, leads⟩
    · cases accepted

theorem cases_again {items : List Value} {branches : List Branch} (few : items.length ≤ 16)
    (branched : normalizeEach normalizeBranch 1 items = .ok branches) :
    ∃ kept, transitionCases (keep (.array (branches.map Branch.toValue))) = .ok kept ∧
      normalizeEach normalizeBranch 1 kept = .ok branches := by
  refine ⟨(branches.map Branch.toValue).map keep, ?_, ?_⟩
  · rw [keeps.array _ (mapped_defined (fun _ => rfl) _)]
    refine if_neg ?_
    rw [List.length_map, List.length_map, normalizeEach_length branched]
    omega
  · exact normalizeEach_again (fun _ => True)
      (fun _ _ _ one _ again => branch_again keeps one again) branched (fun _ _ => trivial) 1

theorem activity_again {number : ℕ} {value : Value} {activity : Activity}
    (accepted : normalizeActivityDefinition platform number value = .ok activity)
    (other : activity.content.type ≠ .externalMedia) (again : ℕ) :
    normalizeActivityDefinition platform again (keep activity.toValue) = .ok activity := by
  obtain ⟨⟨type, mode, given, own⟩, identified, instructed, titled, ⟨items, few, branched⟩,
    given, leads⟩ := definition_parts accepted
  obtain ⟨kept, -, read, member⟩ := keeps.strict invalidDefinition
    (js "activity " ++ decimal again) (rfl : activity.toValue = _)
    [js "content", js "contractVersion", js "id", js "instructions", js "responseMode",
      js "title", js "transition", js "type"] rfl (by decide) (fun _ inside => inside)
  obtain ⟨keptTransition, same, readTransition, under⟩ := keeps.strict invalidDefinition
    (js "activity.transition") (rfl : activity.transition.toValue = _)
    [js "cases", js "defaultTo"] rfl (by decide) (fun _ inside => inside)
  obtain ⟨keptCases, casesOf, branchesOf⟩ := cases_again keeps few branched
  have version : orDefault (Value.member kept (js "contractVersion")) (.number (.finite 1)) =
      .number (.finite 1) := by
    rw [keeps.wholeAt member rfl]
    rfl
  have modeAt : responseModeForType activity.content.type
      (Value.member kept (js "responseMode")) = .ok activity.content.responseMode := by
    rw [keeps.stringAt member rfl]
    exact responseMode_again _
  have transitionAt : optionalObjectWith invalidDefinition
      (Value.member kept (js "transition")) (js "activity.transition")
      [js "cases", js "defaultTo"] = .ok keptTransition := by
    have here : Value.member kept (js "transition") = .object keptTransition := by
      rw [member]
      exact same
    rw [here]
    rw [same] at readTransition
    exact readTransition
  have casesAt : transitionCases (Value.member keptTransition (js "cases")) = .ok keptCases := by
    rw [under]
    exact casesOf
  have contentAt : normalizeContent platform activity.content.type activity.content.responseMode
      (Value.member kept (js "content")) = .ok activity.content := by
    rw [member]
    exact content_again keeps own other
  have leadsAt : normalizeDestination (Value.member keptTransition (js "defaultTo")) =
      .ok activity.transition.defaultTo := by
    rw [under]
    exact default_again keeps leads
  unfold normalizeActivityDefinition
  refine (bind_of read).trans ?_
  refine (bind_of (keeps.boundedAt member rfl (typeName_fits activity.content.type) _)).trans ?_
  rw [typeName_found, version]
  refine (bind_of modeAt).trans ?_
  refine (bind_of transitionAt).trans ?_
  refine (bind_of casesAt).trans ?_
  refine (bind_of contentAt).trans ?_
  refine (bind_of (keeps.identifierAt member rfl identified _)).trans ?_
  refine (bind_of (keeps.optionalAt member rfl instructed _)).trans ?_
  refine (bind_of (keeps.boundedAt member rfl titled _)).trans ?_
  refine (bind_of branchesOf).trans ?_
  exact bind_of leadsAt

end Definitions

/-! ## External media -/

/-- A normalized descriptor is no descriptor. -/
theorem descriptor_refused {platform : Media.Platform} (descriptor again : Media.Descriptor) :
    Media.normalizeDescriptor platform (descriptorValue descriptor) ≠ .ok again := by
  intro accepted
  obtain ⟨input, read, -⟩ := bind_ok accepted
  obtain ⟨same, known⟩ := strictObject_members read
  obtain rfl := Value.object.inj same
  have adapter := known (js "adapter", _) (List.mem_cons_of_mem _ List.mem_cons_self)
  exact absurd adapter (show js "adapter" ∉ _ by decide)

theorem content_refused {platform : Media.Platform} (own : Media.ExternalMediaContent)
    (mode : JsString) (again : Content) :
    normalizeContent platform .externalMedia mode (Content.externalMedia own).toValue ≠
      .ok again := by
  intro accepted
  have mapped : (Media.normalizeExternalMediaContent platform
      (Content.externalMedia own).toValue).map Content.externalMedia = .ok again := accepted
  obtain ⟨media, normal, -⟩ := checkedMap_ok mapped
  obtain ⟨members, read, normal⟩ := bind_ok normal
  obtain ⟨same, -⟩ := strictObject_members read
  obtain rfl := Value.object.inj same
  obtain ⟨descriptor, described, -⟩ := bind_ok normal
  exact descriptor_refused _ _ described

theorem media_refused {platform : Media.Platform} {activity : Activity}
    (media : activity.content.type = .externalMedia) (number : ℕ) (again : Activity) :
    normalizeActivityDefinition platform number activity.toValue ≠ .ok again := by
  intro accepted
  obtain ⟨content, id, instructions, title, transition⟩ := activity
  cases content with
  | externalMedia own =>
      obtain ⟨input, read, accepted⟩ := bind_ok accepted
      obtain ⟨same, -⟩ := strictObject_members read
      obtain rfl := Value.object.inj same
      obtain ⟨typeName, typed, accepted⟩ := bind_ok accepted
      have named : typeName = ActivityType.externalMedia.name :=
        Except.ok.inj (typed.symm.trans
          (keeps_id.boundedAt (fun _ => rfl) rfl (typeName_fits .externalMedia) _))
      subst named
      rw [typeName_found] at accepted
      obtain ⟨mode, -, accepted⟩ := bind_ok accepted
      obtain ⟨transitionInput, -, accepted⟩ := bind_ok accepted
      obtain ⟨items, -, accepted⟩ := bind_ok accepted
      obtain ⟨content, normal, -⟩ := bind_ok accepted
      exact content_refused own mode content normal
  | _ => cases media

end Vasi.DraftStability
