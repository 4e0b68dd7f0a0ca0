import Vasi.Binary64
import Vasi.Validation

/-!
# External media definitions

The part of a workflow activity that describes media hosted by a provider: the
descriptor with its adapter, the completion policy and the telemetry policy.

URL parsing and date parsing are the platform's. A URL is taken as its parsed
parts with the fragment already removed, since that is the only form in which
the source uses it; the two pattern matches on a path are parameters of the
parsed URL as well. Media telemetry and its summary are not modelled here.
-/
namespace Vasi.Media

open JsValue Validation

/-- A parsed URL without its fragment. `searchParam` is searchParams.get, and
`firstPathSegment`, `embeddedId`, `videoId` and `driveId` are the path segment
and the captured groups of the three path patterns of the provider functions. -/
structure Url where
  href : JsString
  origin : JsString
  protocol : JsString
  username : JsString
  password : JsString
  port : JsString
  hostname : JsString
  pathname : JsString
  searchParam : JsString → Option JsString
  firstPathSegment : Option JsString
  embeddedId : Option JsString
  videoId : Option JsString
  driveId : Option JsString

/-- The platform functions the definitions use: URL parsing, and the canonical
text of the date that a string denotes. -/
structure Platform where
  parseURL : JsString → Option Url
  parseDate : JsString → Option JsString

def MEDIA_PROVIDERS : List JsString :=
  [js "youtube", js "vimeo", js "sharepoint", js "google_drive", js "dropbox", js "generic",
    js "external_link"]

def invalidDefinition (message : JsString) : Failure := ⟨js "INVALID_WORKFLOW", message⟩

def strictDefinitionObject := strictObjectWith invalidDefinition

def boundedDefinitionString := boundedStringWith invalidDefinition

def optionalDefinitionString := optionalStringWith invalidDefinition

def safeInteger := safeIntegerWith invalidDefinition

/-- The media change token that identifies a version. -/
structure Version where
  cTag : Option JsString
  checksum : Option JsString
  eTag : Option JsString
  id : Option JsString
  lastModifiedAt : Option JsString

structure Dimensions where
  height : ℕ
  width : ℕ

structure AdapterReference where
  id : JsString
  version : JsString

/-- What a provider's rules make of a source. -/
structure ProviderDescriptor where
  adapter : AdapterReference
  allowedOrigins : List JsString
  capability : JsString
  embedUrl : Option JsString
  itemId : JsString
  kind : JsString
  limitations : List JsString

structure Descriptor where
  accessMode : JsString
  description : Option JsString
  dimensions : Option Dimensions
  durationMilliseconds : Option ℤ
  owner : Option JsString
  provider : JsString
  providerDescriptor : ProviderDescriptor
  sourceUrl : JsString
  title : JsString
  version : Version

inductive CompletionMode where
  | playback
  | acknowledgement
  | playbackOrAcknowledgement
deriving DecidableEq

def CompletionMode.text : CompletionMode → JsString
  | playback => js "playback"
  | acknowledgement => js "acknowledgement"
  | playbackOrAcknowledgement => js "playback_or_acknowledgement"

structure CompletionPolicy where
  minimumUniqueSeconds : ℕ
  mode : CompletionMode
  thresholdPercent : ℕ

structure TelemetryPolicy where
  heartbeatSeconds : ℕ
  idleSeconds : ℕ
  maxCreditedGapSeconds : ℕ

structure AccessibilityAlternative where
  label : JsString
  url : Option JsString

/-- The content of an external media activity. -/
structure ExternalMediaContent where
  accessibilityAlternative : Option AccessibilityAlternative
  acknowledgementLabel : JsString
  completionPolicy : CompletionPolicy
  descriptor : Descriptor
  prompt : JsString
  providerNotice : JsString
  telemetryPolicy : TelemetryPolicy

/-- JavaScript's or on values: the first truthy one, or the second. -/
def orElse (value fallback : Value) : Value := if value.truthy then value else fallback

section

variable (platform : Platform)

def safeURL (value : Value) (field : JsString) : Checked Url :=
  match value with
  | .string text =>
      if text.length > 2048 then .error (invalidDefinition (field ++ js " is invalid."))
      else match platform.parseURL text with
        | none => .error (invalidDefinition (field ++ js " is invalid."))
        | some url =>
            if url.protocol ≠ js "https:" ∨ url.username ≠ [] ∨ url.password ≠ [] ∨
                (url.port ≠ [] ∧ url.port ≠ js "443") then
              .error (invalidDefinition (field ++ js " must be a credential-free HTTPS URL."))
            else .ok url
  | _ => .error (invalidDefinition (field ++ js " is invalid."))

def requireHost (url : Url) (predicate : JsString → Bool) : Checked Unit :=
  if predicate url.hostname then .ok ()
  else .error (invalidDefinition
    (js "The media source host is unsupported for this provider."))

def normalizeDate (value : Value) (field : JsString) : Checked (Option JsString) :=
  match value with
  | .undefined | .null | .string [] => .ok none
  | .string text =>
      match platform.parseDate text with
      | some date => .ok (some date)
      | none => .error (invalidDefinition (field ++ js " is invalid."))
  | _ => .error (invalidDefinition (field ++ js " is invalid."))

def normalizeVersion (input : Members) : Checked Version := do
  let nested ← optionalObjectWith invalidDefinition (Value.member input (js "version"))
    (js "media version") [js "cTag", js "checksum", js "eTag", js "id", js "lastModifiedAt"]
  let cTag ← optionalDefinitionString (Value.member nested (js "cTag")) (js "version.cTag") 512
  let checksum ← optionalDefinitionString
    (orElse (Value.member nested (js "checksum")) (Value.member input (js "checksum")))
    (js "version.checksum") 512
  let eTag ← optionalDefinitionString (Value.member nested (js "eTag")) (js "version.eTag") 512
  let id ← optionalDefinitionString (Value.member nested (js "id")) (js "version.id") 512
  let lastModifiedAt ← normalizeDate platform
    (orElse (Value.member nested (js "lastModifiedAt")) (Value.member input (js "lastModifiedAt")))
    (js "version.lastModifiedAt")
  return { cTag, checksum, eTag, id, lastModifiedAt }

def normalizeDimensions (value : Value) : Checked (Option Dimensions) :=
  match value with
  | .undefined => .ok none
  | _ => do
      let input ← strictDefinitionObject value (js "media dimensions") [js "height", js "width"]
      let height ← safeInteger (Value.member input (js "height")) (js "dimensions.height") 1 100000
      let width ← safeInteger (Value.member input (js "width")) (js "dimensions.width") 1 100000
      return some { height, width }

/-- A duration in seconds as whole milliseconds. -/
def optionalDurationMilliseconds (value : Value) (field : JsString) : Checked (Option ℤ) :=
  let failure := Except.error (invalidDefinition (field ++ js " is outside the allowed range."))
  match value with
  | .undefined | .null => .ok none
  | .number number =>
      match number.toRat? with
      | some seconds =>
          if seconds < 1 / 4 ∨ seconds > 604800 then failure
          else .ok (some (Binary64.mathRound (Binary64.multiply seconds 1000)))
      | none => failure
  | _ => failure

def hasStableVersion (version : Version) : Bool :=
  version.id.isSome || version.eTag.isSome || version.cTag.isSome || version.checksum.isSome

def providerLimitations (version : Version) : List JsString :=
  if hasStableVersion version then
    [js "VASI binds the supplied provider change token but does not possess or hash the external media bytes."]
  else
    [js "The provider supplied no stable version or content digest; VASI cannot prove the exact media bytes shown."]

/-- The characters [A-Za-z0-9_-] of provider item identifiers. -/
def isItemUnit (unit : CodeUnit) : Bool :=
  isLowerLetter unit || isUpperLetter unit || isDigit unit || unit.val ∈ [95, 45]

/-- An item identifier in a pattern of allowed units and lengths. -/
def itemIdentifier (candidate : Value) (allowed : CodeUnit → Bool) (minimum maximum : ℕ)
    (message : JsString) : Checked JsString :=
  match candidate with
  | .string text =>
      if minimum ≤ text.length ∧ text.length ≤ maximum ∧ text.all allowed then .ok text
      else .error (invalidDefinition message)
  | _ => .error (invalidDefinition message)

/-- An optional string as a value; an absent one is undefined. -/
def optionalValue : Option JsString → Value
  | some text => .string text
  | none => .undefined

/-- The host without a leading www label. -/
def withoutWww (host : JsString) : JsString :=
  if (js "www.").isPrefixOf host then host.drop 4 else host

def youtubeId (source : Url) (supplied : Value) : Checked JsString := do
  let host := withoutWww source.hostname
  let candidate ←
    if host = js "youtu.be" then pure (orElse supplied (optionalValue source.firstPathSegment))
    else if host ∈ [js "youtube.com", js "m.youtube.com", js "music.youtube.com",
        js "youtube-nocookie.com"] then
      pure (orElse supplied (orElse (optionalValue (source.searchParam (js "v")))
        (optionalValue source.embeddedId)))
    else .error (invalidDefinition (js "The YouTube source host is unsupported."))
  itemIdentifier candidate isItemUnit 11 11 (js "The YouTube video ID is invalid.")

def vimeoId (source : Url) (supplied : Value) : Checked JsString := do
  requireHost source fun host =>
    host ∈ [js "vimeo.com", js "www.vimeo.com", js "player.vimeo.com"]
  itemIdentifier (orElse supplied (optionalValue source.videoId)) isDigit 6 12
    (js "The Vimeo video ID is invalid.")

def googleDriveId (source : Url) (supplied : Value) : Checked JsString :=
  itemIdentifier
    (orElse supplied (orElse (optionalValue source.driveId)
      (optionalValue (source.searchParam (js "id")))))
    isItemUnit 10 200 (js "The Google Drive item ID is invalid.")

def requiredItemId (value : Value) (provider : JsString) : Checked JsString := do
  match ← optionalDefinitionString value (js "descriptor.itemId") 512 with
  | some itemId => return itemId
  | none => .error (invalidDefinition (provider ++ js " media requires a stable item ID."))

/-- Whether a host belongs to the SharePoint preview service. -/
def isSharePointHost (host : JsString) : Bool :=
  (js ".sharepoint.com").isSuffixOf host || host == js "onedrive.live.com"

/-- The item identifier of a provider that has none of its own. -/
def itemIdOr (input : Members) (fallback : JsString) : Checked JsString := do
  let itemId ← optionalDefinitionString (Value.member input (js "itemId"))
    (js "descriptor.itemId") 256
  return itemId.getD fallback

def providerDescriptor (provider : JsString) (source : Url) (input : Members) (version : Version)
    (kind : JsString) : Checked ProviderDescriptor :=
  if provider = js "youtube" then do
    let itemId ← youtubeId source (Value.member input (js "itemId"))
    return {
      adapter := ⟨js "vasi-youtube-iframe", js "1"⟩
      allowedOrigins := [js "https://www.youtube-nocookie.com", js "https://www.youtube.com"]
      capability := js "instrumented_player"
      embedUrl := some (js "https://www.youtube-nocookie.com/embed/" ++ itemId ++
        js "?enablejsapi=1&rel=0&playsinline=1")
      itemId
      kind := js "video"
      limitations := providerLimitations version }
  else if provider = js "vimeo" then do
    let itemId ← vimeoId source (Value.member input (js "itemId"))
    return {
      adapter := ⟨js "vasi-vimeo-player", js "1"⟩
      allowedOrigins := [js "https://player.vimeo.com"]
      capability := js "instrumented_player"
      embedUrl := some (js "https://player.vimeo.com/video/" ++ itemId ++ js "?dnt=1")
      itemId
      kind := js "video"
      limitations := providerLimitations version }
  else if provider = js "sharepoint" then do
    requireHost source isSharePointHost
    let embed ← safeURL platform
      (orElse (Value.member input (js "embedUrl")) (Value.member input (js "sourceUrl")))
      (js "descriptor.embedUrl")
    requireHost embed isSharePointHost
    let itemId ← requiredItemId (Value.member input (js "itemId")) (js "SharePoint")
    return {
      adapter := ⟨js "vasi-microsoft-preview", js "1"⟩
      allowedOrigins := [embed.origin]
      capability := if hasStableVersion version then js "version_aware_preview"
        else js "generic_embed"
      embedUrl := some embed.href
      itemId
      kind
      limitations := (if hasStableVersion version then []
          else [js "No stable version/eTag/checksum was supplied; the referenced bytes cannot be identified exactly."]) ++
        [js "SharePoint preview access can expire, be revoked, or require a separate provider session.",
         js "SharePoint preview presentation is observable, but in-frame playback is not claimed."] }
  else if provider = js "google_drive" then do
    requireHost source fun host => host ∈ [js "drive.google.com", js "docs.google.com"]
    let itemId ← googleDriveId source (Value.member input (js "itemId"))
    return {
      adapter := ⟨js "vasi-google-drive-preview", js "1"⟩
      allowedOrigins := [js "https://drive.google.com", js "https://docs.google.com"]
      capability := js "generic_embed"
      embedUrl := some (js "https://drive.google.com/file/d/" ++ itemId ++ js "/preview")
      itemId
      kind
      limitations := providerLimitations version ++
        [js "Google Drive access can be revoked or require a separate provider session.",
         js "Google Drive preview visibility is observable, but in-frame playback is not claimed."] }
  else if provider = js "dropbox" then do
    requireHost source fun host => host ∈ [js "www.dropbox.com", js "dropbox.com"]
    let itemId ← itemIdOr input source.pathname
    return {
      adapter := ⟨js "vasi-dropbox-external", js "1"⟩
      allowedOrigins := [source.origin]
      capability := js "external_link"
      embedUrl := none
      itemId
      kind
      limitations := providerLimitations version ++
        [js "Dropbox Embedder does not support audio or video; VASI records external-link departure and return only."] }
  else if provider = js "generic" then do
    let embed ← safeURL platform
      (orElse (Value.member input (js "embedUrl")) (Value.member input (js "sourceUrl")))
      (js "descriptor.embedUrl")
    if embed.origin ≠ source.origin then
      .error (invalidDefinition (js "Generic source and embed origins must match."))
    else
      let itemId ← itemIdOr input source.href
      return {
        adapter := ⟨js "vasi-generic-embed", js "1"⟩
        allowedOrigins := [source.origin]
        capability := js "generic_embed"
        embedUrl := some embed.href
        itemId
        kind
        limitations := providerLimitations version ++
          [js "Generic iframe visibility is observable, but in-frame interaction or playback is not claimed."] }
  else if provider = js "external_link" then do
    let itemId ← itemIdOr input source.href
    return {
      adapter := ⟨js "vasi-external-link", js "1"⟩
      allowedOrigins := [source.origin]
      capability := js "external_link"
      embedUrl := none
      itemId
      kind
      limitations := providerLimitations version ++
        [js "The provider is opened outside VASI; only departure, return, and acknowledgement are observable."] }
  else .error (invalidDefinition (js "The media adapter is unavailable."))

/-- A value that is one of the allowed strings, or the error given. -/
def oneOfStrings (value : Value) (allowed : List JsString) (message : JsString) :
    Checked JsString :=
  match value with
  | .string text => if text ∈ allowed then .ok text else .error (invalidDefinition message)
  | _ => .error (invalidDefinition message)

def normalizeAccessMode (value : Value) : Checked JsString :=
  oneOfStrings (orElse value (.string (js "provider_shared")))
    [js "public", js "provider_shared", js "provider_authenticated"]
    (js "The media access mode is unsupported.")

def normalizeDescriptor (value : Value) : Checked Descriptor := do
  let input ← strictDefinitionObject value (js "media descriptor")
    [js "accessMode", js "checksum", js "description", js "dimensions", js "durationSeconds",
     js "embedUrl", js "itemId", js "kind", js "lastModifiedAt", js "owner", js "provider",
     js "sourceUrl", js "title", js "version"]
  let provider ← boundedDefinitionString (Value.member input (js "provider"))
    (js "descriptor.provider") 1 32
  if provider ∉ MEDIA_PROVIDERS then
    .error (invalidDefinition (js "The media provider is unsupported."))
  else
    let source ← safeURL platform (Value.member input (js "sourceUrl")) (js "descriptor.sourceUrl")
    let kind ← oneOfStrings (orElse (Value.member input (js "kind")) (.string (js "video")))
      [js "image", js "video", js "audio", js "presentation", js "document"]
      (js "The media kind is unsupported.")
    let version ← normalizeVersion platform input
    let normalized ← providerDescriptor platform provider source input version kind
    let accessMode ← normalizeAccessMode (Value.member input (js "accessMode"))
    let description ← optionalDefinitionString (Value.member input (js "description"))
      (js "descriptor.description") 2000
    let dimensions ← normalizeDimensions (Value.member input (js "dimensions"))
    let durationMilliseconds ← optionalDurationMilliseconds
      (Value.member input (js "durationSeconds")) (js "descriptor.durationSeconds")
    let owner ← optionalDefinitionString (Value.member input (js "owner"))
      (js "descriptor.owner") 320
    let title ← boundedDefinitionString (Value.member input (js "title"))
      (js "descriptor.title") 2 200
    return {
      accessMode, description, dimensions, durationMilliseconds, owner, provider
      providerDescriptor := normalized
      sourceUrl := source.href
      title, version }

def normalizeCompletionPolicy (value : Value) (descriptor : Descriptor) :
    Checked CompletionPolicy := do
  let input ← optionalObjectWith invalidDefinition value (js "completion policy")
    [js "minimumUniqueSeconds", js "mode", js "thresholdPercent"]
  let instrumented := descriptor.providerDescriptor.capability = js "instrumented_player"
  let defaultMode := if instrumented then js "playback_or_acknowledgement"
    else js "acknowledgement"
  let modeText ← oneOfStrings (orElse (Value.member input (js "mode")) (.string defaultMode))
    [js "playback", js "acknowledgement", js "playback_or_acknowledgement"]
    (js "The media completion mode is unsupported.")
  let mode := if modeText = js "playback" then CompletionMode.playback
    else if modeText = js "acknowledgement" then .acknowledgement
    else .playbackOrAcknowledgement
  if ¬ instrumented ∧ mode ≠ .acknowledgement then
    .error (invalidDefinition (js "This media capability cannot require playback completion."))
  else
    let minimumUniqueSeconds ← safeInteger
      (orDefault (Value.member input (js "minimumUniqueSeconds")) (.number (.finite 1)))
      (js "minimumUniqueSeconds") 0 604800
    let thresholdPercent ← safeInteger
      (orDefault (Value.member input (js "thresholdPercent")) (.number (.finite 90)))
      (js "thresholdPercent") 1 100
    return { minimumUniqueSeconds, mode, thresholdPercent }

def normalizeTelemetryPolicy (value : Value) : Checked TelemetryPolicy := do
  let input ← optionalObjectWith invalidDefinition value (js "telemetry policy")
    [js "heartbeatSeconds", js "idleSeconds", js "maxCreditedGapSeconds"]
  let heartbeatSeconds ← safeInteger
    (orDefault (Value.member input (js "heartbeatSeconds")) (.number (.finite 5)))
    (js "heartbeatSeconds") 2 60
  let idleSeconds ← safeInteger
    (orDefault (Value.member input (js "idleSeconds")) (.number (.finite 30)))
    (js "idleSeconds") heartbeatSeconds 900
  let maxCreditedGapSeconds ← safeInteger
    (orDefault (Value.member input (js "maxCreditedGapSeconds"))
      (.number (.finite (max 10 (heartbeatSeconds * 2) : ℕ))))
    (js "maxCreditedGapSeconds") heartbeatSeconds 120
  return { heartbeatSeconds, idleSeconds, maxCreditedGapSeconds }

def normalizeAccessibilityAlternative (value : Value) :
    Checked (Option AccessibilityAlternative) :=
  match value with
  | .undefined => .ok none
  | _ => do
      let input ← strictDefinitionObject value (js "accessibility alternative")
        [js "label", js "url"]
      let label ← boundedDefinitionString (Value.member input (js "label"))
        (js "accessibilityAlternative.label") 2 160
      if (Value.member input (js "url")).truthy then
        let url ← safeURL platform (Value.member input (js "url"))
          (js "accessibilityAlternative.url")
        return some { label, url := some url.href }
      else return some { label, url := none }

def normalizeExternalMediaContent (value : Value) : Checked ExternalMediaContent := do
  let input ← strictDefinitionObject value (js "external media content")
    [js "accessibilityAlternative", js "acknowledgementLabel", js "completionPolicy",
     js "descriptor", js "prompt", js "providerNotice", js "telemetryPolicy"]
  let descriptor ← normalizeDescriptor platform (Value.member input (js "descriptor"))
  let completionPolicy ← normalizeCompletionPolicy (Value.member input (js "completionPolicy"))
    descriptor
  let accessibilityAlternative ← normalizeAccessibilityAlternative platform
    (Value.member input (js "accessibilityAlternative"))
  let acknowledgementLabel ← optionalDefinitionString
    (Value.member input (js "acknowledgementLabel")) (js "acknowledgementLabel") 160
  let prompt ← boundedDefinitionString (Value.member input (js "prompt"))
    (js "activity.content.prompt") 2 1000
  let providerNotice ← optionalDefinitionString (Value.member input (js "providerNotice"))
    (js "providerNotice") 1000
  let telemetryPolicy ← normalizeTelemetryPolicy (Value.member input (js "telemetryPolicy"))
  return {
    accessibilityAlternative
    acknowledgementLabel := acknowledgementLabel.getD
      (js "I confirm that I reviewed the available media or accessibility alternative.")
    completionPolicy, descriptor, prompt
    providerNotice := providerNotice.getD
      (js "This content is hosted by an external provider, which may receive normal network, browser, cookie, or account context.")
    telemetryPolicy }

end

end Vasi.Media
