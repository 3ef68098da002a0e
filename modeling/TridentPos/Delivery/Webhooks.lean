import TridentPos.Core.Text
import TridentPos.Library.ExpiringMap
import TridentPos.Library.JsonValue

/-!
# Delivery webhooks

`WebhookCryptographicVerifier` of `webhook-verifier.ts`: a request is checked against the events
already seen, its timestamp and its signature. What the platform provides (`JSON.parse`, `Number`,
`Date.parse`, the texts of numbers, the HMAC and the decoding of a signature) is a parameter.
-/
namespace TridentPos.Delivery

open Core Library

inductive DeliveryChannel where
  | uberEats
  | rappi
  | didiFood
  | directFleet
deriving DecidableEq

inductive SignatureFormat where
  | hex
  | base64
deriving DecidableEq

structure ConnectorContract where
  signatureHeader : String
  timestampHeader : Option String
  replayWindowMs : ℚ
  signatureFormat : SignatureFormat

structure DeliveryIntegrationConfig where
  (orgId branchId webhookSecret : String)
  (isEnabled autoAcceptEnabled : Bool)
  (minOrderAmount maxOrderAmount : Option String)

structure IncomingWebhookRequest where
  channel : DeliveryChannel
  headers : List (String × Option String)
  rawBody : String

inductive DeliveryError where
  | integrationDisabled (channel : DeliveryChannel) (branchId : String)
  | unparsedBody (channel : DeliveryChannel) (message : String)
  | nullBody
  | duplicateEvent (channel : DeliveryChannel) (eventId : Option (Json ℚ))
  | invalidSignature (channel : DeliveryChannel) (message : String)
  | staleTimestamp (channel : DeliveryChannel) (eventAgeMs : Option ℚ) (maxToleranceMs : ℚ)
  | typeError (message : String)
  | syntaxError (message : String)
  | unmappedCatalogItem (channel externalItemId sku : Option (Json ℚ))
  | undispatched (message : String)
  | catalog (message : String)

/-- What the platform provides. A number is `none` where the source has `NaN` or an infinity. -/
structure Platform where
  parseJson : String → Except String (Json ℚ)
  toNumber : String → Option ℚ
  toFixed4 : ℚ → String
  toText : Json ℚ → String
  dateParse : Json ℚ → Option ℚ
  hmacDigest : SignatureFormat → String → String → String
  bufferFrom : SignatureFormat → String → List UInt8

def defaultReplayWindowMs : ℚ := 300000

def maxFutureClockDriftMs : ℚ := 60000

def defaultRetentionMs : ℚ := 86400000

def standardContract (signatureHeader timestampHeader : String) : ConnectorContract :=
  { signatureHeader := signatureHeader, timestampHeader := some timestampHeader
    replayWindowMs := defaultReplayWindowMs, signatureFormat := .hex }

def standardConnectorContracts : DeliveryChannel → ConnectorContract
  | .uberEats => standardContract "x-uber-signature" "x-delivery-timestamp"
  | .rappi => standardContract "x-rappi-signature" "x-rappi-timestamp"
  | .didiFood => standardContract "x-didi-signature" "x-didi-timestamp"
  | .directFleet => standardContract "x-trident-signature" "x-trident-timestamp"

structure Verifier where
  contracts : DeliveryChannel → ConnectorContract
  ttlMs : ℚ

def defaultVerifier : Verifier :=
  { contracts := standardConnectorContracts, ttlMs := defaultRetentionMs }

/-! ### Deduplication -/

/-- A property of a parsed value; `undefined` is `none`. -/
def property (name : String) : Json ℚ → Option (Json ℚ)
  | .object members => (members.find? fun entry => entry.1 == name).map Prod.snd
  | _ => none

/-- Equality of `Map` keys: two arrays or objects are never the same. -/
def sameKey : Option (Json ℚ) → Option (Json ℚ) → Bool
  | none, none => true
  | some .null, some .null => true
  | some (.bool a), some (.bool b) => a == b
  | some (.number a), some (.number b) => a == b
  | some (.string a), some (.string b) => a == b
  | _, _ => false

abbrev DeduplicationStore := List (Option (Json ℚ) × ℚ)

/-! ### Headers and timestamps -/

def getHeaderCaseInsensitive (headers : List (String × Option String)) (targetName : String) :
    Option String :=
  match headers.find? fun entry => toLowerCase entry.1 == toLowerCase targetName with
  | some entry => entry.2
  | none => none

/-- A value the source tests for truth: the empty text counts as none. -/
def present (value : Option String) : Option String := value.filter fun text => text != ""

def truthy : Json ℚ → Bool
  | .null => false
  | .bool value => value
  | .number value => value != 0
  | .string text => text != ""
  | .array _ => true
  | .object _ => true

def timestampHeaderValue (contract : ConnectorContract) (request : IncomingWebhookRequest) :
    Option String :=
  match present contract.timestampHeader with
  | some name => present (getHeaderCaseInsensitive request.headers name)
  | none => none

def requireSignature (contract : ConnectorContract) (request : IncomingWebhookRequest) :
    Except DeliveryError String :=
  match present (getHeaderCaseInsensitive request.headers contract.signatureHeader) with
  | some signature => .ok signature
  | none => .error (.invalidSignature request.channel
      ("Missing required signature header '" ++ contract.signatureHeader ++ "'."))

section Verifying

variable (platform : Platform)

def headerTimestampMs (text : String) : Option ℚ :=
  match platform.toNumber text with
  | some parsedNum => some (if parsedNum > 10000000000 then parsedNum else parsedNum * 1000)
  | none => platform.dateParse (.string text)

/-- The `orderTimestamp` of the body, if it has one, else the current time. -/
def bodyTimestampMs (rawBody : String) (nowMs : ℚ) : Option ℚ :=
  match platform.parseJson rawBody with
  | .error _ => some nowMs
  | .ok body =>
    match (property "orderTimestamp" body).filter truthy with
    | some value => platform.dateParse value
    | none => some nowMs

variable (contract : ConnectorContract) (request : IncomingWebhookRequest)

def timestampMs (nowMs : ℚ) : Option ℚ :=
  match timestampHeaderValue contract request with
  | some text => headerTimestampMs platform text
  | none => bodyTimestampMs platform request.rawBody nowMs

def checkFreshness (nowMs : ℚ) : Except DeliveryError ℚ :=
  match timestampMs platform contract request nowMs with
  | none => .error (.staleTimestamp request.channel none contract.replayWindowMs)
  | some timestamp =>
    if timestamp > nowMs + maxFutureClockDriftMs then
      .error (.staleTimestamp request.channel (some (timestamp - nowMs)) contract.replayWindowMs)
    else if nowMs - timestamp > contract.replayWindowMs then
      .error (.staleTimestamp request.channel (some (nowMs - timestamp)) contract.replayWindowMs)
    else .ok timestamp

def signs (secret signature payload : String) : Bool :=
  platform.bufferFrom contract.signatureFormat signature ==
    platform.bufferFrom contract.signatureFormat
      (platform.hmacDigest contract.signatureFormat secret payload)

/-- With a timestamp header the signature covers it, or, for older providers, the body alone. -/
def signatureMatches (secret signature : String) : Bool :=
  match timestampHeaderValue contract request with
  | some text => signs platform contract secret signature (text ++ "." ++ request.rawBody) ||
      signs platform contract secret signature request.rawBody
  | none => signs platform contract secret signature request.rawBody

def authenticate (secret : String) (nowMs : ℚ) : Except DeliveryError ℚ := do
  let signature ← requireSignature contract request
  let timestamp ← checkFreshness platform contract request nowMs
  if !signatureMatches platform contract request secret signature then
    throw (.invalidSignature request.channel "Signature does not match computed HMAC digest.")
  return timestamp

/-- `verify`, where `Date.now()` is `nowMs`. The store is purged also when the request is
refused. -/
def verify (verifier : Verifier) (store : DeduplicationStore) (request : IncomingWebhookRequest)
    (secret : String) (eventId : Option (Json ℚ)) (nowMs : ℚ) :
    Except DeliveryError ℚ × DeduplicationStore :=
  let store := ExpiringMap.purge verifier.ttlMs nowMs store
  if ExpiringMap.has sameKey eventId store then
    (.error (.duplicateEvent request.channel eventId), store)
  else
    match authenticate platform (verifier.contracts request.channel) request secret nowMs with
    | .error e => (.error e, store)
    | .ok timestamp => (.ok timestamp, ExpiringMap.set sameKey eventId nowMs
        (ExpiringMap.purge verifier.ttlMs nowMs store))

end Verifying

end TridentPos.Delivery
