import TridentPos.Delivery.Orders
import Mathlib.Tactic.Linarith

/-!
# Replayed webhooks

A provider signs messages; an adversary may send any of them again at any time, under headers of
their choice. The deduplication store forgets a message after its retention, and from then on only
the timestamp can give a replay away. A timestamp the signature covers does; one the adversary
chooses does not.
-/
namespace TridentPos.Delivery

open Core Library Fallible ExpiringMap List

inductive SignatureScheme where
  | bodyAlone
  | timestampAndBody (timestamp : String)

structure ProviderMessage where
  body : String
  scheme : SignatureScheme

def ProviderMessage.payload (message : ProviderMessage) : String :=
  match message.scheme with
  | .bodyAlone => message.body
  | .timestampAndBody timestamp => timestamp ++ "." ++ message.body

/-- No text that ends, after a point, in a JSON text is itself one, if one of the two is an
object. -/
def SplitsApart (platform : Platform) : Prop :=
  ∀ head tail whole part, platform.parseJson (head ++ "." ++ tail) = .ok whole →
    platform.parseJson tail = .ok part →
    ∀ members, whole ≠ .object members ∧ part ≠ .object members

structure Provider (platform : Platform) (messages : List ProviderMessage) : Prop where
  event : ∀ message ∈ messages, ∃ members id, platform.parseJson message.body = .ok (.object members) ∧
    property "eventId" (.object members) = some (.string id)
  own : ∀ a ∈ messages, ∀ b ∈ messages, ∀ bodyA bodyB,
    platform.parseJson a.body = .ok bodyA → platform.parseJson b.body = .ok bodyB →
    property "eventId" bodyA = property "eventId" bodyB → a = b

structure WebhookCall where
  request : IncomingWebhookRequest
  nowMs : ℚ
  oracle : CallOracle

structure AcceptedWebhook where
  rawBody : String
  acceptedAt : ℚ
deriving DecidableEq

/-- A service, the time of its last call and the requests it accepted, oldest first. -/
structure Hub where
  store : DeduplicationStore
  clock : ℚ
  accepted : List AcceptedWebhook

variable {timestamp : ℚ}

section Replay

variable (platform : Platform) (verifier : Verifier) (config : DeliveryIntegrationConfig)
  (messages : List ProviderMessage)

def Hub.process (hub : Hub) (call : WebhookCall) : Hub :=
  match processWebhook platform config call.oracle verifier hub.store call.request call.nowMs with
  | (.ok _, store) =>
    { store := store, clock := call.nowMs
      accepted := hub.accepted ++ [⟨call.request.rawBody, call.nowMs⟩] }
  | (.error _, store) => { store := store, clock := call.nowMs, accepted := hub.accepted }

def Unforged (request : IncomingWebhookRequest) : Prop :=
  ∀ signature payload, let contract := verifier.contracts request.channel
    getHeaderCaseInsensitive request.headers contract.signatureHeader = some signature →
    signs platform contract config.webhookSecret signature payload →
    ∃ message ∈ messages, message.payload = payload

inductive HubStep : Hub → Hub → Prop
  | call (hub : Hub) (call : WebhookCall) (later : hub.clock ≤ call.nowMs)
      (unforged : Unforged platform verifier config messages call.request) :
      HubStep hub (hub.process platform verifier config call)

/-- A request for a message accepted earlier comes while the store still remembers it, or the
signature of the message covers a timestamp and the contract's window is within the retention. -/
def Timely (hub : Hub) (call : WebhookCall) : Prop :=
  ∀ entry ∈ hub.accepted, entry.rawBody = call.request.rawBody →
    call.nowMs ≤ entry.acceptedAt + verifier.ttlMs ∨
    (⟨call.request.rawBody, .bodyAlone⟩ ∉ messages ∧
      (verifier.contracts call.request.channel).replayWindowMs + maxFutureClockDriftMs ≤
        verifier.ttlMs)

inductive TimelyStep : Hub → Hub → Prop
  | call (hub : Hub) (call : WebhookCall) (later : hub.clock ≤ call.nowMs)
      (unforged : Unforged platform verifier config messages call.request)
      (timely : Timely verifier messages hub call) :
      TimelyStep hub (hub.process platform verifier config call)

def AcceptedOnce (hub : Hub) : Prop :=
  ∀ message ∈ messages, (hub.accepted.filter fun entry => entry.rawBody == message.body).length ≤ 1

/-! ### What an accepted request shows -/

variable {platform verifier config messages}
  {contract : ConnectorContract} {request : IncomingWebhookRequest} {nowMs : ℚ}

theorem checkFreshness_eq_ok
    (fresh : checkFreshness platform contract request nowMs = .ok timestamp) :
    timestampMs platform contract request nowMs = some timestamp ∧
      timestamp ≤ nowMs + maxFutureClockDriftMs ∧ nowMs ≤ timestamp + contract.replayWindowMs := by
  unfold checkFreshness at fresh
  split at fresh
  next => simp at fresh
  next shown read =>
    simp only [refused_eq_ok, Except.ok.injEq] at fresh
    obtain ⟨future, old, rfl⟩ := fresh
    exact ⟨read, not_lt.mp future, by linarith [not_lt.mp old]⟩

variable {secret rawBody : String}

theorem authenticate_eq_ok
    (passed : authenticate platform contract request secret nowMs = .ok timestamp) :
    ∃ signature,
      getHeaderCaseInsensitive request.headers contract.signatureHeader = some signature ∧
      checkFreshness platform contract request nowMs = .ok timestamp ∧
      signatureMatches platform contract request secret signature := by
  simp only [authenticate, bind_eq_ok] at passed
  obtain ⟨signature, given, shown, fresh, matched⟩ := passed
  rw [guard_eq_ok, pure_eq_ok] at matched
  obtain ⟨good, rfl⟩ := matched
  refine ⟨signature, ?_, fresh, by simpa using good⟩
  unfold requireSignature at given
  split at given
  next text found =>
    obtain rfl := Except.ok.inj given
    exact (Option.filter_eq_some_iff.mp found).1
  next => simp at given

variable {store store' : DeduplicationStore} {eventId : Option (Json ℚ)}

theorem verify_eq_ok
    (passed : verify platform verifier store request secret eventId nowMs =
      (.ok timestamp, store')) :
    has sameKey eventId (purge verifier.ttlMs nowMs store) = false ∧
      authenticate platform (verifier.contracts request.channel) request secret nowMs =
        .ok timestamp := by
  unfold verify at passed
  simp only at passed
  split at passed
  next => simp at passed
  next absent =>
    refine ⟨by simpa using absent, ?_⟩
    split at passed
    next => simp at passed
    next shown authentic =>
      obtain ⟨same, -⟩ := Prod.mk.inj passed
      rw [authentic]
      exact same

theorem append_point_eq {a b c d : String} (same : a ++ "." ++ b = c ++ "." ++ d) :
    (a = c ∧ b = d) ∨ (∃ t, b = t ++ "." ++ d) ∨ ∃ t, d = t ++ "." ++ b := by
  have chars : a.toList ++ '.' :: b.toList = c.toList ++ '.' :: d.toList := by
    simpa using congrArg String.toList same
  rcases append_eq_append_iff.mp chars with ⟨rest, left, right⟩ | ⟨rest, left, right⟩
  · cases rest with
    | nil =>
      refine .inl ⟨String.ext (by simpa using left.symm), String.ext ?_⟩
      simpa using right
    | cons _ rest =>
      refine .inr (.inl ⟨String.ofList rest, String.ext ?_⟩)
      simpa using (List.cons.inj right).2
  · cases rest with
    | nil =>
      refine .inl ⟨String.ext (by simpa using left), String.ext ?_⟩
      simpa using right.symm
    | cons _ rest =>
      refine .inr (.inr ⟨String.ofList rest, String.ext ?_⟩)
      simpa using (List.cons.inj right).2

variable {message : ProviderMessage} {payload : Json ℚ}

theorem signed_body_alone (splits : SplitsApart platform) (provider : Provider platform messages)
    (known : message ∈ messages) (parsed : platform.parseJson rawBody = .ok payload)
    (signed : message.payload = rawBody) : message = ⟨rawBody, .bodyAlone⟩ := by
  obtain ⟨members, id, object, -⟩ := provider.event message known
  obtain ⟨body, scheme⟩ := message
  cases scheme with
  | bodyAlone => exact congrArg (fun body => ProviderMessage.mk body .bodyAlone) signed
  | timestampAndBody timestamp =>
    rw [← signed] at parsed
    exact absurd rfl (splits timestamp body payload (.object members) parsed object members).2

theorem signed_with_timestamp (splits : SplitsApart platform)
    (provider : Provider platform messages) (known : message ∈ messages) {text : String}
    (parsed : platform.parseJson rawBody = .ok payload)
    (signed : message.payload = text ++ "." ++ rawBody) :
    message = ⟨rawBody, .timestampAndBody text⟩ := by
  obtain ⟨members, id, object, -⟩ := provider.event message known
  obtain ⟨body, scheme⟩ := message
  cases scheme with
  | bodyAlone =>
    have whole : platform.parseJson (text ++ "." ++ rawBody) = .ok (.object members) :=
      signed ▸ object
    exact absurd rfl (splits text rawBody (.object members) payload whole parsed members).1
  | timestampAndBody timestamp =>
    rcases append_point_eq signed with ⟨rfl, rfl⟩ | ⟨t, rfl⟩ | ⟨t, rfl⟩
    · rfl
    · exact absurd rfl (splits t rawBody (.object members) payload object parsed members).1
    · exact absurd rfl (splits t body payload (.object members) parsed object members).2

theorem authentic_message (splits : SplitsApart platform) (provider : Provider platform messages)
    (unforged : Unforged platform verifier config messages request)
    (parsed : platform.parseJson request.rawBody = .ok payload)
    (passed : authenticate platform (verifier.contracts request.channel) request
      config.webhookSecret nowMs = .ok timestamp) :
    ⟨request.rawBody, .bodyAlone⟩ ∈ messages ∨
      ∃ text, ⟨request.rawBody, .timestampAndBody text⟩ ∈ messages ∧
        headerTimestampMs platform text = some timestamp := by
  obtain ⟨signature, given, fresh, matched⟩ := authenticate_eq_ok passed
  obtain ⟨shown, -, -⟩ := checkFreshness_eq_ok fresh
  have alone (signed : signs platform (verifier.contracts request.channel) config.webhookSecret
      signature request.rawBody) : ⟨request.rawBody, .bodyAlone⟩ ∈ messages := by
    obtain ⟨message, known, same⟩ := unforged signature _ given signed
    exact signed_body_alone splits provider known parsed same ▸ known
  unfold signatureMatches at matched
  unfold timestampMs at shown
  split at matched
  next text header =>
    rw [header] at shown
    rcases Bool.or_eq_true_iff.mp matched with withTimestamp | bodyOnly
    · obtain ⟨message, known, same⟩ := unforged signature _ given withTimestamp
      refine .inr ⟨text, ?_, shown⟩
      exact signed_with_timestamp splits provider known parsed same ▸ known
    · exact .inl (alone bodyOnly)
  next => exact .inl (alone matched)

/-! ### One call -/

variable (platform verifier config) in
/-- What a call leaves: entries within the retention stay, and an accepted request was authentic
and is remembered. -/
structure CallEffect (hub hub' : Hub) (call : WebhookCall) : Prop where
  clock : hub'.clock = call.nowMs
  kept : ∀ entry ∈ hub.store, call.nowMs ≤ entry.2 + verifier.ttlMs → entry ∈ hub'.store
  accepted : hub'.accepted = hub.accepted ∨
    ∃ payload timestamp, hub'.accepted = hub.accepted ++ [⟨call.request.rawBody, call.nowMs⟩] ∧
      platform.parseJson call.request.rawBody = .ok payload ∧
      has sameKey (property "eventId" payload) (purge verifier.ttlMs call.nowMs hub.store) = false ∧
      authenticate platform (verifier.contracts call.request.channel) call.request
        config.webhookSecret call.nowMs = .ok timestamp ∧
      (property "eventId" payload, call.nowMs) ∈ hub'.store

variable (platform verifier) in
theorem verify_kept (store : DeduplicationStore) (request : IncomingWebhookRequest)
    (secret : String) (eventId : Option (Json ℚ)) (nowMs : ℚ) (entry : Option (Json ℚ) × ℚ)
    (member : entry ∈ store) (recent : nowMs ≤ entry.2 + verifier.ttlMs) :
    entry ∈ (verify platform verifier store request secret eventId nowMs).2 := by
  have purged := (mem_purge verifier.ttlMs nowMs store entry).mpr ⟨member, recent⟩
  have twice := (mem_purge verifier.ttlMs nowMs _ entry).mpr ⟨purged, recent⟩
  unfold verify
  simp only
  split
  next => exact purged
  next absent =>
    split
    next => exact purged
    apply mem_set_of_absent _ _ twice
    rw [Bool.not_eq_true] at absent
    rw [has, any_eq_false] at absent ⊢
    intro other listed
    exact absent other ((mem_purge _ _ _ _).mp listed).1

theorem verify_recorded
    (passed : verify platform verifier store request secret eventId nowMs =
      (.ok timestamp, store')) :
    (eventId, nowMs) ∈ store' := by
  unfold verify at passed
  simp only at passed
  split at passed
  next => simp at passed
  split at passed
  next => simp at passed
  next =>
    obtain ⟨-, rfl⟩ := Prod.mk.inj passed
    exact mem_set_self _ _ _ _

theorem processWebhook_eq (enabled : config.isEnabled)
    (parsed : platform.parseJson request.rawBody = .ok payload) (object : payload ≠ .null)
    (oracle : CallOracle) :
    let verified := verify platform verifier store request config.webhookSecret
      (property "eventId" payload) nowMs
    processWebhook platform config oracle verifier store request nowMs =
      (verified.1 >>= fun _ => fulfil platform config oracle payload, verified.2) := by
  intro verified
  simp only [processWebhook, enabled, parsed]
  cases payload <;> first | exact absurd rfl object | skip
  all_goals rcases outcome : verified with ⟨_ | _, _⟩ <;> simp_all [verified]

variable (platform verifier config) in
theorem processWebhook_cases (request : IncomingWebhookRequest) (oracle : CallOracle) (nowMs : ℚ) :
    (∃ e, ∀ store, processWebhook platform config oracle verifier store request nowMs =
      (.error e, store)) ∨
    ∃ payload, platform.parseJson request.rawBody = .ok payload ∧ ∀ store,
      let verified := verify platform verifier store request config.webhookSecret
        (property "eventId" payload) nowMs
      processWebhook platform config oracle verifier store request nowMs =
        (verified.1 >>= fun _ => fulfil platform config oracle payload, verified.2) := by
  by_cases enabled : config.isEnabled
  · cases parsed : platform.parseJson request.rawBody with
    | error message => exact .inl ⟨_, fun store => by simp only [processWebhook, enabled, parsed]; rfl⟩
    | ok payload =>
      by_cases object : payload = .null
      · subst object
        exact .inl ⟨_, fun store => by simp only [processWebhook, enabled, parsed]; rfl⟩
      · exact .inr ⟨payload, rfl, fun store => processWebhook_eq enabled parsed object oracle⟩
  · exact .inl ⟨_, fun store => by simp only [processWebhook, enabled]; rfl⟩

variable (platform verifier config) in
theorem Hub.process_effect (hub : Hub) (call : WebhookCall) :
    CallEffect platform verifier config hub (hub.process platform verifier config call) call := by
  unfold Hub.process
  rcases processWebhook_cases platform verifier config call.request call.oracle call.nowMs with
    ⟨e, outcome⟩ | ⟨payload, parsed, outcome⟩
  · rw [outcome]
    exact ⟨rfl, fun _ member _ => member, .inl rfl⟩
  · have kept := verify_kept platform verifier hub.store call.request config.webhookSecret
      (property "eventId" payload) call.nowMs
    rw [outcome]
    rcases verified : verify platform verifier hub.store call.request config.webhookSecret
      (property "eventId" payload) call.nowMs with ⟨_ | timestamp, store⟩
    · rw [verified] at kept
      exact ⟨rfl, kept, .inl rfl⟩
    · rw [verified] at kept
      obtain ⟨absent, authentic⟩ := verify_eq_ok verified
      have recorded := verify_recorded verified
      cases fulfil platform config call.oracle payload with
      | error e => exact ⟨rfl, kept, .inl rfl⟩
      | ok order =>
        exact ⟨rfl, kept, .inr ⟨payload, timestamp, rfl, parsed, absent, authentic, recorded⟩⟩

/-! ### Runs -/

variable (platform verifier messages) in
structure ReplayInvariant (hub : Hub) : Prop where
  genuine : ∀ entry ∈ hub.accepted, ⟨entry.rawBody, .bodyAlone⟩ ∈ messages ∨
    ∃ text timestamp, ⟨entry.rawBody, .timestampAndBody text⟩ ∈ messages ∧
      headerTimestampMs platform text = some timestamp ∧
      timestamp ≤ entry.acceptedAt + maxFutureClockDriftMs
  remembered : ∀ entry ∈ hub.accepted, hub.clock ≤ entry.acceptedAt + verifier.ttlMs →
    ∃ payload, platform.parseJson entry.rawBody = .ok payload ∧
      (property "eventId" payload, entry.acceptedAt) ∈ hub.store
  once : hub.accepted.Pairwise fun a b => a.rawBody ≠ b.rawBody

theorem Provider.scheme_unique (provider : Provider platform messages) {body : String}
    {a b : SignatureScheme} (memberA : ⟨body, a⟩ ∈ messages) (memberB : ⟨body, b⟩ ∈ messages) :
    a = b := by
  obtain ⟨members, -, parsed, -⟩ := provider.event _ memberA
  exact congrArg ProviderMessage.scheme (provider.own _ memberA _ memberB _ _ parsed parsed rfl)

theorem remembered_has (provider : Provider platform messages) {hub : Hub}
    {scheme : SignatureScheme} (known : ⟨rawBody, scheme⟩ ∈ messages)
    (parsed : platform.parseJson rawBody = .ok payload) {acceptedAt : ℚ}
    (stored : (property "eventId" payload, acceptedAt) ∈ hub.store)
    (recent : nowMs ≤ acceptedAt + verifier.ttlMs) :
    has sameKey (property "eventId" payload)
      (purge verifier.ttlMs nowMs hub.store) := by
  apply has_of_mem ((mem_purge _ _ _ _).mpr ⟨stored, recent⟩)
  obtain ⟨members, id, object, event⟩ := provider.event _ known
  obtain rfl := Except.ok.inj (object.symm.trans parsed)
  simp [event, sameKey]

theorem TimelyStep.preserves (splits : SplitsApart platform) (provider : Provider platform messages)
    {hub hub' : Hub} (step : TimelyStep platform verifier config messages hub hub')
    (inv : ReplayInvariant platform verifier messages hub) :
    ReplayInvariant platform verifier messages hub' := by
  cases step
  next call later unforged timely =>
  have effect := hub.process_effect platform verifier config call
  have old : ∀ entry ∈ hub.accepted,
      (hub.process platform verifier config call).clock ≤ entry.acceptedAt + verifier.ttlMs →
      ∃ payload, platform.parseJson entry.rawBody = .ok payload ∧
        (property "eventId" payload, entry.acceptedAt) ∈
          (hub.process platform verifier config call).store := by
    intro entry member recent
    rw [effect.clock] at recent
    obtain ⟨payload, parsed, stored⟩ := inv.remembered entry member (later.trans recent)
    exact ⟨payload, parsed, effect.kept _ stored recent⟩
  rcases effect.accepted with same | ⟨payload, timestamp, added, parsed, absent, authentic, recorded⟩
  · constructor <;> rw [same]
    · exact inv.genuine
    · exact old
    · exact inv.once
  · have message := authentic_message splits provider unforged parsed authentic
    obtain ⟨signature, -, fresh, -⟩ := authenticate_eq_ok authentic
    obtain ⟨-, future, window⟩ := checkFreshness_eq_ok fresh
    have notRecent : ∀ entry ∈ hub.accepted, entry.rawBody = call.request.rawBody →
        ¬call.nowMs ≤ entry.acceptedAt + verifier.ttlMs := by
      intro entry member same recent
      obtain ⟨payload', parsed', stored⟩ := inv.remembered entry member (later.trans recent)
      rw [same] at parsed'
      obtain rfl := Except.ok.inj (parsed'.symm.trans parsed)
      have known : ∃ scheme, ⟨call.request.rawBody, scheme⟩ ∈ messages := by
        rcases message with alone | ⟨text, stamped, -⟩
        · exact ⟨_, alone⟩
        · exact ⟨_, stamped⟩
      obtain ⟨scheme, known⟩ := known
      have seen := remembered_has provider known parsed stored recent
      rw [absent] at seen
      exact absurd seen Bool.false_ne_true
    have sameRetention : ∀ entry ∈ hub.accepted, entry.rawBody ≠ call.request.rawBody := by
      intro entry member same
      rcases timely entry member same with recent | ⟨notAlone, within⟩
      · exact notRecent entry member same recent
      · -- the timestamp is the one shown when the message was first accepted
        obtain ⟨text, stamped, shown⟩ := message.resolve_left notAlone
        have before := inv.genuine entry member
        rw [same] at before
        obtain ⟨text', timestamp', stamped', shown', early⟩ := before.resolve_left notAlone
        have sameScheme := provider.scheme_unique stamped stamped'
        obtain rfl := SignatureScheme.timestampAndBody.inj sameScheme
        obtain rfl := Option.some.inj (shown.symm.trans shown')
        exact notRecent entry member same (by linarith)
    constructor
    · rw [added]
      refine forall_mem_append.mpr ⟨inv.genuine, forall_mem_singleton.mpr ?_⟩
      rcases message with alone | ⟨text, stamped, shown⟩
      · exact .inl alone
      · exact .inr ⟨text, timestamp, stamped, shown, future⟩
    · rw [added]
      exact forall_mem_append.mpr
        ⟨old, forall_mem_singleton.mpr fun _ => ⟨payload, parsed, recorded⟩⟩
    · rw [added]
      refine pairwise_append.mpr ⟨inv.once, pairwise_singleton _ _, ?_⟩
      intro entry earlier last new
      obtain rfl := mem_singleton.mp new
      exact sameRetention entry earlier

/-- In every run in which no message comes back after the store has forgotten it, those whose
signature covers a timestamp apart, each message is accepted at most once. -/
theorem messages_accepted_once (splits : SplitsApart platform)
    (provider : Provider platform messages) (clock : ℚ) (hub : Hub)
    (run : Relation.ReflTransGen (TimelyStep platform verifier config messages)
      { store := [], clock := clock, accepted := [] } hub) :
    AcceptedOnce messages hub := by
  have inv : ReplayInvariant platform verifier messages hub := by
    induction run with
    | refl => exact ⟨by simp, by simp, .nil⟩
    | tail _ step ih => exact step.preserves splits provider ih
  intro message known
  have distinct := inv.once.filter fun entry => entry.rawBody == message.body
  have all : ∀ entry ∈ hub.accepted.filter fun entry => entry.rawBody == message.body,
      entry.rawBody = message.body := by simp
  generalize hub.accepted.filter (fun entry => entry.rawBody == message.body) = kept at distinct all
  match kept, distinct, all with
  | [], _, _ => simp
  | [_], _, _ => simp
  | a :: b :: _, distinct, all =>
    have apart := (pairwise_cons.mp distinct).1 b (by simp)
    exact absurd ((all a (by simp)).trans (all b (by simp)).symm) apart

end Replay

/-! ### A message signed without a timestamp -/

def hexBytes : List Char → List UInt8
  | high :: low :: rest =>
    UInt8.ofNat (16 * JsonText.hexValue high + JsonText.hexValue low) :: hexBytes rest
  | _ => []

def sampleMessage : ProviderMessage :=
  { body := "\x7b\"eventId\":\"e1\",\"channel\":\"RAPPI\",\"storeExternalId\":\"s1\",\"externalOrderId\":\"o1\"" ++
      ",\"orderTimestamp\":\"2026-01-01T00:00:00.000Z\",\"customer\":\x7b\"name\":\"Ana\"\x7d," ++
      "\"items\":[\x7b\"externalItemId\":\"t1\",\"name\":\"Taco\",\"quantity\":1,\"unitPrice\":\"10.0000\",\"totalPrice\":\"10.0000\"\x7d]," ++
      "\"financials\":\x7b\"subtotal\":\"10.0000\",\"taxTotal\":\"1.6000\",\"grandTotal\":\"11.6000\"\x7d\x7d"
    scheme := .bodyAlone }

def sampleOrder : Json ℚ :=
  .object [("eventId", .string "e1"), ("channel", .string "RAPPI"),
    ("storeExternalId", .string "s1"), ("externalOrderId", .string "o1"),
    ("orderTimestamp", .string "2026-01-01T00:00:00.000Z"),
    ("customer", .object [("name", .string "Ana")]),
    ("items", .array [.object [("externalItemId", .string "t1"), ("name", .string "Taco"),
      ("quantity", .number 1), ("unitPrice", .string "10.0000"),
      ("totalPrice", .string "10.0000")]]),
    ("financials", .object [("subtotal", .string "10.0000"), ("taxTotal", .string "1.6000"),
      ("grandTotal", .string "11.6000")])]

def sampleDigest (payload : String) : String :=
  if payload = sampleMessage.body then
    "cc105fa5ebe02be99d54b8a7bccd30df2e640bc89f3c7cb165a5413c6ca1dc15"
  else if payload = "1767225600000." ++ sampleMessage.body then
    "c4ec54c9221d2002f35429c0a3eb55fdecb1e420b17bc6652d5757dc406ed132"
  else if payload = "1767312000001." ++ sampleMessage.body then
    "8b7495988804679efbc7f6d75ef9e4773e7ec5729235def8e808c6ceab99082b"
  else ""

def samplePlatform : Platform :=
  { parseJson := fun text =>
      if text = sampleMessage.body then .ok sampleOrder
      else .error "Unexpected token"
    toNumber := fun text =>
      if text = "1767225600000" then some 1767225600000
      else if text = "1767312000001" then some 1767312000001
      else none
    toFixed4 := fun _ => "1.0000"
    toText := fun _ => "1"
    dateParse := fun _ => none
    hmacDigest := fun _ _ payload => sampleDigest payload
    bufferFrom := fun _ text => hexBytes text.toList }

def sampleConfig : DeliveryIntegrationConfig :=
  { orgId := "o", branchId := "b", webhookSecret := "whsec", isEnabled := true
    autoAcceptEnabled := true, minOrderAmount := none, maxOrderAmount := none }

def sampleOracle : CallOracle :=
  { resolveItem := none, context := ⟨none, none⟩, randomUUID := fun index => toString index
    newDate := fun index => 1767225600000 + index }

def sampleWebhook (timestamp : String) (nowMs : ℚ) : WebhookCall :=
  { request :=
      { channel := .rappi
        headers := [("X-Rappi-Signature", some (sampleDigest sampleMessage.body)),
          ("X-Rappi-Timestamp", some timestamp)]
        rawBody := sampleMessage.body }
    nowMs := nowMs
    oracle := sampleOracle }

def sampleHub : Hub := { store := [], clock := 0, accepted := [] }

theorem sample_splitsApart : SplitsApart samplePlatform := by
  intro head tail whole part first second
  simp only [samplePlatform] at first second
  split at second
  next same =>
    split at first
    next same' =>
      have lengths := congrArg String.length (same'.trans same.symm)
      simp only [String.length_append] at lengths
      have point : ".".length = 1 := rfl
      omega
    next => simp at first
  next => simp at second

theorem sample_parsed : samplePlatform.parseJson sampleMessage.body = .ok sampleOrder := by
  simp [samplePlatform]

theorem sample_provider : Provider samplePlatform [sampleMessage] := by
  constructor
  · intro message member
    obtain rfl := mem_singleton.mp member
    exact ⟨_, "e1", sample_parsed, rfl⟩
  · intro a memberA b memberB _ _ _ _ _
    rw [mem_singleton.mp memberA, mem_singleton.mp memberB]

theorem sample_headers (timestamp : String) (nowMs : ℚ) :
    let headers := (sampleWebhook timestamp nowMs).request.headers
    getHeaderCaseInsensitive headers "x-rappi-signature" = some (sampleDigest sampleMessage.body) ∧
      getHeaderCaseInsensitive headers "x-rappi-timestamp" = some timestamp := by
  obtain ⟨signature, other, stamp⟩ :
      (toLowerCase "X-Rappi-Signature" == toLowerCase "x-rappi-signature") ∧
      (toLowerCase "X-Rappi-Signature" == toLowerCase "x-rappi-timestamp") = false ∧
      (toLowerCase "X-Rappi-Timestamp" == toLowerCase "x-rappi-timestamp") := by
    decide +kernel
  unfold getHeaderCaseInsensitive sampleWebhook
  simp only [List.find?, signature, other, stamp, and_self]

theorem sample_unforged (timestamp : String) (nowMs : ℚ) :
    Unforged samplePlatform defaultVerifier sampleConfig [sampleMessage]
      (sampleWebhook timestamp nowMs).request := by
  intro signature payload contract given signed
  have known : signature = sampleDigest sampleMessage.body :=
    Option.some.inj (given.symm.trans (sample_headers timestamp nowMs).1)
  refine ⟨sampleMessage, mem_singleton.mpr rfl, ?_⟩
  by_contra other
  -- the digest of every other payload differs
  have apart : ∀ text ∈ ["c4ec54c9221d2002f35429c0a3eb55fdecb1e420b17bc6652d5757dc406ed132",
      "8b7495988804679efbc7f6d75ef9e4773e7ec5729235def8e808c6ceab99082b", ""],
      hexBytes (sampleDigest sampleMessage.body).toList ≠ hexBytes text.toList := by
    decide +kernel
  have digest : sampleDigest payload ∈
      ["c4ec54c9221d2002f35429c0a3eb55fdecb1e420b17bc6652d5757dc406ed132",
        "8b7495988804679efbc7f6d75ef9e4773e7ec5729235def8e808c6ceab99082b", ""] := by
    unfold sampleDigest
    rw [if_neg fun same => other same.symm]
    split
    next => simp
    next => split <;> simp
  rw [known] at signed
  exact apart _ digest (by simpa [signs, samplePlatform] using signed)

theorem sample_fulfilled :
    (fulfil samplePlatform sampleConfig sampleOracle sampleOrder).toOption.map (fun result =>
      (result.order.status, result.kdsComanda.isSome)) = some (.accepted, true) := by
  decide +kernel

theorem sample_authentic {timestamp : String} {nowMs : ℚ} (given : timestamp ≠ "")
    (reads : headerTimestampMs samplePlatform timestamp = some nowMs) :
    authenticate samplePlatform (defaultVerifier.contracts .rappi)
      (sampleWebhook timestamp nowMs).request sampleConfig.webhookSecret nowMs = .ok nowMs := by
  obtain ⟨signature, stamp⟩ := sample_headers timestamp nowMs
  have present_of_ne {text : String} (nonempty : text ≠ "") : present (some text) = some text :=
    Option.filter_some_pos (by simpa using nonempty)
  have carried : requireSignature (defaultVerifier.contracts .rappi)
      (sampleWebhook timestamp nowMs).request = .ok (sampleDigest sampleMessage.body) := by
    have signed : sampleDigest sampleMessage.body ≠ "" := by simp [sampleDigest]
    simp only [requireSignature, defaultVerifier, standardConnectorContracts, standardContract,
      signature, present_of_ne signed]
  have value : timestampHeaderValue (defaultVerifier.contracts .rappi)
      (sampleWebhook timestamp nowMs).request = some timestamp := by
    have named : present (some "x-rappi-timestamp") = some "x-rappi-timestamp" := by decide
    simp only [timestampHeaderValue, defaultVerifier, standardConnectorContracts, standardContract,
      named, stamp, present_of_ne given]
  have fresh : checkFreshness samplePlatform (defaultVerifier.contracts .rappi)
      (sampleWebhook timestamp nowMs).request nowMs = .ok nowMs := by
    have window : (defaultVerifier.contracts .rappi).replayWindowMs = 300000 := rfl
    simp only [checkFreshness, timestampMs, value, reads, window, maxFutureClockDriftMs]
    norm_num
  have matched : signatureMatches samplePlatform (defaultVerifier.contracts .rappi)
      (sampleWebhook timestamp nowMs).request sampleConfig.webhookSecret
        (sampleDigest sampleMessage.body) := by
    have isBody : (sampleWebhook timestamp nowMs).request.rawBody = sampleMessage.body := rfl
    simp only [signatureMatches, value, isBody, Bool.or_eq_true]
    right
    simp [signs, samplePlatform]
  rw [authenticate, carried, ok_bind, fresh, ok_bind, matched]
  rfl

/-- The store after the event `e1` was accepted. -/
abbrev sampleRecorded (nowMs : ℚ) (hub : Hub) :=
  set sameKey (some (.string "e1")) nowMs
    (purge defaultRetentionMs nowMs (purge defaultRetentionMs nowMs hub.store))

theorem sample_process {hub : Hub} {timestamp : String} {nowMs : ℚ} (given : timestamp ≠ "")
    (reads : headerTimestampMs samplePlatform timestamp = some nowMs)
    (forgotten : has sameKey (some (.string "e1")) (purge defaultRetentionMs nowMs hub.store) = false) :
    hub.process samplePlatform defaultVerifier sampleConfig (sampleWebhook timestamp nowMs) =
      { store := sampleRecorded nowMs hub, clock := nowMs
        accepted := hub.accepted ++ [⟨sampleMessage.body, nowMs⟩] } := by
  have parsed : samplePlatform.parseJson (sampleWebhook timestamp nowMs).request.rawBody =
      .ok sampleOrder := sample_parsed
  have event : property "eventId" sampleOrder = some (.string "e1") := by
    simp [property, sampleOrder]
  have isRappi : (sampleWebhook timestamp nowMs).request.channel = .rappi := rfl
  have verified : verify samplePlatform defaultVerifier hub.store
      (sampleWebhook timestamp nowMs).request sampleConfig.webhookSecret
      (property "eventId" sampleOrder) nowMs = (.ok nowMs, sampleRecorded nowMs hub) := by
    have retention : defaultVerifier.ttlMs = defaultRetentionMs := rfl
    simp only [verify, event, retention, forgotten, isRappi, sample_authentic given reads,
      Bool.false_eq_true, if_false]
  obtain ⟨result, fulfilled⟩ : ∃ result,
      fulfil samplePlatform sampleConfig sampleOracle sampleOrder = .ok result := by
    obtain ⟨result, found, -⟩ := Option.map_eq_some_iff.mp sample_fulfilled
    cases outcome : fulfil samplePlatform sampleConfig sampleOracle sampleOrder with
    | error e => simp [outcome, Except.toOption] at found
    | ok order => exact ⟨order, rfl⟩
  have outcome : processWebhook samplePlatform sampleConfig (sampleWebhook timestamp nowMs).oracle
      defaultVerifier hub.store (sampleWebhook timestamp nowMs).request nowMs =
        (.ok result, sampleRecorded nowMs hub) := by
    rw [processWebhook_eq rfl parsed (by simp [sampleOrder]), verified]
    exact congrArg (·, _) fulfilled
  have isNow : (sampleWebhook timestamp nowMs).nowMs = nowMs := rfl
  rw [Hub.process, isNow, outcome]
  rfl

def sampleAcceptedFirst : Hub :=
  sampleHub.process samplePlatform defaultVerifier sampleConfig
    (sampleWebhook "1767225600000" 1767225600000)

theorem sample_first : sampleAcceptedFirst =
    { store := [(some (.string "e1"), 1767225600000)], clock := 1767225600000
      accepted := [⟨sampleMessage.body, 1767225600000⟩] } :=
  sample_process (by decide) (by decide +kernel) rfl

/-- A day and a millisecond later the same message is accepted once more, under a fresh timestamp
its signature does not cover: the order goes to the kitchen twice. -/
theorem signed_body_accepted_twice :
    SplitsApart samplePlatform ∧ Provider samplePlatform [sampleMessage] ∧
    (∃ hub, Relation.ReflTransGen
        (HubStep samplePlatform defaultVerifier sampleConfig [sampleMessage]) sampleHub hub ∧
      ¬AcceptedOnce [sampleMessage] hub) ∧
    (fulfil samplePlatform sampleConfig sampleOracle sampleOrder).toOption.map (fun result =>
      (result.order.status, result.kdsComanda.isSome)) = some (.accepted, true) := by
  refine ⟨sample_splitsApart, sample_provider, ⟨_,
    .head (.call sampleHub (sampleWebhook "1767225600000" 1767225600000) (by decide +kernel)
      (sample_unforged _ _))
      (.single (.call sampleAcceptedFirst (sampleWebhook "1767312000001" 1767312000001)
        (by rw [sample_first]; decide +kernel) (sample_unforged _ _))), ?_⟩, sample_fulfilled⟩
  intro once
  have count := once sampleMessage (mem_singleton.mpr rfl)
  rw [sample_first, sample_process (by decide) (by decide +kernel) (by decide +kernel)] at count
  simp at count

/-- Within the day it is refused. -/
theorem replay_within_retention_refused :
    AcceptedOnce [sampleMessage] (sampleAcceptedFirst.process samplePlatform defaultVerifier
      sampleConfig (sampleWebhook "1767225600000" 1767225601000)) := by
  refine messages_accepted_once sample_splitsApart sample_provider 0 _
    (.head (.call sampleHub (sampleWebhook "1767225600000" 1767225600000) (by decide +kernel)
      (sample_unforged _ _) ?_)
      (.single (.call sampleAcceptedFirst (sampleWebhook "1767225600000" 1767225601000)
        (by rw [sample_first]; decide +kernel) (sample_unforged _ _) ?_)))
  · intro entry member
    simp [sampleHub] at member
  · intro entry member _
    rw [sample_first] at member
    obtain rfl := mem_singleton.mp member
    exact .inl (by decide +kernel)

/-! ### Requests that are not authentic -/

section Unauthentic

variable (platform : Platform) (verifier : Verifier) (config : DeliveryIntegrationConfig)

/-- The request carries a signature made with the secret and a timestamp that is fresh. -/
def WebhookCall.authentic (call : WebhookCall) : Bool :=
  (authenticate platform (verifier.contracts call.request.channel) call.request
    config.webhookSecret call.nowMs).isOk

def Hub.Agrees (nowMs : ℚ) (hub other : Hub) : Prop :=
  hub.accepted = other.accepted ∧
    purge verifier.ttlMs nowMs hub.store = purge verifier.ttlMs nowMs other.store

variable {platform verifier config} {hub other : Hub} {call : WebhookCall}

theorem Hub.Agrees.later {nowMs laterMs : ℚ} (agrees : Hub.Agrees verifier nowMs hub other)
    (le : nowMs ≤ laterMs) : Hub.Agrees verifier laterMs hub other := by
  refine ⟨agrees.1, ?_⟩
  rw [← purge_purge _ le, agrees.2, purge_purge _ le]

theorem Hub.Agrees.process (agrees : Hub.Agrees verifier call.nowMs hub other) :
    Hub.Agrees verifier call.nowMs (hub.process platform verifier config call)
      (other.process platform verifier config call) := by
  unfold Hub.process
  rcases processWebhook_cases platform verifier config call.request call.oracle call.nowMs with
    ⟨e, refused⟩ | ⟨payload, -, verified⟩
  · simp only [refused]
    exact agrees
  · simp only [verified, verify, agrees.2]
    split <;> exact ⟨by simp [agrees.1], rfl⟩

theorem Hub.Agrees.unauthentic (agrees : Hub.Agrees verifier call.nowMs hub other)
    (forged : call.authentic platform verifier config = false) :
    Hub.Agrees verifier call.nowMs (hub.process platform verifier config call) other := by
  unfold Hub.process
  rcases processWebhook_cases platform verifier config call.request call.oracle call.nowMs with
    ⟨e, refused⟩ | ⟨payload, -, verified⟩
  · simp only [refused]
    exact agrees
  · -- a duplicate and a request that is not authentic leave the purged store
    have refused : ∃ e, verify platform verifier hub.store call.request config.webhookSecret
        (property "eventId" payload) call.nowMs =
          (.error e, purge verifier.ttlMs call.nowMs hub.store) := by
      unfold verify WebhookCall.authentic at *
      dsimp only
      split
      next => exact ⟨_, rfl⟩
      split
      next => exact ⟨_, rfl⟩
      next authentic => simp [authentic, Except.isOk, Except.toBool] at forged
    obtain ⟨e, refused⟩ := refused
    simp only [verified, refused]
    exact ⟨agrees.1, (purge_purge _ le_rfl _).trans agrees.2⟩

/-- Requests that are not authentic leave no trace: whatever they carry, the service accepts what it
would have accepted without them. -/
theorem unauthentic_requests_ignored (calls : List (WebhookCall)) (hub : Hub)
    (ordered : calls.Pairwise fun a b => a.nowMs ≤ b.nowMs) :
    (calls.foldl (Hub.process platform verifier config) hub).accepted =
      ((calls.filter (WebhookCall.authentic platform verifier config)).foldl
        (Hub.process platform verifier config) hub).accepted := by
  -- a refused request purges, so the stores only agree on what lasts
  suffices ∀ other, (∀ call ∈ calls, Hub.Agrees verifier call.nowMs hub other) →
      hub.accepted = other.accepted →
      (calls.foldl (Hub.process platform verifier config) hub).accepted =
        ((calls.filter (WebhookCall.authentic platform verifier config)).foldl
          (Hub.process platform verifier config) other).accepted from
    this hub (fun _ _ => ⟨rfl, rfl⟩) rfl
  induction calls generalizing hub with
  | nil => exact fun other _ same => same
  | cons call calls ih =>
    intro other agrees _
    obtain ⟨first, rest⟩ := pairwise_cons.mp ordered
    have now := agrees call mem_cons_self
    cases signed : call.authentic platform verifier config with
    | true =>
      rw [filter_cons_of_pos signed]
      exact ih _ rest _ (fun next member => now.process.later (first next member)) now.process.1
    | false =>
      rw [filter_cons_of_neg (by simp [signed])]
      have after := now.unauthentic signed
      exact ih _ rest _ (fun next member => after.later (first next member)) after.1

end Unauthentic

def sampleForged : WebhookCall :=
  let genuine := sampleWebhook "1767225600000" 1767225600000
  { genuine with request :=
      { genuine.request with headers := [("X-Rappi-Signature", some "00")] } }

theorem forged_request_ignored :
    let calls := [sampleForged, sampleWebhook "1767225600000" 1767225600000]
    (calls.filter (WebhookCall.authentic samplePlatform defaultVerifier sampleConfig)).length = 1 ∧
    (calls.foldl (Hub.process samplePlatform defaultVerifier sampleConfig) sampleHub).accepted =
      [⟨sampleMessage.body, 1767225600000⟩] := by
  have genuine : (sampleWebhook "1767225600000" 1767225600000).authentic samplePlatform
      defaultVerifier sampleConfig := by
    have isRappi : (sampleWebhook "1767225600000" 1767225600000).request.channel = .rappi := rfl
    rw [WebhookCall.authentic, isRappi]
    exact (congrArg Except.isOk (sample_authentic (by decide) (by decide +kernel))).trans rfl
  have forged : sampleForged.authentic samplePlatform defaultVerifier sampleConfig = false := by
    decide +kernel
  refine ⟨by simp [genuine, forged], (unauthentic_requests_ignored _ _ ?_).trans ?_⟩
  · simp [sampleForged, sampleWebhook]
  · simp only [filter, genuine, forged, foldl_cons, foldl_nil]
    rw [← sampleAcceptedFirst, sample_first]

end TridentPos.Delivery
