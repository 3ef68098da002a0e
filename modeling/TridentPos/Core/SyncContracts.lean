import TridentPos.Library.JsonText

/-!
# Sync contracts

The identities a sync event carries (`sync-contracts.ts`): UUIDv4 texts, the canonical
text behind an idempotency key, receipts and acknowledgements. Texts are `String`s, and
a sequence number is a `Nat`: the checks of the source refuse every other number.
-/
namespace TridentPos.Core

open Library

/-! ### UUID texts -/

def isHexDigit (c : Char) : Bool :=
  ('0' ≤ c && c ≤ '9') || ('a' ≤ c && c ≤ 'f') || ('A' ≤ c && c ≤ 'F')

def isVariantDigit (c : Char) : Bool :=
  c == '8' || c == '9' || c == 'a' || c == 'b' || c == 'A' || c == 'B'

/-- `UUID_V4_REGEX`, one character class for each position of the text. -/
def uuidV4Pattern : List (Char → Bool) :=
  List.replicate 8 isHexDigit ++ [(· == '-')] ++ List.replicate 4 isHexDigit ++ [(· == '-')] ++
    [(· == '4')] ++ List.replicate 3 isHexDigit ++ [(· == '-')] ++
    [isVariantDigit] ++ List.replicate 3 isHexDigit ++ [(· == '-')] ++
    List.replicate 12 isHexDigit

def matchesPattern : List (Char → Bool) → List Char → Bool
  | [], [] => true
  | p :: ps, c :: cs => p c && matchesPattern ps cs
  | _, _ => false

def isValidUuidV4 (val : String) : Bool := matchesPattern uuidV4Pattern val.toList

/-- The text a `UUID` column returns for a UUID written with letters of either case. -/
def uuidText (val : String) : String := String.ofList (val.toList.map Char.toLower)

private theorem toLower_toLower (c : Char) : c.toLower.toLower = c.toLower := by
  unfold Char.toLower
  split
  next upper =>
    split
    next again => grind [UInt32.toNat_add, Char.toNat_val]
    next => rfl
  next => simp

@[simp] theorem uuidText_uuidText (val : String) : uuidText (uuidText val) = uuidText val := by
  have twice : Char.toLower ∘ Char.toLower = Char.toLower := funext toLower_toLower
  simp [uuidText, twice]

/-! ### Idempotency keys -/

structure IdempotencyKeyComponents where
  (orgId branchId aggregateType aggregateId action clientOpId : String)

def IdempotencyKeyComponents.toList (parts : IdempotencyKeyComponents) : List String :=
  [parts.orgId, parts.branchId, parts.aggregateType, parts.aggregateId, parts.action,
    parts.clientOpId]

def canonicalizeIdempotencyPayload (parts : IdempotencyKeyComponents) : Except String String :=
  if parts.toList.any (· == "") then
    .error "All idempotency key components must be non-empty strings"
  else
    .ok (JsonText.stringifyArray parts.toList)

/-- The hexadecimal SHA-256 digest is a parameter of the model. -/
def formatIdempotencyKey (sha256 : String → String) (parts : IdempotencyKeyComponents) :
    Except String String := do
  let canonical ← canonicalizeIdempotencyPayload parts
  return sha256 canonical

theorem canonicalizeIdempotencyPayload_inj {p q : IdempotencyKeyComponents} {text : String}
    (left : canonicalizeIdempotencyPayload p = .ok text)
    (right : canonicalizeIdempotencyPayload q = .ok text) : p = q := by
  unfold canonicalizeIdempotencyPayload at left right
  split at left
  · simp at left
  split at right
  · simp at right
  simp only [Except.ok.injEq] at left right
  have same := JsonText.stringifyArray_inj p.toList q.toList rfl (left.trans right.symm)
  simp only [IdempotencyKeyComponents.toList, List.cons.injEq, and_true] at same
  obtain ⟨org, branch, type, id, action, op⟩ := same
  cases p; cases q; simp_all

theorem formatIdempotencyKey_ok (sha256 : String → String) (parts : IdempotencyKeyComponents)
    (key : String) (formatted : formatIdempotencyKey sha256 parts = .ok key) :
    ∃ text, canonicalizeIdempotencyPayload parts = .ok text ∧ sha256 text = key := by
  unfold formatIdempotencyKey at formatted
  cases canonical : canonicalizeIdempotencyPayload parts with
  | error e => simp [canonical, bind, Except.bind] at formatted
  | ok text =>
    simp only [canonical, bind, Except.bind, pure, Except.pure, Except.ok.injEq] at formatted
    exact ⟨text, rfl, formatted⟩

/-- Two tuples share a key only when they are equal, as far as the digest has no
collision on their canonical texts. -/
theorem formatIdempotencyKey_inj {sha256 : String → String} {texts : Set String}
    (collisionFree : Set.InjOn sha256 texts) {p q : IdempotencyKeyComponents} {key : String}
    (left : formatIdempotencyKey sha256 p = .ok key)
    (right : formatIdempotencyKey sha256 q = .ok key)
    (pText : ∀ text, canonicalizeIdempotencyPayload p = .ok text → text ∈ texts)
    (qText : ∀ text, canonicalizeIdempotencyPayload q = .ok text → text ∈ texts) : p = q := by
  obtain ⟨text, canonical, digest⟩ := formatIdempotencyKey_ok sha256 p key left
  obtain ⟨text', canonical', digest'⟩ := formatIdempotencyKey_ok sha256 q key right
  have same : text = text' :=
    collisionFree (pText text canonical) (qText text' canonical') (digest.trans digest'.symm)
  subst same
  exact canonicalizeIdempotencyPayload_inj canonical canonical'

/-! ### Acknowledgements and receipts -/

inductive SyncAckStatus where
  | received
  | durablyStored
  | applied
  | duplicateAccepted
  | rejected
  | requiresReconciliation
deriving DecidableEq

def maxSafeInteger : Nat := 9007199254740991

structure AuthContext where
  (organizationId branchId : String)

structure CloudTransactionReceipt where
  (receiptId appliedAt serverSignature clientOpId : String)
  aggregateSequenceNumber : Nat

structure ReceiptIssuanceContext where
  (organizationId branchId clientOpId : String)
  aggregateSequenceNumber : Nat
  (aggregateType aggregateId action : Option String)

def isValidCloudReceipt (receipt : CloudTransactionReceipt) : Bool :=
  receipt.receiptId.length > 0 && receipt.appliedAt.length > 0 &&
    receipt.serverSignature.length > 0 && isValidUuidV4 receipt.clientOpId &&
    receipt.aggregateSequenceNumber ≤ maxSafeInteger && 1 ≤ receipt.aggregateSequenceNumber

structure SyncEventAckDTO where
  status : SyncAckStatus
  receipt : Option CloudTransactionReceipt

structure SyncEventDTO (Payload : Type) where
  (organizationId branchId : Option String)
  (clientOpId aggregateType aggregateId : String)
  aggregateSequenceNumber : Nat
  action : String
  payload : Payload

end TridentPos.Core
