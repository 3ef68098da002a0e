import Mathlib.Data.List.Basic

/-!
# The LAN client of a handheld

`MobileLanClient` of `lan-client.ts`: mutations are sent to the edge host, or staged in a queue
while the network is away. A mutation waits for its answer, so it is two steps, with other calls
between them. The bodies and the data answered are of arbitrary types; listeners are not modelled.
-/
namespace TridentPos.Mobile

inductive NetworkState where
  | online
  | offline
  | connecting
  | deadZone
deriving DecidableEq

inductive MutationType where
  | dispatchComanda
  | transferTable
  | voidAccount
deriving DecidableEq

inductive QueueStatus where
  | pending
  | sending
  | failed
  | processed
deriving DecidableEq

inductive HttpMethod where
  | post
  | put
  | patch
  | delete
deriving DecidableEq

structure LanClientConfig where
  (baseUrl stationToken stationId : String)

variable {β δ : Type}

structure QueuedMutation (β : Type) where
  id : String
  type : MutationType
  payload : β
  (queuedAt retryCount : Nat)
  status : QueueStatus

structure MutationParams (β : Type) where
  endpoint : String
  method : Option HttpMethod
  body : β
  expectedVersion : Option Int
  mutationType : MutationType

structure OccConflictResolution (δ : Type) where
  tableId : String
  (expectedVersion remoteVersion : Int)
  remoteTableState : Option δ

/-- What the body of a 409 says; nothing if it could not be read. -/
structure ConflictData (δ : Type) where
  tableId : Option String
  currentVersion : Option Int
  remoteTableState : Option δ

inductive ConflictHandler where
  | absent
  | rejects
  | answers (shouldRetry : Bool)

structure HttpReply (δ : Type) where
  status : Nat
  json : Option δ
  conflictData : ConflictData δ
  handler : ConflictHandler

/-- What a request comes to: the network fails, or the host answers. -/
inductive Outcome (δ : Type) where
  | lost
  | answered (reply : HttpReply δ)

structure HttpRequest (β : Type) where
  url : String
  method : HttpMethod
  (authorization stationId : String)
  ifMatch : Option String
  body : β

inductive MutationResult (δ : Type) where
  | done (data : δ)
  | queued (queueId : String)
  | conflict (conflict : OccConflictResolution δ) (error : String)
  | failed (error : String)

structure LanClient (β : Type) where
  networkState : NetworkState
  offlineQueue : List (QueuedMutation β)
  isProcessingQueue : Bool

structure QueueMint where
  id : String
  now : Nat

def requestOf (config : LanClientConfig) (params : MutationParams β) : HttpRequest β :=
  { url := config.baseUrl ++ params.endpoint, method := params.method.getD .post
    authorization := "Bearer " ++ config.stationToken, stationId := config.stationId
    ifMatch := params.expectedVersion.map toString, body := params.body }

/-! ### The queue -/

def drainItem (item : QueuedMutation β) : QueuedMutation β :=
  if item.status = .pending then { item with status := .processed } else item

variable (client : LanClient β)

def LanClient.drainOfflineQueue : LanClient β × Nat × Nat :=
  if client.isProcessingQueue ∨ client.networkState ≠ .online then (client, 0, 0)
  else
    let pending := client.offlineQueue.filter fun item => item.status == .pending
    let marked := client.offlineQueue.map drainItem
    ({ client with offlineQueue := marked.filter fun item => item.status != .processed },
      pending.length, 0)

def LanClient.setNetworkState (state : NetworkState) : LanClient β :=
  let prevState := client.networkState
  let client := { client with networkState := state }
  if (prevState = .offline ∨ prevState = .deadZone ∨ prevState = .connecting) ∧ state = .online then
    client.drainOfflineQueue.1
  else client

variable (params : MutationParams β)

def stagedItem (mint : QueueMint) : QueuedMutation β :=
  { id := mint.id, type := params.mutationType, payload := params.body, queuedAt := mint.now
    retryCount := 0, status := .pending }

def LanClient.stage (mint : QueueMint) : LanClient β :=
  { client with offlineQueue := client.offlineQueue ++ [stagedItem params mint] }

/-! ### Mutations -/

/-- Where a call of `executeMutation` stands: it has returned, or waits for an answer. -/
inductive MutationStep (β δ : Type) where
  | returned (params : MutationParams β) (result : MutationResult δ)
  | sent (params : MutationParams β)

/-- `executeMutation` up to its request. -/
def LanClient.beginMutation (mint : QueueMint) : LanClient β × MutationStep β δ :=
  if client.networkState = .offline ∨ client.networkState = .deadZone then
    (client.stage params mint, .returned params (.queued mint.id))
  else (client, .sent params)

/-- The `catch` branch. -/
def LanClient.interrupted (mint : QueueMint) : LanClient β × MutationStep β δ :=
  ((client.setNetworkState .deadZone).stage params mint, .returned params (.queued mint.id))

/-- A number the source takes for missing when it is zero. -/
def orElse (value : Option Int) (default : Int) : Int :=
  match value with
  | some n => if n = 0 then default else n
  | none => default

def conflictOf (data : ConflictData δ) : OccConflictResolution δ :=
  { tableId := data.tableId.getD "", expectedVersion := orElse params.expectedVersion 0
    remoteVersion := orElse data.currentVersion (orElse params.expectedVersion 0 + 1)
    remoteTableState := data.remoteTableState }

def HttpReply.isOk (reply : HttpReply δ) : Bool := 200 ≤ reply.status && reply.status ≤ 299

/-- `executeMutation` after its request. A retry begins the mutation again under the version of
the host. -/
def LanClient.finishMutation (outcome : Outcome δ) (mint : QueueMint) :
    LanClient β × MutationStep β δ :=
  match outcome with
  | .lost => client.interrupted params mint
  | .answered reply =>
    if reply.status = 409 then
      let conflict := conflictOf params reply.conflictData
      match reply.handler with
      | .rejects => client.interrupted params mint
      | .answers true =>
        client.beginMutation { params with expectedVersion := some conflict.remoteVersion } mint
      | _ => (client, .returned params (.conflict conflict
          "OCC_409_CONFLICT: Stale table version. The table was modified by another terminal."))
    else if !reply.isOk then
      (client, .returned params (.failed
        ("HTTP_ERROR_" ++ toString reply.status ++ ": Failed to execute mutation.")))
    else
      match reply.json with
      | some data => (client, .returned params (.done data))
      | none => client.interrupted params mint

end TridentPos.Mobile
