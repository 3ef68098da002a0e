import TridentPos.Crm.Numerics
import TridentPos.Delivery.Webhooks

/-!
# Delivery orders

`DeliveryOrderTransformer` of `order-transformer.ts`, `DeliveryKdsDispatcher` of `kds-dispatcher.ts`
and `DeliveryHubService.processWebhook` of `delivery-service.ts`. A verified body is any JSON value:
properties are read as the code reads them, and what is missing or of another type throws where the
code throws.
-/
namespace TridentPos.Delivery

open Core Library

/-- A property as a body has it; `undefined` is `none`. -/
abbrev Field := Option (Json ℚ)

/-! ### Reading a body -/

/-- `value.name`, which throws for `undefined` and `null`. -/
def read (value : Field) (name : String) : Except DeliveryError Field :=
  match value with
  | none => .error (.typeError ("Cannot read properties of undefined (reading '" ++ name ++ "')"))
  | some .null => .error (.typeError ("Cannot read properties of null (reading '" ++ name ++ "')"))
  | some value => .ok (property name value)

def readOptional (value : Field) (name : String) : Field := value.bind (property name)

def orElse (value fallback : Field) : Field := value.filter truthy <|> fallback

/-- What `for (const item of value)` runs over; a text is run over by its characters. -/
def iterated (name : String) : Field → Except DeliveryError (List (Json ℚ))
  | some (.array items) => .ok items
  | some (.string text) => .ok (text.toList.map fun c => .string (String.singleton c))
  | _ => .error (.typeError (name ++ " is not iterable"))

def mapped {α : Type} (f : Json ℚ → Except DeliveryError α) (value : Field) :
    Except DeliveryError (List α) :=
  match value.filter truthy with
  | none => .ok []
  | some (.array items) => items.mapM f
  | some _ => .error (.typeError "map is not a function")

def requireText (value : Field) : Except DeliveryError String := do
  match value with
  | some (.string text) => return text
  | _ =>
    let _ ← read value "trim"
    throw (.typeError "trim is not a function")

/-! ### Amounts -/

/-- The whole part and the first four decimals, read by `BigInt`. -/
def scale4Parts (whole fraction : List Char) : Except DeliveryError Int := do
  let padded := (fraction ++ List.replicate (4 - fraction.length) '0').take 4
  let read (digits : List Char) := (Crm.bigInt digits).mapError fun e => .syntaxError e.message
  return (← read whole) * 10000 + (← read padded)

def unsignedScale4 (value : String) (clean : List Char) : Except DeliveryError Int :=
  let parts := clean.splitOn '.'
  let whole := parts.headD []
  if 2 < parts.length then .error (.typeError ("Invalid decimal string format: " ++ value))
  else scale4Parts (if whole.isEmpty then ['0'] else whole) (parts.getD 1 [])

section Orders

variable (platform : Platform)

def toScale4BigInt (value : Field) : Except DeliveryError Int := do
  match value with
  | some (.number number) =>
    let parts := (platform.toFixed4 number).toList.splitOn '.'
    let magnitude ← scale4Parts ((parts.headD []).erase '-') (parts.getD 1 [])
    return if number < 0 then -magnitude else magnitude
  | _ =>
    let text ← requireText value
    match (trimmed text).toList with
    | [] => return 0
    | '-' :: clean => return -(← unsignedScale4 text clean)
    | clean => unsignedScale4 text clean

def canonicalAmount (value : Field) : Except DeliveryError String :=
  scaledBigIntToDecimalString <$> toScale4BigInt platform value

def compareScale4 (a b : String) : Except DeliveryError Int := do
  return ((← toScale4BigInt platform (some (.string a))) -
    (← toScale4BigInt platform (some (.string b)))).sign

/-! ### Orders -/

structure DeliveryModifier where
  (internalModifierId name quantity : Field)
  unitPrice : String

structure DeliveryItem where
  internalProductId : String
  internalRecipeId : Option String
  (sku name quantity notes : Field)
  (unitPrice totalPrice : String)
  modifiers : List DeliveryModifier

structure DeliveryFinancials where
  (subtotal taxTotal platformCommission deliveryFee customerTip grandTotal : String)

inductive DeliveryOrderStatus where
  | pending
  | accepted
  | rejected
deriving DecidableEq

def DeliveryOrderStatus.text : DeliveryOrderStatus → String
  | .pending => "PENDING"
  | .accepted => "ACCEPTED"
  | .rejected => "REJECTED"

structure DeliveryOrder where
  (id orgId branchId : String)
  (channel externalOrderId eventId : Field)
  status : DeliveryOrderStatus
  customerName : String
  customerPhone : Field
  deliveryAddress : Option String
  (deliveryNotes courierName courierPhone : Field)
  items : List DeliveryItem
  financials : DeliveryFinancials
  orderNotes : Field
  (rejectionReason kdsComandaId : Option String)
  (createdAt updatedAt : ℚ)

structure CatalogItemMapping where
  internalProductId : String
  internalRecipeId : Option String
  internalName : String

structure OperationalContext where
  (isKitchenBusy isStoreOpen : Option Bool)

/-- What a call takes from around it: the answers of the catalog, if there is one, to an organisation,
a channel, an item and its SKU; the ids it draws and the times it reads, in their order. -/
structure CallOracle where
  resolveItem : Option (String → Field → Field → Field →
    Except String (Option CatalogItemMapping))
  context : OperationalContext
  randomUUID : Nat → String
  newDate : Nat → ℚ

variable (config : DeliveryIntegrationConfig) (oracle : CallOracle)

def transformModifier (modifier : Json ℚ) : Except DeliveryError DeliveryModifier := do
  return {
    internalModifierId := ← read (some modifier) "externalModifierId"
    name := property "name" modifier, quantity := property "quantity" modifier
    unitPrice := ← canonicalAmount platform (property "unitPrice" modifier) }

def template : Field → String
  | none => "undefined"
  | some (.string text) => text
  | some value => platform.toText value

def resolve (channel externalItemId sku : Field) (allowUnmappedItems : Bool) :
    Except DeliveryError (Option CatalogItemMapping) := do
  match oracle.resolveItem with
  | none => return none
  | some resolveItem =>
    let mapping ← (resolveItem config.orgId channel externalItemId sku).mapError .catalog
    if mapping.isNone && !allowUnmappedItems then
      throw (.unmappedCatalogItem channel externalItemId sku)
    return mapping

def transformItem (channel : Field) (allowUnmappedItems : Bool) (extItem : Json ℚ) :
    Except DeliveryError DeliveryItem := do
  let externalItemId ← read (some extItem) "externalItemId"
  let sku := property "sku" extItem
  let mapping ← resolve config oracle channel externalItemId sku allowUnmappedItems
  return {
    internalProductId := (mapping.map CatalogItemMapping.internalProductId).getD
      ("mapped-prod-" ++ template platform externalItemId)
    internalRecipeId := mapping.bind CatalogItemMapping.internalRecipeId
    sku := sku
    name := (mapping.map fun mapping => .string mapping.internalName) <|> property "name" extItem
    quantity := property "quantity" extItem
    unitPrice := ← canonicalAmount platform (property "unitPrice" extItem)
    totalPrice := ← canonicalAmount platform (property "totalPrice" extItem)
    notes := property "notes" extItem
    modifiers := ← mapped (transformModifier platform) (property "modifiers" extItem) }

def transformFinancials (financials : Field) : Except DeliveryError DeliveryFinancials := do
  let zero : Field := some (.string "0.0000")
  return {
    subtotal := ← canonicalAmount platform (← read financials "subtotal")
    taxTotal := ← canonicalAmount platform (← read financials "taxTotal")
    platformCommission := ← canonicalAmount platform
      (orElse (← read financials "platformCommission") zero)
    deliveryFee := ← canonicalAmount platform (orElse (← read financials "deliveryFee") zero)
    customerTip := ← canonicalAmount platform (orElse (← read financials "customerTip") zero)
    grandTotal := ← canonicalAmount platform (← read financials "grandTotal") }

def formatAddress (address : Field) : Option String :=
  (address.filter truthy).map fun address =>
    ", ".intercalate ((["street", "interior", "colonia", "city", "postalCode"].filterMap fun name =>
      (property name address).filter truthy).map fun part => template platform (some part))

def transform (payload : Field) (allowUnmappedItems : Bool) : Except DeliveryError DeliveryOrder := do
  let channel := readOptional payload "channel"
  let extItems ← iterated "payload.items" (← read payload "items")
  let items ← extItems.mapM (transformItem platform config oracle channel allowUnmappedItems)
  let financials ← transformFinancials platform (← read payload "financials")
  let address := readOptional payload "deliveryAddress"
  let customer := readOptional payload "customer"
  let courier := readOptional payload "courier"
  return {
    id := oracle.randomUUID 0, orgId := config.orgId, branchId := config.branchId
    channel := channel, externalOrderId := readOptional payload "externalOrderId"
    eventId := readOptional payload "eventId", status := .pending
    customerName := trimmed (← requireText (← read customer "name"))
    customerPhone := readOptional customer "phone"
    deliveryAddress := formatAddress platform address
    deliveryNotes := orElse (readOptional address "deliveryNotes") (readOptional customer "notes")
    courierName := readOptional courier "name", courierPhone := readOptional courier "phone"
    items := items, financials := financials, orderNotes := readOptional payload "notes"
    rejectionReason := none, kdsComandaId := none
    createdAt := oracle.newDate 0, updatedAt := oracle.newDate 0 }

/-! ### The decision -/

structure AutoAcceptDecision where
  accepted : Bool
  reason : Option String

def crosses (order : DeliveryOrder) (bound : Option String) (side : Int) :
    Except DeliveryError (Option String) :=
  match present bound with
  | none => .ok none
  | some bound => do
    let sign ← compareScale4 platform order.financials.grandTotal bound
    return if sign = side then some bound else none

def evaluateAutoAccept (order : DeliveryOrder) : Except DeliveryError AutoAcceptDecision := do
  let refuse (reason : String) : AutoAcceptDecision := ⟨false, some reason⟩
  if !config.isEnabled then return refuse "INTEGRATION_DISABLED"
  else if oracle.context.isStoreOpen = some false then return refuse "STORE_CLOSED"
  else if oracle.context.isKitchenBusy = some true then return refuse "KITCHEN_BUSY"
  else if !config.autoAcceptEnabled then return refuse "AUTO_ACCEPT_OFF"
  else
    match ← crosses platform order config.minOrderAmount (-1) with
    | some bound => return refuse ("ORDER_BELOW_MINIMUM_" ++ bound)
    | none =>
      match ← crosses platform order config.maxOrderAmount 1 with
      | some bound => return refuse ("ORDER_EXCEEDS_MAXIMUM_" ++ bound)
      | none => return ⟨true, none⟩

def applyDecision (order : DeliveryOrder) (decision : AutoAcceptDecision) : DeliveryOrder :=
  if decision.accepted then { order with status := .accepted, updatedAt := oracle.newDate 1 }
  else
    { order with
      status := .rejected, rejectionReason := decision.reason, updatedAt := oracle.newDate 1 }

/-! ### The kitchen -/

structure KdsComandaItem where
  (id productId : String)
  (name quantity : Field)
  modifiers : List (Field × Field)
  notes : Field

structure KdsComandaDispatch where
  (comandaId orgId branchId : String)
  (channel externalOrderId : Field)
  (customerName orderType : String)
  items : List KdsComandaItem
  notes : Option String
  createdAt : ℚ

def createComanda (order : DeliveryOrder) : Except DeliveryError KdsComandaDispatch :=
  if order.status ≠ .accepted then
    .error (.undispatched ("Cannot dispatch unaccepted delivery order '" ++ order.id ++
      "' (Status: " ++ order.status.text ++ ") to KDS."))
  else
    let note (label : String) (notes : Field) : List String :=
      ((notes.filter truthy).map fun notes => label ++ template platform (some notes)).toList
    let combinedNotes := " | ".intercalate
      (note "[NOTAS PEDIDO] " order.orderNotes ++ note "[ENTREGA] " order.deliveryNotes)
    .ok {
      comandaId := oracle.randomUUID (order.items.length + 1), orgId := order.orgId
      branchId := order.branchId, channel := order.channel, externalOrderId := order.externalOrderId
      customerName := order.customerName, orderType := "DELIVERY"
      items := order.items.mapIdx fun index item =>
        { id := oracle.randomUUID (index + 1), productId := item.internalProductId, name := item.name
          quantity := item.quantity
          modifiers := item.modifiers.map fun modifier => (modifier.name, modifier.quantity)
          notes := item.notes }
      notes := present (some combinedNotes), createdAt := oracle.newDate 2 }

structure ProcessWebhookResult where
  verified : Bool
  order : DeliveryOrder
  kdsComanda : Option KdsComandaDispatch

def fulfil (payload : Json ℚ) : Except DeliveryError ProcessWebhookResult := do
  let order ← transform platform config oracle (some payload) false
  let decision ← evaluateAutoAccept platform config oracle order
  let finalizedOrder := applyDecision oracle order decision
  if finalizedOrder.status = .accepted then
    let kdsComanda ← createComanda platform oracle finalizedOrder
    return ⟨true, { finalizedOrder with kdsComandaId := some kdsComanda.comandaId }, some kdsComanda⟩
  else return ⟨true, finalizedOrder, none⟩

def processWebhook (verifier : Verifier) (store : DeduplicationStore)
    (request : IncomingWebhookRequest) (nowMs : ℚ) :
    Except DeliveryError ProcessWebhookResult × DeduplicationStore :=
  if !config.isEnabled then
    (.error (.integrationDisabled request.channel config.branchId), store)
  else
    match platform.parseJson request.rawBody with
    | .error message => (.error (.unparsedBody request.channel message), store)
    | .ok .null => (.error .nullBody, store)
    | .ok payload =>
      match verify platform verifier store request config.webhookSecret
          (property "eventId" payload) nowMs with
      | (.error e, store) => (.error e, store)
      | (.ok _, store) => (fulfil platform config oracle payload, store)

end Orders

end TridentPos.Delivery
