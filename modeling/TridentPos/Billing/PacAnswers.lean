import TridentPos.Billing.Operations

/-!
# What the PAC answers

The answers to a stamp and to its lookup, and the checks an answer passes before it counts as
evidence: it names the request it belongs to, the registry authenticates it, and a stamp is
the submitted document with a fiscal stamp in it.
-/
namespace TridentPos.Billing

open Core Library

inductive PacStampStatus where
  | stamped
  | rejected
  | timeout
  | other
deriving DecidableEq

structure PacStampResult where
  status : PacStampStatus
  pacProvider : Option String
  correlation : Option FiscalResultCorrelation
  (certifiedProviderRfc uuid selloSat fechaTimbrado noCertificadoSat stampedXml : Option String)
  xmlTimbrado : Option String

inductive StampLookupOutcome where
  | stampedConfirmed
  | rejectedConfirmed
  | notFoundConfirmed
  | pending
  | unknown
deriving DecidableEq

def StampLookupOutcome.text : StampLookupOutcome → String
  | .stampedConfirmed => "STAMPED_CONFIRMED"
  | .rejectedConfirmed => "REJECTED_CONFIRMED"
  | .notFoundConfirmed => "NOT_FOUND_CONFIRMED"
  | .pending => "PENDING"
  | .unknown => "UNKNOWN"

/-- `AuthoritativeStampReconciliationResult`. -/
structure StampLookup where
  outcome : StampLookupOutcome
  pacProvider : Option String
  correlation : Option FiscalResultCorrelation
  (certifiedProviderRfc uuid selloSat fechaTimbrado noCertificadoSat stampedXml : Option String)

/-- A call of the PAC throws, with a `PacTimeoutError` or anything else, or returns. -/
inductive PacAnswer (α : Type) where
  | threw (isTimeout : Bool)
  | returned (result : α)

/-! ### Evidence -/

def validateResultCorrelation (connector : PacConnector) (pacProvider : Option String)
    (correlation : Option FiscalResultCorrelation) (expected : FiscalResultCorrelation) :
    Except BillingError Unit :=
  if pacProvider ≠ some connector.providerName ∨ correlation ≠ some expected then
    .error ⟨.fiscalSuccessValidation, "Uncorrelated PAC evidence"⟩
  else .ok ()

/-- `verified` is what the registry answers; where it is missing or throws, it does not verify. -/
def validateFiscalEvidence (connector : PacConnector) (verified : Bool)
    (pacProvider : Option String)
    (correlation : Option FiscalResultCorrelation) (expected : FiscalResultCorrelation) :
    Except BillingError Unit := do
  validateResultCorrelation connector pacProvider correlation expected
  if !verified then
    throw ⟨.fiscalSuccessValidation, "Authenticated fiscal evidence unavailable"⟩

def present (text : Option String) : Option String := text.filter fun text => !isBlank text

def validateAuthoritativeStampResult (service : BillingService) (result : PacStampResult)
    (originalXml : String) : Except BillingError Unit := do
  if result.status ≠ .stamped then throw (validationError "PAC result is not STAMPED")
  match present result.uuid with
  | none => throw (validationError "PAC STAMPED result is missing required fiscal UUID")
  | some uuid =>
    match present (result.stampedXml.or result.xmlTimbrado) with
    | none => throw (validationError "PAC STAMPED result is missing certified stamped XML")
    | some stampedXml =>
      match service.connector.certifiedProviderRfc.filter fun rfc => rfc != "" with
      | none => throw (validationError "Certified provider identity unavailable")
      | some rfc =>
        if result.certifiedProviderRfc ≠ some rfc then
          throw (validationError "Certified provider identity unavailable")
        let tfd ← validateAndExtractTimbreFiscalDigital service.sax service.precedes
          service.dateParses stampedXml ⟨some uuid, some rfc, some originalXml⟩
        if result.selloSat ≠ some tfd.selloSat ∨ result.fechaTimbrado ≠ some tfd.fechaTimbrado ∨
            result.noCertificadoSat ≠ some tfd.noCertificadoSat then
          throw (validationError "Inconsistent stamped metadata")

def StampLookup.result (lookup : StampLookup) : PacStampResult where
  status := .stamped
  pacProvider := none
  correlation := none
  certifiedProviderRfc := lookup.certifiedProviderRfc
  uuid := lookup.uuid
  selloSat := lookup.selloSat
  fechaTimbrado := lookup.fechaTimbrado
  noCertificadoSat := lookup.noCertificadoSat
  stampedXml := lookup.stampedXml
  xmlTimbrado := none

theorem validateAuthoritativeStampResult_uuid {service : BillingService} {result : PacStampResult}
    {originalXml : String}
    (accepted : validateAuthoritativeStampResult service result originalXml = .ok ()) :
    ∃ uuid, result.uuid = some uuid ∧ uuid ≠ "" := by
  simp only [validateAuthoritativeStampResult, Fallible.guard_eq_ok] at accepted
  obtain ⟨-, accepted⟩ := accepted
  split at accepted
  next => exact absurd accepted Fallible.throw_ne_ok
  next uuid given =>
    obtain ⟨there, notBlank⟩ := Option.filter_eq_some_iff.mp given
    refine ⟨uuid, there, ?_⟩
    rintro rfl
    simp [isBlank] at notBlank

end TridentPos.Billing
