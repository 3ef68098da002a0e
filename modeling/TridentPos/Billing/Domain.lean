import TridentPos.Library.XmlText

/-!
# Fiscal invoices

The invoice, its lines and the issuer as the serialisers see them, and as the tables hold them.
Optional fields have an older and a newer name; the row mappers fill both from one column.
-/
namespace TridentPos.Billing

open Library XmlText

inductive BillingErrorKind where
  | csdCredentialsMissing
  | csdMismatch
  | csdSignature
  | invalidEmisorConfig
  | fiscalSuccessValidation
  | invalidFiscalInvoice
  | invoiceAlreadyStamped
  | invoiceInvalidState
  | idempotencyConflict
  | reconciliationRequired
  | stampingDisabled
  | pacTimeout
  | eventContractIncompatible
  | invalidEventContractVersion
  | capabilityRefused
  | databaseError
deriving DecidableEq

structure BillingError where
  kind : BillingErrorKind
  message : String
deriving DecidableEq

structure FiscalInvoiceItem where
  (productCode sku : Option String)
  description : String
  (satProductCode claveProdServ satUnitCode claveUnidad : Option String)
  (quantity unitPrice : String)
  (subtotal subtotalAmount taxAmount taxRate : Option String)

structure FiscalInvoice where
  (series serie folio customerTaxId customerName customerRegimenFiscal : Option String)
  (customerPostalCode emisorRfc emisorNombre emisorRegimenFiscal : Option String)
  (emisorCodigoPostal receptorRfc receptorNombre receptorRegimenFiscal : Option String)
  (receptorCodigoPostal receptorUsoCfdi cfdiUse paymentMethod paymentWay : Option String)
  (formaPago metodoPago subtotal subtotalAmount taxTotal taxAmount totalAmount : Option String)
  createdAt : Option String
  items : Option (List FiscalInvoiceItem)

structure EmisorFiscalConfig where
  (rfc razonSocial regimenFiscal codigoPostal : String)
  (certificateNumber certificadoSatNumber privateKeyVaultId : Option String)

/-! ### Rows -/

/-- `fiscal_invoices`: what a draft holds. A timestamp is read as the text of `toISOString`. -/
structure InvoiceRow where
  (id organizationId series folio customerTaxId customerName customerRegimenFiscal : String)
  (customerPostalCode cfdiUse paymentMethod paymentWay subtotal taxTotal totalAmount : String)
  createdAt : String
  created : createdAt ≠ "" := by decide

/-- `fiscal_invoice_items`. -/
structure ItemRow where
  (productCode description satProductCode satUnitCode quantity unitPrice subtotal : String)
  (taxAmount taxRate : String)

structure EmisorRow where
  (rfc razonSocial regimenFiscal codigoPostal : String)
  (certificateNumber privateKeyVaultId : Option String)

def mapInvoiceRow (row : InvoiceRow) : FiscalInvoice where
  series := some row.series
  serie := some row.series
  folio := some row.folio
  customerTaxId := some row.customerTaxId
  customerName := some row.customerName
  customerRegimenFiscal := some row.customerRegimenFiscal
  customerPostalCode := some row.customerPostalCode
  emisorRfc := none
  emisorNombre := none
  emisorRegimenFiscal := none
  emisorCodigoPostal := none
  receptorRfc := some row.customerTaxId
  receptorNombre := some row.customerName
  receptorRegimenFiscal := some row.customerRegimenFiscal
  receptorCodigoPostal := some row.customerPostalCode
  receptorUsoCfdi := some row.cfdiUse
  cfdiUse := some row.cfdiUse
  paymentMethod := some row.paymentMethod
  paymentWay := some row.paymentWay
  formaPago := none
  metodoPago := none
  subtotal := some row.subtotal
  subtotalAmount := some row.subtotal
  taxTotal := some row.taxTotal
  taxAmount := some row.taxTotal
  totalAmount := some row.totalAmount
  createdAt := some row.createdAt
  items := none

def mapItemRow (row : ItemRow) : FiscalInvoiceItem where
  productCode := some row.productCode
  sku := some row.productCode
  description := row.description
  satProductCode := some row.satProductCode
  claveProdServ := some row.satProductCode
  satUnitCode := some row.satUnitCode
  claveUnidad := some row.satUnitCode
  quantity := row.quantity
  unitPrice := row.unitPrice
  subtotal := some row.subtotal
  subtotalAmount := some row.subtotal
  taxAmount := some row.taxAmount
  taxRate := some row.taxRate

def mapEmisorRow (row : EmisorRow) : EmisorFiscalConfig where
  rfc := row.rfc
  razonSocial := row.razonSocial
  regimenFiscal := row.regimenFiscal
  codigoPostal := row.codigoPostal
  certificateNumber := row.certificateNumber
  certificadoSatNumber := none
  privateKeyVaultId := row.privateKeyVaultId

end TridentPos.Billing
