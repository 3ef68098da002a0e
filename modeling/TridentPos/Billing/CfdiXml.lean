import TridentPos.Billing.Domain

/-!
# CFDI 4.0: the signed text and the document

`cfdi-xml.ts`. Two serialisers of one invoice, each with its own defaults: `buildCadenaOriginal40`
lists the values that are signed, `generateCfdi40Xml` writes the document that is transmitted.
-/
namespace TridentPos.Billing

open Library XmlText

/-- What the serialisers take from the runtime: `parseFloat(text).toFixed(digits)`, and
`new Date(text).toISOString().substring(0, 19)`. Their results have no markup characters and no line
breaks. -/
structure Formats where
  toFixed : Nat → String → PlainText
  isoSeconds : String → PlainText

section Serialisers

variable (formats : Formats)

def formatCfdiMoney (val : Option String) : PlainText :=
  match val with
  | none => ⟨"0.00", forall_of_all (by decide)⟩
  | some text => if text = "" then ⟨"0.00", forall_of_all (by decide)⟩ else formats.toFixed 2 text

def replaceAll (c : Char) (replacement : String) (chars : List Char) : List Char :=
  chars.flatMap fun d => if d = c then replacement.toList else [d]

/-- `escapeXml`: one replacement after the other, the ampersand first. -/
def escapeXml (text : String) : String :=
  String.ofList <| replaceAll '\'' "&apos;" <| replaceAll '"' "&quot;" <| replaceAll '>' "&gt;" <|
    replaceAll '<' "&lt;" <| replaceAll '&' "&amp;" text.toList

theorem escapeXml_chars (text : String) :
    (escapeXml text).toList = text.toList.flatMap escapeChar := by
  have other (c d : Char) (replacement : String) (different : c ≠ d) :
      replaceAll d replacement [c] = [c] := by
    rw [replaceAll, List.flatMap_cons, if_neg different]
    rfl
  have composed (c : Char) : replaceAll '\'' "&apos;" (replaceAll '"' "&quot;" (replaceAll '>' "&gt;"
      (replaceAll '<' "&lt;" (replaceAll '&' "&amp;" [c])))) = escapeChar c := by
    unfold escapeChar
    by_cases ampersand : c = '&'
    · subst ampersand
      decide
    · by_cases less : c = '<'
      · subst less
        decide
      · by_cases greater : c = '>'
        · subst greater
          decide
        · by_cases quote : c = '"'
          · subst quote
            decide
          · rw [other c '&' _ ampersand, other c '<' _ less, other c '>' _ greater,
              other c '"' _ quote, if_neg ampersand, if_neg less, if_neg greater, if_neg quote]
            by_cases apostrophe : c = '\''
            · subst apostrophe
              decide
            · rw [other c '\'' _ apostrophe, if_neg apostrophe]
  have spread (d : Char) (replacement : String) (chars more : List Char) :
      replaceAll d replacement (chars ++ more) =
        replaceAll d replacement chars ++ replaceAll d replacement more := by
    simp [replaceAll]
  rw [escapeXml, String.toList_ofList]
  induction text.toList with
  | nil => rfl
  | cons c rest ih =>
    rw [List.flatMap_cons, ← ih, ← composed c, ← spread, ← spread, ← spread, ← spread, ← spread]
    rfl

def escaped (text : String) : AttributeText where
  raw := escapeXml text
  quotable c member := by
    rw [escapeXml_chars, List.mem_flatMap] at member
    obtain ⟨source, -, isChar⟩ := member
    exact isQuotable_escapeChar isChar

@[simp] theorem escaped_value (text : String) : (escaped text).value = normalized text := by
  rw [AttributeText.value, escaped, escapeXml_chars, unescape_escape, normalized]

def fixed (text : String) (plain : ∀ c ∈ text.toList, isPlain c := by
    exact forall_of_all (by decide +kernel)) :
    AttributeText :=
  (PlainText.mk text plain).quoted

@[simp] theorem fixed_value (text : String) (plain : ∀ c ∈ text.toList, isPlain c) :
    (fixed text plain).value = normalized text :=
  PlainText.quoted_value _

def cadenaConcepto (item : FiscalInvoiceItem) : List String :=
  let claveProdServ := (item.claveProdServ <|> item.satProductCode).getD "90101501"
  let claveUnidad := (item.claveUnidad <|> item.satUnitCode).getD "E48"
  let sku := (item.sku <|> item.productCode).getD "ITEM"
  let itemSubtotal := (item.subtotalAmount <|> item.subtotal).getD "0.0000"
  let itemTax := item.taxAmount.getD "0.0000"
  let itemRate := item.taxRate.getD "0.1600"
  [claveProdServ, sku, (formatCfdiMoney formats (some item.quantity)).text, claveUnidad,
    item.description, (formatCfdiMoney formats (some item.unitPrice)).text,
    (formatCfdiMoney formats (some itemSubtotal)).text, "02",
    (formatCfdiMoney formats (some itemSubtotal)).text, "002", "Tasa",
    (formats.toFixed 6 itemRate).text, (formatCfdiMoney formats (some itemTax)).text]

def dateOf (date : Option String) : Option PlainText :=
  (date.filter fun text => text != "").map formats.isoSeconds

/-- The values `buildCadenaOriginal40` joins. -/
def cadenaParts (invoice : FiscalInvoice) (itemsOrEmpty : Option (List FiscalInvoiceItem))
    (emisorOrEmpty : Option EmisorFiscalConfig) (certificateNumberParam : Option String)
    (fechaParam : Option PlainText) (now : PlainText) : List String :=
  let items := (itemsOrEmpty <|> invoice.items).getD []
  let emisorRfc := (emisorOrEmpty.map (·.rfc) <|> invoice.emisorRfc).getD "XAXX010101000"
  let emisorNombre := (emisorOrEmpty.map (·.razonSocial) <|> invoice.emisorNombre).getD
    "PUBLICO GENERAL"
  let emisorRegimen := (emisorOrEmpty.map (·.regimenFiscal) <|> invoice.emisorRegimenFiscal).getD
    "601"
  let emisorCp := (emisorOrEmpty.map (·.codigoPostal) <|> invoice.emisorCodigoPostal).getD "06600"
  let certNumber := (certificateNumberParam <|> emisorOrEmpty.bind (·.certificateNumber) <|>
    emisorOrEmpty.bind (·.certificadoSatNumber)).getD "30001000000500003416"
  let fecha := (fechaParam <|> dateOf formats invoice.createdAt).getD now
  let serie := (invoice.serie <|> invoice.series).getD ""
  let folio := invoice.folio.getD ""
  let formaPago := (invoice.formaPago <|> invoice.paymentWay).getD "01"
  let metodoPago := (invoice.metodoPago <|> invoice.paymentMethod).getD "PUE"
  let subtotal := (invoice.subtotalAmount <|> invoice.subtotal).getD "0.0000"
  let total := invoice.totalAmount.getD "0.0000"
  let taxTotal := (invoice.taxAmount <|> invoice.taxTotal).getD "0.0000"
  let receptorRfc := (invoice.receptorRfc <|> invoice.customerTaxId).getD "XAXX010101000"
  let receptorNombre := (invoice.receptorNombre <|> invoice.customerName).getD "PUBLICO EN GENERAL"
  let receptorCp := (invoice.receptorCodigoPostal <|> invoice.customerPostalCode).getD "06600"
  let receptorRegimen := (invoice.receptorRegimenFiscal <|> invoice.customerRegimenFiscal).getD "616"
  let usoCfdi := (invoice.receptorUsoCfdi <|> invoice.cfdiUse).getD "S01"
  let firstRate := (items.head?.bind (·.taxRate)).getD "0.1600"
  ["4.0", serie, folio, fecha.text, formaPago, certNumber,
    (formatCfdiMoney formats (some subtotal)).text, "MXN",
    (formatCfdiMoney formats (some total)).text, "I", "01", metodoPago, emisorCp, emisorRfc,
    emisorNombre, emisorRegimen, receptorRfc, receptorNombre, receptorCp, receptorRegimen, usoCfdi] ++
  items.flatMap (cadenaConcepto formats) ++
  ["002", "Tasa", (formats.toFixed 6 firstRate).text,
    (formatCfdiMoney formats (some taxTotal)).text, (formatCfdiMoney formats (some taxTotal)).text]

def buildCadenaOriginal40 (invoice : FiscalInvoice) (itemsOrEmpty : Option (List FiscalInvoiceItem))
    (emisorOrEmpty : Option EmisorFiscalConfig) (certificateNumberParam : Option String)
    (fechaParam : Option PlainText) (now : PlainText) : String :=
  "||" ++ "|".intercalate
    (cadenaParts formats invoice itemsOrEmpty emisorOrEmpty certificateNumberParam fechaParam
      now) ++ "||"

structure CfdiXmlGenerationParams where
  invoice : FiscalInvoice
  items : Option (List FiscalInvoiceItem)
  emisor : Option EmisorFiscalConfig
  certificateNumber : Option String
  (certificateBase64 sello : PlainText)
  issuedAtIso : Option String

def conceptoXml (item : FiscalInvoiceItem) : List Piece :=
  let claveProdServ := (item.claveProdServ <|> item.satProductCode).getD "90101501"
  let claveUnidad := (item.claveUnidad <|> item.satUnitCode).getD "E48"
  let sku := (item.sku <|> item.productCode).getD "ITEM"
  let itemSubtotal := (item.subtotalAmount <|> item.subtotal).getD "0.0000"
  let itemTax := item.taxAmount.getD "0.0000"
  let itemRate := item.taxRate.getD "0.1600"
  let qty := formatCfdiMoney formats (some item.quantity)
  let unitPrice := formatCfdiMoney formats (some item.unitPrice)
  let subtotalFmt := formatCfdiMoney formats (some itemSubtotal)
  let taxAmountFmt := formatCfdiMoney formats (some itemTax)
  let rate6 := formats.toFixed 6 itemRate
  [.text (.mk "    "),
    .start (.mk "cfdi:Concepto") [
      (.mk "ClaveProdServ", escaped claveProdServ),
      (.mk "NoIdentificacion", escaped sku),
      (.mk "Cantidad", qty.quoted),
      (.mk "ClaveUnidad", escaped claveUnidad),
      (.mk "Descripcion", escaped item.description),
      (.mk "ValorUnitario", unitPrice.quoted),
      (.mk "Importe", subtotalFmt.quoted),
      (.mk "ObjetoImp", fixed "02")],
    .text (.mk "\n      "),
    .start (.mk "cfdi:Impuestos") [],
    .text (.mk "\n        "),
    .start (.mk "cfdi:Traslados") [],
    .text (.mk "\n          "),
    .empty (.mk "cfdi:Traslado") [
      (.mk "Base", subtotalFmt.quoted),
      (.mk "Impuesto", fixed "002"),
      (.mk "TipoFactor", fixed "Tasa"),
      (.mk "TasaOCuota", rate6.quoted),
      (.mk "Importe", taxAmountFmt.quoted)],
    .text (.mk "\n        "),
    .close (.mk "cfdi:Traslados"),
    .text (.mk "\n      "),
    .close (.mk "cfdi:Impuestos"),
    .text (.mk "\n    "),
    .close (.mk "cfdi:Concepto"),
    .text (.mk "\n")]

/-- The tags and texts `generateCfdi40Xml` writes. -/
def cfdiPieces (params : CfdiXmlGenerationParams) (now : PlainText) : List Piece :=
  let invoice := params.invoice
  let items := (params.items <|> invoice.items).getD []
  let emisorRfc := (params.emisor.map (·.rfc) <|> invoice.emisorRfc).getD "XAXX010101000"
  let emisorNombre := (params.emisor.map (·.razonSocial) <|> invoice.emisorNombre).getD
    "PUBLICO GENERAL"
  let emisorRegimen := (params.emisor.map (·.regimenFiscal) <|> invoice.emisorRegimenFiscal).getD
    "601"
  let emisorCp := (params.emisor.map (·.codigoPostal) <|> invoice.emisorCodigoPostal).getD "06600"
  let certificateNumber := (params.certificateNumber <|> params.emisor.bind (·.certificateNumber) <|>
    params.emisor.bind (·.certificadoSatNumber)).getD "30001000000500003416"
  let serie := (invoice.serie <|> invoice.series).getD ""
  let folio := invoice.folio.getD ""
  let formaPago := (invoice.formaPago <|> invoice.paymentWay).getD "01"
  let metodoPago := (invoice.metodoPago <|> invoice.paymentMethod).getD "PUE"
  let subtotal := (invoice.subtotalAmount <|> invoice.subtotal).getD "0.0000"
  let total := invoice.totalAmount.getD "0.0000"
  let taxTotal := (invoice.taxAmount <|> invoice.taxTotal).getD "0.0000"
  let receptorRfc := (invoice.receptorRfc <|> invoice.customerTaxId).getD "XAXX010101000"
  let receptorNombre := (invoice.receptorNombre <|> invoice.customerName).getD "PUBLICO EN GENERAL"
  let receptorCp := (invoice.receptorCodigoPostal <|> invoice.customerPostalCode).getD "06600"
  let receptorRegimen := (invoice.receptorRegimenFiscal <|> invoice.customerRegimenFiscal).getD "616"
  let usoCfdi := (invoice.receptorUsoCfdi <|> invoice.cfdiUse).getD "S01"
  let fecha := (dateOf formats params.issuedAtIso <|> dateOf formats invoice.createdAt).getD now
  let subtotalFormatted := formatCfdiMoney formats (some subtotal)
  let totalFormatted := formatCfdiMoney formats (some total)
  let taxTotalFormatted := formatCfdiMoney formats (some taxTotal)
  let firstRate := (items.head?.bind (·.taxRate)).getD "0.1600"
  let rateTotal6 := formats.toFixed 6 firstRate
  [.declaration (.mk "xml version=\"1.0\" encoding=\"UTF-8\"?"),
    .text (.mk "\n"),
    .start (.mk "cfdi:Comprobante") [
      (.mk "xmlns:cfdi", fixed "http://www.sat.gob.mx/cfd/4"),
      (.mk "xmlns:xsi", fixed "http://www.w3.org/2001/XMLSchema-instance"),
      (.mk "xsi:schemaLocation", fixed ("http://www.sat.gob.mx/cfd/4 " ++
        "http://www.sat.gob.mx/sitio_internet/cfd/4/cfdv40.xsd")),
      (.mk "Version", fixed "4.0"),
      (.mk "Serie", escaped serie),
      (.mk "Folio", escaped folio),
      (.mk "Fecha", fecha.quoted),
      (.mk "FormaPago", escaped formaPago),
      (.mk "NoCertificado", escaped certificateNumber),
      (.mk "Certificado", params.certificateBase64.quoted),
      (.mk "SubTotal", subtotalFormatted.quoted),
      (.mk "Moneda", fixed "MXN"),
      (.mk "Total", totalFormatted.quoted),
      (.mk "TipoDeComprobante", fixed "I"),
      (.mk "Exportacion", fixed "01"),
      (.mk "MetodoPago", escaped metodoPago),
      (.mk "LugarExpedicion", escaped emisorCp),
      (.mk "Sello", params.sello.quoted)],
    .text (.mk "\n  "),
    .empty (.mk "cfdi:Emisor") [
      (.mk "Rfc", escaped emisorRfc),
      (.mk "Nombre", escaped emisorNombre),
      (.mk "RegimenFiscal", escaped emisorRegimen)],
    .text (.mk "\n  "),
    .empty (.mk "cfdi:Receptor") [
      (.mk "Rfc", escaped receptorRfc),
      (.mk "Nombre", escaped receptorNombre),
      (.mk "DomicilioFiscalReceptor", escaped receptorCp),
      (.mk "RegimenFiscalReceptor", escaped receptorRegimen),
      (.mk "UsoCFDI", escaped usoCfdi)],
    .text (.mk "\n  "),
    .start (.mk "cfdi:Conceptos") [],
    .text (.mk "\n")] ++
  items.flatMap (conceptoXml formats) ++
  [.text (.mk "  "),
    .close (.mk "cfdi:Conceptos"),
    .text (.mk "\n  "),
    .start (.mk "cfdi:Impuestos") [ (.mk "TotalImpuestosTrasladados", taxTotalFormatted.quoted)],
    .text (.mk "\n    "),
    .start (.mk "cfdi:Traslados") [],
    .text (.mk "\n      "),
    .empty (.mk "cfdi:Traslado") [
      (.mk "Base", subtotalFormatted.quoted),
      (.mk "Impuesto", fixed "002"),
      (.mk "TipoFactor", fixed "Tasa"),
      (.mk "TasaOCuota", rateTotal6.quoted),
      (.mk "Importe", taxTotalFormatted.quoted)],
    .text (.mk "\n    "),
    .close (.mk "cfdi:Traslados"),
    .text (.mk "\n  "),
    .close (.mk "cfdi:Impuestos"),
    .text (.mk "\n"),
    .close (.mk "cfdi:Comprobante")]

def generateCfdi40Xml (params : CfdiXmlGenerationParams) (now : PlainText) : String :=
  write (cfdiPieces formats params now)

end Serialisers

end TridentPos.Billing
