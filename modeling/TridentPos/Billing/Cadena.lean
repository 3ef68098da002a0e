import TridentPos.Billing.CfdiXml

/-!
# The cadena original of a document

The values that are signed can be read off the document, attribute by attribute. Both serialisers of
an invoice give the same values, except where they are called with different certificate numbers.
-/
namespace TridentPos.Billing

open Library XmlText List

/-! ### Reading the signed values off a document -/

def StartTag.values (tag : StartTag) (names : List String) : List String :=
  names.filterMap fun name => tag.attributes.lookup name

def signedAttributes (path : List String) : List String :=
  if path = ["cfdi:Comprobante"] then
    ["Version", "Serie", "Folio", "Fecha", "FormaPago", "NoCertificado", "SubTotal", "Moneda", "Total",
      "TipoDeComprobante", "Exportacion", "MetodoPago", "LugarExpedicion"]
  else if path = ["cfdi:Comprobante", "cfdi:Emisor"] then ["Rfc", "Nombre", "RegimenFiscal"]
  else if path = ["cfdi:Comprobante", "cfdi:Receptor"] then
    ["Rfc", "Nombre", "DomicilioFiscalReceptor", "RegimenFiscalReceptor", "UsoCFDI"]
  else if path = ["cfdi:Comprobante", "cfdi:Conceptos", "cfdi:Concepto"] then
    ["ClaveProdServ", "NoIdentificacion", "Cantidad", "ClaveUnidad", "Descripcion", "ValorUnitario",
      "Importe", "ObjetoImp"]
  else if path = ["cfdi:Comprobante", "cfdi:Conceptos", "cfdi:Concepto", "cfdi:Impuestos",
      "cfdi:Traslados", "cfdi:Traslado"] then
    ["Base", "Impuesto", "TipoFactor", "TasaOCuota", "Importe"]
  else if path = ["cfdi:Comprobante", "cfdi:Impuestos", "cfdi:Traslados", "cfdi:Traslado"] then
    ["Impuesto", "TipoFactor", "TasaOCuota", "Importe"]
  else []

/-- The total of the taxes stands after the tax it sums up. -/
def closingAttributes (path : List String) : List String :=
  if path = ["cfdi:Comprobante", "cfdi:Impuestos"] then ["TotalImpuestosTrasladados"] else []

def signedValues (tag : StartTag) : List String := StartTag.values tag (signedAttributes tag.path)

def closingValues (tag : StartTag) : List String := StartTag.values tag (closingAttributes tag.path)

def cadenaOf (tags : List StartTag) : List String :=
  tags.flatMap signedValues ++ tags.flatMap closingValues

def attributesAt (tags : List StartTag) (path : List String) (name : String) : List String :=
  tags.filterMap fun tag => if tag.path = path then tag.attributes.lookup name else none

variable (items : List FiscalInvoiceItem) (item : FiscalInvoiceItem)

section Document

variable (formats : Formats)

/-! ### The tags of the document -/

def conceptoTags (item : FiscalInvoiceItem) : List StartTag :=
  ((conceptoXml formats item).foldlM Piece.read
    ⟨["cfdi:Comprobante", "cfdi:Conceptos"], []⟩).elim [] Outline.tags

theorem read_concepto (tags : List StartTag) :
    (conceptoXml formats item).foldlM Piece.read ⟨["cfdi:Comprobante", "cfdi:Conceptos"], tags⟩ =
      some ⟨["cfdi:Comprobante", "cfdi:Conceptos"], tags ++ conceptoTags formats item⟩ := by
  simp [conceptoTags, conceptoXml, Piece.read]

theorem signedValues_concepto :
    (conceptoTags formats item).flatMap signedValues =
      (cadenaConcepto formats item).map normalized := by
  simp [conceptoTags, conceptoXml, Piece.read, attributeValues, signedValues, signedAttributes,
    StartTag.values, cadenaConcepto, lookup_cons]

theorem closingValues_concepto : (conceptoTags formats item).flatMap closingValues = [] := by
  simp [conceptoTags, conceptoXml, Piece.read, closingValues, closingAttributes, StartTag.values]

theorem read_conceptos (tags : List StartTag) :
    (items.flatMap (conceptoXml formats)).foldlM Piece.read
        ⟨["cfdi:Comprobante", "cfdi:Conceptos"], tags⟩ =
      some ⟨["cfdi:Comprobante", "cfdi:Conceptos"],
        tags ++ items.flatMap (conceptoTags formats)⟩ := by
  induction items generalizing tags with
  | nil => simp
  | cons item rest ih =>
    rw [flatMap_cons, foldlM_append, read_concepto, Option.bind_eq_bind, Option.bind_some,
      ih, flatMap_cons, append_assoc]

theorem signedValues_conceptos :
    (items.flatMap (conceptoTags formats)).flatMap signedValues =
      (items.flatMap (cadenaConcepto formats)).map normalized := by
  rw [flatMap_assoc, map_flatMap]
  simp only [signedValues_concepto]

theorem closingValues_conceptos :
    (items.flatMap (conceptoTags formats)).flatMap closingValues = [] := by
  rw [flatMap_assoc]
  simp only [closingValues_concepto]
  simp

structure PrintedAmounts (params : CfdiXmlGenerationParams) (tags : List StartTag) : Prop where
  subTotal : attributesAt tags ["cfdi:Comprobante"] "SubTotal" = [(formatCfdiMoney formats
    (some ((params.invoice.subtotalAmount <|> params.invoice.subtotal).getD "0.0000"))).text]
  total : attributesAt tags ["cfdi:Comprobante"] "Total" = [(formatCfdiMoney formats
    (some (params.invoice.totalAmount.getD "0.0000"))).text]
  taxes : attributesAt tags ["cfdi:Comprobante", "cfdi:Impuestos"] "TotalImpuestosTrasladados" =
    [(formatCfdiMoney formats
      (some ((params.invoice.taxAmount <|> params.invoice.taxTotal).getD "0.0000"))).text]
  importes : attributesAt tags ["cfdi:Comprobante", "cfdi:Conceptos", "cfdi:Concepto"] "Importe" =
    ((params.items <|> params.invoice.items).getD []).map fun item => (formatCfdiMoney formats
      (some ((item.subtotalAmount <|> item.subtotal).getD "0.0000"))).text

theorem cadenaOf_document (params : CfdiXmlGenerationParams) (now : PlainText) :
    ∃ tags, startTags (generateCfdi40Xml formats params now) = some tags ∧
      cadenaOf tags = (cadenaParts formats params.invoice params.items params.emisor
        params.certificateNumber (dateOf formats params.issuedAtIso) now).map normalized ∧
      PrintedAmounts formats params tags := by
  have tagged : ∃ tags, (cfdiPieces formats params now).foldlM Piece.read ⟨[], []⟩ =
      some ⟨[], tags⟩ ∧ cadenaOf tags = (cadenaParts formats params.invoice params.items
        params.emisor params.certificateNumber (dateOf formats params.issuedAtIso) now).map
          normalized ∧
      PrintedAmounts formats params tags := by
    simp only [cfdiPieces, cadenaParts]
    generalize found : (params.items <|> params.invoice.items).getD [] = items
    rw [foldlM_append, foldlM_append]
    -- the tags before the concepts, the concepts, and the summary of the taxes
    simp only [foldlM_cons, Piece.read, Option.bind_eq_bind, Option.bind_some, foldlM_nil,
      nil_append, cons_append, Option.pure_def, read_conceptos]
    refine ⟨_, by simp; rfl, ?_, ?_⟩
    · simp [cadenaOf, signedValues, closingValues, signedAttributes, closingAttributes,
        StartTag.values, attributeValues, lookup_cons, signedValues_conceptos,
        closingValues_conceptos]
    · constructor <;> (try rw [found, map_eq_flatMap]) <;> simp [attributesAt,
        filterMap_flatMap, conceptoTags, conceptoXml, Piece.read, attributeValues,
        lookup_cons, PlainText.normalized_text]
  obtain ⟨tags, read, same⟩ := tagged
  exact ⟨tags, startTags_write read, same⟩

end Document

end TridentPos.Billing
