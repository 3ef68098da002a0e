import TridentPos.Billing.Signing
import TridentPos.Billing.TaxCalculator

/-!
# The totals a document prints

Every amount of a document is rounded to cents on its own, so the printed amounts add up only where
what the roundings leave over stays within half a cent.
-/
namespace TridentPos.Billing

open Core Library XmlText

/-- The sum of the amounts printed at one place, at scale 4; they have two decimals. -/
def printedAt (tags : List StartTag) (path : List String) (name : String) : Int :=
  ((attributesAt tags path name).map fun text => amountOf (text ++ "00")).sum

def PrintsSums (tags : List StartTag) : Prop :=
  printedAt tags ["cfdi:Comprobante"] "SubTotal" +
      printedAt tags ["cfdi:Comprobante", "cfdi:Impuestos"] "TotalImpuestosTrasladados" =
    printedAt tags ["cfdi:Comprobante"] "Total" ∧
  printedAt tags ["cfdi:Comprobante"] "SubTotal" =
    printedAt tags ["cfdi:Comprobante", "cfdi:Conceptos", "cfdi:Concepto"] "Importe"

structure ExactAmounts (params : CfdiXmlGenerationParams) (subtotal tax : Int)
    (amounts : List Int) : Prop where
  subtotalText : (params.invoice.subtotalAmount <|> params.invoice.subtotal) =
    some (scaledBigIntToDecimalString subtotal)
  taxText : (params.invoice.taxAmount <|> params.invoice.taxTotal) =
    some (scaledBigIntToDecimalString tax)
  totalText : params.invoice.totalAmount = some (scaledBigIntToDecimalString (subtotal + tax))
  items : (((params.items <|> params.invoice.items).getD []).map fun item =>
    item.subtotalAmount <|> item.subtotal) = amounts.map fun a => some (scaledBigIntToDecimalString a)
  sum : amounts.sum = subtotal

def PrintsNearest (formats : Formats) (amount : Int) : Prop :=
  amount.bmod 100 ≠ -50 ∧ amountOf ((formats.toFixed 2 (scaledBigIntToDecimalString amount)).text ++
    "00") = amount - amount.bmod 100

theorem PrintsNearest.printed {formats : Formats} {amount : Int}
    (nearest : PrintsNearest formats amount) :
    amountOf ((formatCfdiMoney formats (some (scaledBigIntToDecimalString amount))).text ++ "00") =
      amount - amount.bmod 100 := by
  have written : scaledBigIntToDecimalString amount ≠ "" := fun empty => by
    have read := decimalValue_scaledBigIntToDecimalString amount
    rw [empty] at read
    simp [decimalValue, unsignedDecimalValue] at read
  rw [formatCfdiMoney, if_neg written, nearest.2]

theorem bmod_eq_iff {amount rest : Int} (notTie : amount.bmod 100 ≠ -50)
    (same : (100 : Int) ∣ amount - rest) : amount.bmod 100 = rest ↔ -50 < rest ∧ rest < 50 := by
  rw [Int.bmod_def] at notTie ⊢
  omega

theorem sum_nearest (amounts : List Int) : (amounts.map fun a => a - a.bmod 100).sum =
    amounts.sum - (amounts.map fun a => a.bmod 100).sum ∧
    (100 : Int) ∣ (amounts.map fun a => a - a.bmod 100).sum := by
  induction amounts with
  | nil => simp
  | cons a rest ih =>
    have cents : (100 : Int) ∣ a - a.bmod 100 := by
      rw [Int.bmod_def]
      omega
    simp only [List.map_cons, List.sum_cons]
    exact ⟨by omega, Int.dvd_add cents ih.2⟩

/-- The printed amounts add up exactly where the remainders of the subtotal and the tax, and those of
the items, sum to less than half a cent. -/
theorem printed_totals_add_up_iff (formats : Formats) (params : CfdiXmlGenerationParams)
    (now : PlainText) (subtotal tax : Int) (amounts : List Int)
    (amounted : ExactAmounts params subtotal tax amounts)
    (nearest : ∀ amount ∈ subtotal :: tax :: (subtotal + tax) :: amounts,
      PrintsNearest formats amount) :
    ∃ tags, startTags (generateCfdi40Xml formats params now) = some tags ∧
      (PrintsSums tags ↔
        (-50 < subtotal.bmod 100 + tax.bmod 100 ∧ subtotal.bmod 100 + tax.bmod 100 < 50) ∧
        -50 < (amounts.map fun a => a.bmod 100).sum ∧ (amounts.map fun a => a.bmod 100).sum < 50) := by
  obtain ⟨tags, read, -, printed⟩ := cadenaOf_document formats params now
  refine ⟨tags, read, ?_⟩
  simp only [List.forall_mem_cons] at nearest
  obtain ⟨nearSubtotal, nearTax, nearTotal, nearItems⟩ := nearest
  have items : printedAt tags ["cfdi:Comprobante", "cfdi:Conceptos", "cfdi:Concepto"] "Importe" =
      (amounts.map fun a => a - a.bmod 100).sum := by
    have texts := congrArg (List.map fun text : Option String =>
      amountOf ((formatCfdiMoney formats (some (text.getD "0.0000"))).text ++ "00")) amounted.items
    rw [List.map_map, List.map_map] at texts
    rw [printedAt, printed.importes, List.map_map]
    refine congrArg List.sum (texts.trans (List.map_congr_left fun a member => ?_))
    exact (nearItems a member).printed
  have ofParts := (sum_nearest amounts).2
  rw [(sum_nearest amounts).1, amounted.sum] at items ofParts
  have parts := bmod_eq_iff nearSubtotal.1 ofParts
  have totals : (subtotal + tax).bmod 100 = subtotal.bmod 100 + tax.bmod 100 ↔
      -50 < subtotal.bmod 100 + tax.bmod 100 ∧ subtotal.bmod 100 + tax.bmod 100 < 50 := by
    refine bmod_eq_iff nearTotal.1 ?_
    simp only [Int.bmod_def]
    omega
  rw [PrintsSums, items, printedAt, printedAt, printedAt, printed.subTotal,
    printed.taxes, printed.total, amounted.subtotalText, amounted.taxText, amounted.totalText]
  simp only [List.map_cons, List.map_nil, List.sum_singleton, Option.getD_some, nearSubtotal.printed,
    nearTax.printed, nearTotal.printed]
  omega

/-! ### A third of a hundred -/

def nearestCents : Formats where
  toFixed _ text :=
    let cents := (scaledBigIntToDecimalString (amountOf text - (amountOf text).bmod 100)).toList
    plainOf (cents.take (cents.length - 2))
  isoSeconds := sampleFormats.isoSeconds

def amountsParams (subtotal tax total : String) : CfdiXmlGenerationParams where
  invoice := invoiceToStamp
    { sampleInvoiceRow with subtotal := subtotal, taxTotal := tax, totalAmount := total }
    [{ sampleItemRow with subtotal := subtotal, taxAmount := tax }] (mapEmisorRow (sampleEmisorRow none))
  items := none
  emisor := none
  certificateNumber := none
  certificateBase64 := .mk "TUlJRg=="
  sello := .mk "c2VsbG8="
  issuedAtIso := none

/-- 33.33 and 5.33 are printed for a total of 38.67. -/
theorem printed_total_off_by_a_cent :
    ExactAmounts (amountsParams "33.3340" "5.3334" "38.6674") 333340 53334 [333340] ∧
    (∀ amount ∈ [333340, 53334, 333340 + 53334], PrintsNearest nearestCents amount) ∧
    ∃ tags, startTags (generateCfdi40Xml nearestCents (amountsParams "33.3340" "5.3334" "38.6674")
      (.mk "2026-09-05T10:00:00")) = some tags ∧ ¬PrintsSums tags := by
  refine ⟨by constructor <;> decide +kernel, by unfold PrintsNearest; decide +kernel, ?_⟩
  obtain ⟨tags, read, -, printed⟩ := cadenaOf_document nearestCents
    (amountsParams "33.3340" "5.3334" "38.6674") (.mk "2026-09-05T10:00:00")
  refine ⟨tags, read, fun sums => ?_⟩
  have differ := sums.1
  rw [printedAt, printedAt, printedAt, printed.subTotal, printed.taxes, printed.total] at differ
  exact absurd differ (by decide +kernel)

theorem printed_total_to_the_cent :
    ∃ tags, startTags (generateCfdi40Xml nearestCents (amountsParams "33.3340" "5.3301" "38.6641")
      (.mk "2026-09-05T10:00:00")) = some tags ∧ PrintsSums tags := by
  obtain ⟨tags, read, sums⟩ := printed_totals_add_up_iff nearestCents
    (amountsParams "33.3340" "5.3301" "38.6641") (.mk "2026-09-05T10:00:00") 333340 53301 [333340]
    (by constructor <;> decide +kernel) (by unfold PrintsNearest; decide +kernel)
  exact ⟨tags, read, sums.mpr (by decide +kernel)⟩

end TridentPos.Billing
