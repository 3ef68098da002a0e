import TridentPos.Billing.Cadena
import TridentPos.Core.Money
import TridentPos.Core.Text
import TridentPos.Library.Fallible

/-!
# Signing an invoice

The part of `stampFiscalInvoice` that reads the certificate, signs the cadena original and writes the
document. The certificate number is completed from the certificate after the cadena's own default
has been decided, so the two can name different certificates.
-/
namespace TridentPos.Billing

open Core Library XmlText Fallible List

/-! ### Certificates -/

/-- `replace(/pattern/g, '')`; `skip` counts the characters of a match still to drop. -/
def removeAll (pattern : List Char) : Nat → List Char → List Char
  | _, [] => []
  | skip + 1, _ :: rest => removeAll pattern skip rest
  | 0, c :: rest =>
    if pattern.isPrefixOf (c :: rest) then removeAll pattern (pattern.length - 1) rest
    else c :: removeAll pattern 0 rest

theorem removeAll_subset (pattern : List Char) (skip : Nat) (chars : List Char) :
    removeAll pattern skip chars ⊆ chars := by
  induction chars generalizing skip with
  | nil => simp [removeAll]
  | cons c rest ih =>
    cases skip with
    | succ skip => exact fun d member => mem_cons_of_mem _ (ih skip member)
    | zero =>
      rw [removeAll]
      split
      next => exact fun d member => mem_cons_of_mem _ (ih _ member)
      next => exact cons_subset_cons _ (ih 0)

def singleLine (pem : List Char) : List Char :=
  ((["-----BEGIN CERTIFICATE-----", "-----END CERTIFICATE-----", "-----BEGIN PUBLIC KEY-----",
    "-----END PUBLIC KEY-----"].foldl (fun chars pattern => removeAll pattern.toList 0 chars) pem)).filter
      fun c => !isTrimmed c

theorem singleLine_subset (pem : List Char) : singleLine pem ⊆ pem := by
  unfold singleLine
  refine fun c member => ?_
  simp only [foldl_cons, foldl_nil, mem_filter] at member
  exact removeAll_subset _ _ _ (removeAll_subset _ _ _ (removeAll_subset _ _ _
    (removeAll_subset _ _ _ member.1)))

theorem isBreak_of_mem_singleLine {pem : List Char} {c : Char} (member : c ∈ singleLine pem) :
    isBreak c = false :=
  isBreak_eq_false (p := fun c => !isTrimmed c) (mem_filter.mp member).2 (by decide)

def formatCertBase64SingleLine (certificatePem : CharacterData) : Except BillingError PlainText :=
  if isBlank certificatePem.text then .error ⟨.csdCredentialsMissing, "Certificate PEM is empty"⟩
  else .ok {
    text := String.ofList (singleLine certificatePem.text.toList)
    plain := fun c member => by
      rw [String.toList_ofList] at member
      simp [isPlain, certificatePem.unmarked c (singleLine_subset _ member),
        isBreak_of_mem_singleLine member] }

def asciiDigits : List Char → Option (List Char)
  | [] => some []
  | '3' :: digit :: rest => if digit.isDigit then (asciiDigits rest).map (digit :: ·) else none
  | _ => none

/-- `extractCertNumberFromPem`. `serialNumber` is what `X509Certificate` reads, if it parses. -/
def extractCertificateNumber (serialNumber : String → Option String) (certPem : String) :
    Except BillingError String := do
  if isBlank certPem then
    throw ⟨.csdCredentialsMissing, "Certificate PEM is empty or missing"⟩
  match serialNumber certPem with
  | none => throw ⟨.csdCredentialsMissing, "Failed to parse CSD X509 certificate"⟩
  | some rawHex =>
    if rawHex = "" then
      throw ⟨.csdCredentialsMissing, "X509 Certificate contains no serialNumber"⟩
    let decoded := (asciiDigits rawHex.toList).filter fun digits =>
      10 ≤ digits.length && digits.length ≤ 20
    match decoded with
    | some digits => return String.ofList digits
    | none =>
      let cleanDigits := rawHex.toList.filter Char.isDigit
      if 10 ≤ cleanDigits.length then
        let padded := padStart 20 cleanDigits
        return String.ofList (padded.drop (padded.length - 20))
      else
        throw ⟨.csdCredentialsMissing,
          "Cannot extract valid 20-digit SAT certificate number from serial '" ++ rawHex ++ "'"⟩

theorem isDigit_of_asciiDigits {chars digits : List Char} (decoded : asciiDigits chars = some digits) :
    ∀ c ∈ digits, c.isDigit := by
  fun_induction asciiDigits chars generalizing digits with
  | case1 => simp_all
  | case2 digit rest isDigit ih =>
    obtain ⟨later, read, rfl⟩ := Option.map_eq_some_iff.mp decoded
    exact forall_mem_cons.mpr ⟨isDigit, ih read⟩
  | case3 => simp_all
  | case4 => simp_all

theorem digits_of_extractCertificateNumber {serialNumber : String → Option String}
    {certPem number : String} (extracted : extractCertificateNumber serialNumber certPem = .ok number) :
    number.toList ≠ [] ∧ ∀ c ∈ number.toList, c.isDigit := by
  have digits_of {digits : List Char} (long : 10 ≤ digits.length)
      (all : ∀ c ∈ digits, c.isDigit) :
      (String.ofList digits).toList ≠ [] ∧ ∀ c ∈ (String.ofList digits).toList, c.isDigit := by
    rw [String.toList_ofList]
    exact ⟨ne_nil_of_length_pos (by omega), all⟩
  simp only [extractCertificateNumber, guard_eq_ok] at extracted
  obtain ⟨-, extracted⟩ := extracted
  split at extracted
  next => exact absurd extracted throw_ne_ok
  next rawHex _ =>
    simp only [guard_eq_ok] at extracted
    obtain ⟨-, extracted⟩ := extracted
    split at extracted
    next digits found =>
      obtain ⟨decoded, fits⟩ := Option.filter_eq_some_iff.mp found
      obtain rfl := pure_eq_ok.mp extracted
      exact digits_of (by simp at fits; omega) (isDigit_of_asciiDigits decoded)
    next =>
      split at extracted
      next long =>
        obtain rfl := pure_eq_ok.mp extracted
        refine digits_of ?_ fun c member => ?_
        · simp [padStart]
          omega
        · rcases mem_append.mp (mem_of_mem_drop member) with isZero | isDigit
          · simp_all
          · exact (mem_filter.mp isDigit).2
      next => exact absurd extracted throw_ne_ok

def isCertificatePem (pem : String) : Bool :=
  let header := "-----BEGIN CERTIFICATE-----".toList
  let footer := "-----END CERTIFICATE-----".toList
  let kept := (pem.toList.reverse.dropWhile isTrimmed).reverse
  header.isPrefixOf kept && footer.isSuffixOf kept && header.length + footer.length ≤ kept.length &&
    !pem.toList.tails.any ("PRIVATE KEY".toList.isPrefixOf ·)

/-! ### The signature -/

inductive VaultAnswer (α : Type) where
  | unavailable
  | missing
  | found (value : α)

/-- The vault, the cryptography and the runtime. Certificates have no markup characters, seals are
base 64; the two serialisers read the clock one after the other. -/
structure SigningEnvironment where
  privateKey : VaultAnswer String
  certificate : VaultAnswer CharacterData
  serialNumber : String → Option String
  keysMatch : String → String → Option Bool
  sign : String → String → Option PlainText
  formats : Formats
  (now later : PlainText)

structure SignedInvoice where
  cadenaOriginal : String
  selloEmisor : PlainText
  cfdiXml : String

variable (env : SigningEnvironment)

def privateKeyOf (vaultId : String) : Except BillingError String :=
  match env.privateKey with
  | .unavailable => .error ⟨.csdCredentialsMissing, "CSD vault access unavailable"⟩
  | .missing => .error ⟨.csdCredentialsMissing,
      "CSD private key not found in vault for vault ID '" ++ vaultId ++ "'"⟩
  | .found pem =>
    if pem = "" then .error ⟨.csdCredentialsMissing,
      "CSD private key not found in vault for vault ID '" ++ vaultId ++ "'"⟩
    else .ok pem

def certificateOf (organizationId : String) : Except BillingError CharacterData :=
  let missing := ⟨.csdCredentialsMissing,
    "CSD certificate PEM is missing for organization '" ++ organizationId ++ "'"⟩
  match env.certificate with
  | .unavailable => .error ⟨.csdCredentialsMissing, "CSD vault access unavailable"⟩
  | .missing => .error missing
  | .found pem => if isCertificatePem pem.text then .ok pem else .error missing

/-- Nothing comes back where signing or verifying throws. -/
def validateCsdKeyPairMatch (certificatePem : CharacterData)
    (privateKeyPem : String) : Except BillingError Unit :=
  match env.keysMatch certificatePem.text privateKeyPem with
  | none => .error ⟨.csdMismatch, "CSD cryptographic key matching failed"⟩
  | some false =>
    .error ⟨.csdMismatch, "CSD private key does not match the provided public certificate"⟩
  | some true => .ok ()

def certificateNumberOf (emisor : EmisorFiscalConfig)
    (certificatePem : CharacterData) : Except BillingError String :=
  match emisor.certificateNumber with
  | none => extractCertificateNumber env.serialNumber certificatePem.text
  | some number =>
    if isBlank number then extractCertificateNumber env.serialNumber certificatePem.text
    else .ok number

variable (row : InvoiceRow) (items : List ItemRow)

def invoiceToStamp (emisor : EmisorFiscalConfig) : FiscalInvoice :=
  { mapInvoiceRow row with
    emisorRfc := some emisor.rfc, emisorNombre := some emisor.razonSocial
    emisorRegimenFiscal := some emisor.regimenFiscal, emisorCodigoPostal := some emisor.codigoPostal
    items := some (items.map mapItemRow) }

def signInvoice (emisorRow : Option EmisorRow) : Except BillingError SignedInvoice := do
  match emisorRow with
  | none => throw ⟨.invalidEmisorConfig,
      "Emisor config missing for organization '" ++ row.organizationId ++ "'"⟩
  | some emisorRow =>
    let emisor := mapEmisorRow emisorRow
    match emisor.privateKeyVaultId.filter fun id => id != "" with
    | none => throw ⟨.csdCredentialsMissing,
        "Emisor private key vault reference (private_key_vault_id) is missing for organization '" ++
          row.organizationId ++ "'"⟩
    | some vaultId =>
      let privateKeyPem ← privateKeyOf env vaultId
      let certificatePem ← certificateOf env row.organizationId
      let noCertificado ← certificateNumberOf env emisor certificatePem
      validateCsdKeyPairMatch env certificatePem privateKeyPem
      let certificadoBase64 ← formatCertBase64SingleLine certificatePem
      let invoice := invoiceToStamp row items emisor
      let cadenaOriginal := buildCadenaOriginal40 env.formats invoice (some (items.map mapItemRow))
        (some emisor) none none env.now
      match env.sign cadenaOriginal privateKeyPem with
      | none => throw ⟨.csdSignature, "Failed to generate digital stamp"⟩
      | some selloEmisor =>
        let cfdiXml := generateCfdi40Xml env.formats {
          invoice := invoice, items := some (items.map mapItemRow), emisor := some emisor
          certificateNumber := some noCertificado, certificateBase64 := certificadoBase64
          sello := selloEmisor, issuedAtIso := none } env.later
        return ⟨cadenaOriginal, selloEmisor, cfdiXml⟩

/-! ### What is signed -/

def signedParts (emisorRow : EmisorRow) : List String :=
  let emisor := mapEmisorRow emisorRow
  cadenaParts env.formats (invoiceToStamp row items emisor) (some (items.map mapItemRow))
    (some emisor) none none env.now

/-- The values of the document, which names the certificate it was given. -/
def documentParts (emisorRow : EmisorRow) (noCertificado : String) : List String :=
  let emisor := mapEmisorRow emisorRow
  cadenaParts env.formats (invoiceToStamp row items emisor) (some (items.map mapItemRow))
    (some emisor) (some noCertificado) none env.later

section Signed

variable (emisorRow : EmisorRow)

theorem documentParts_eq (noCertificado : String) :
    documentParts env row items emisorRow noCertificado =
      (signedParts env row items emisorRow).set 5 noCertificado := by
  have dated : dateOf env.formats (invoiceToStamp row items (mapEmisorRow emisorRow)).createdAt =
      some (env.formats.isoSeconds row.createdAt) := by
    simp [dateOf, invoiceToStamp, mapInvoiceRow, row.created]
  simp [documentParts, signedParts, cadenaParts, dated]

theorem signedParts_number : (signedParts env row items emisorRow)[5]? =
    some (emisorRow.certificateNumber.getD "30001000000500003416") := by
  cases given : emisorRow.certificateNumber <;> simp [signedParts, cadenaParts, mapEmisorRow, given]

variable {env row items emisorRow}

theorem signInvoice_eq_ok {signed : SignedInvoice}
    (signs : signInvoice env row items (some emisorRow) = .ok signed) :
    ∃ certificatePem noCertificado tags,
      certificateOf env row.organizationId = .ok certificatePem ∧
      certificateNumberOf env (mapEmisorRow emisorRow) certificatePem = .ok noCertificado ∧
      signed.cadenaOriginal = "||" ++ "|".intercalate (signedParts env row items emisorRow) ++ "||" ∧
      startTags signed.cfdiXml = some tags ∧
      cadenaOf tags = (documentParts env row items emisorRow noCertificado).map normalized := by
  simp only [signInvoice] at signs
  split at signs
  next => exact absurd signs throw_ne_ok
  next vaultId given =>
    simp only [bind_eq_ok] at signs
    obtain ⟨privateKeyPem, -, certificatePem, certified, noCertificado, number, -, -, certificado, -,
      signs⟩ := signs
    split at signs
    next => exact absurd signs throw_ne_ok
    next sello sealed =>
      obtain rfl := pure_eq_ok.mp signs
      obtain ⟨tags, read, same, -⟩ := cadenaOf_document env.formats {
        invoice := invoiceToStamp row items (mapEmisorRow emisorRow)
        items := some (items.map mapItemRow), emisor := some (mapEmisorRow emisorRow)
        certificateNumber := some noCertificado, certificateBase64 := certificado, sello := sello
        issuedAtIso := none } env.later
      exact ⟨certificatePem, noCertificado, tags, certified, number, rfl, read, same⟩

/-- The number that is signed is that of the certificate: the configuration names it, or leaves it
open and the certificate is the one the cadena takes by default. -/
def NamesCertificate (env : SigningEnvironment) (emisorRow : EmisorRow) : Prop :=
  match emisorRow.certificateNumber with
  | some number => isBlank number = false
  | none => ∃ certificatePem, env.certificate = .found certificatePem ∧
      extractCertificateNumber env.serialNumber certificatePem.text = .ok "30001000000500003416"

/-- An attribute can hold the text and a reader gives it back. -/
def Attributable (text : String) : Prop :=
  ∀ c ∈ text.toList, isXmlChar c ∧ isBreak c = false

instance (text : String) : Decidable (Attributable text) :=
  decidable_of_iff (text.toList.all fun c => isXmlChar c && !isBreak c) (by simp [Attributable])

theorem certificateOf_eq_ok {organizationId : String} {certificatePem : CharacterData}
    (certified : certificateOf env organizationId = .ok certificatePem) :
    env.certificate = .found certificatePem := by
  unfold certificateOf at certified
  split at certified <;> try contradiction
  next pem found =>
    split at certified
    next => rw [found, Except.ok.inj certified]
    next => contradiction

theorem isBlank_of_digits {number : String} (given : number.toList ≠ [])
    (digits : ∀ c ∈ number.toList, c.isDigit) : isBlank number = false := by
  obtain ⟨c, rest, isText⟩ := exists_cons_of_ne_nil given
  have digit := digits c (by simp [isText])
  have kept : isTrimmed c = false := by
    simp only [Char.isDigit, Bool.and_eq_true, decide_eq_true_eq] at digit
    have low : 48 ≤ c.toNat := digit.1
    have high : c.toNat ≤ 57 := digit.2
    simp [isTrimmed]
    omega
  simp [isBlank, isText, kept]

theorem shown_number_iff {certificatePem : CharacterData} {noCertificado : String}
    (certified : env.certificate = .found certificatePem)
    (numbered : certificateNumberOf env (mapEmisorRow emisorRow) certificatePem = .ok noCertificado) :
    let signedNumber := emisorRow.certificateNumber.getD "30001000000500003416"
    normalized noCertificado = signedNumber ↔
      NamesCertificate env emisorRow ∧ normalized signedNumber = signedNumber := by
  have extracted_shown {number : String}
      (extracted : extractCertificateNumber env.serialNumber certificatePem.text = .ok number) :
      normalized number = number := by
    obtain ⟨-, digits⟩ := digits_of_extractCertificateNumber extracted
    exact normalized_eq_self_iff.mpr fun c member => isBreak_eq_false (digits c member) (by decide)
  have default_shown : normalized "30001000000500003416" = "30001000000500003416" := by
    decide +kernel
  simp only [certificateNumberOf, mapEmisorRow] at numbered
  unfold NamesCertificate
  split at numbered
  next unnamed =>
    simp [unnamed, certified, numbered, extracted_shown numbered, default_shown]
  next number named =>
    split at numbered
    next blank =>
      obtain ⟨given, digits⟩ := digits_of_extractCertificateNumber numbered
      have other : noCertificado ≠ number := by
        rintro rfl
        simp [isBlank_of_digits given digits] at blank
      simp [named, blank, extracted_shown numbered, other]
    next notBlank =>
      obtain rfl := Except.ok.inj numbered
      simp [named, notBlank]

/-- What is signed is the cadena original of the document exactly where the configuration names the
certificate and the attributes can hold the values. -/
theorem signed_text_is_cadena_of_document (signed : SignedInvoice)
    (signs : signInvoice env row items (some emisorRow) = .ok signed) :
    ∃ tags, startTags signed.cfdiXml = some tags ∧
      signed.cadenaOriginal = "||" ++ "|".intercalate (signedParts env row items emisorRow) ++ "||" ∧
      ((cadenaOf tags = signedParts env row items emisorRow ∧
          ∀ value ∈ cadenaOf tags, ∀ c ∈ value.toList, isXmlChar c) ↔
        NamesCertificate env emisorRow ∧
          ∀ value ∈ signedParts env row items emisorRow, Attributable value) := by
  obtain ⟨certificatePem, noCertificado, tags, certified, numbered, cadena, read, shown⟩ :=
    signInvoice_eq_ok signs
  have number := shown_number_iff (certificateOf_eq_ok certified) numbered
  have fifth := signedParts_number env row items emisorRow
  obtain ⟨inside, isNumber⟩ := List.getElem?_eq_some_iff.mp fifth
  refine ⟨tags, read, cadena, ?_, ?_⟩
  · rintro ⟨agree, legible⟩
    rw [agree] at shown legible
    constructor
    · rw [shown, documentParts_eq, getElem?_map, getElem?_set_self inside] at fifth
      exact (number.mp (Option.some.inj fifth)).1
    · intro value member c isChar
      refine ⟨legible value member c isChar, ?_⟩
      rw [shown] at member
      obtain ⟨written, -, rfl⟩ := mem_map.mp member
      rw [normalized, String.toList_ofList] at isChar
      exact isBreak_of_mem_normalize _ c isChar
  · rintro ⟨named, attributable⟩
    have kept : ∀ value ∈ signedParts env row items emisorRow, normalized value = value := by
      intro value member
      exact normalized_eq_self_iff.mpr fun c isChar => (attributable value member c isChar).2
    have agree : cadenaOf tags = signedParts env row items emisorRow := by
      have same := number.mpr ⟨named, kept _ (mem_of_getElem? fifth)⟩
      rw [shown, documentParts_eq, map_set, same, map_congr_left kept, map_id', ← isNumber,
        set_getElem_self]
    refine ⟨agree, fun value member c isChar => ?_⟩
    rw [agree] at member
    exact (attributable value member c isChar).1

end Signed

/-! ### An issuer without a certificate number -/

def plainOf (chars : List Char) : PlainText where
  text := String.ofList (chars.filter isPlain)
  plain c member := by
    rw [String.toList_ofList, mem_filter] at member
    exact member.2

/-- Amounts of scale 4 that are whole cents, and dates of `toISOString`. -/
def sampleFormats : Formats where
  toFixed digits text :=
    if digits = 2 then plainOf (text.toList.take (text.toList.length - 2))
    else plainOf (text.toList ++ ['0', '0'])
  isoSeconds text := plainOf (text.toList.take 19)

theorem sampleSello_plain : ∀ c ∈ "c2VsbG8=".toList, isPlain c :=
  forall_of_all (by decide +kernel)

theorem sampleNow_plain : ∀ c ∈ "2026-09-05T10:00:00".toList, isPlain c :=
  forall_of_all (by decide +kernel)

def sampleSigning : SigningEnvironment where
  privateKey := .found "key"
  certificate := .found (.mk "-----BEGIN CERTIFICATE-----\nMIIF\n-----END CERTIFICATE-----\n")
  serialNumber _ := some "3330303031303030303030353030303033343137"
  keysMatch _ _ := some true
  sign _ _ := some ⟨"c2VsbG8=", sampleSello_plain⟩
  formats := sampleFormats
  now := ⟨"2026-09-05T10:00:00", sampleNow_plain⟩
  later := ⟨"2026-09-05T10:00:00", sampleNow_plain⟩

def sampleInvoiceRow : InvoiceRow where
  id := "i1"
  organizationId := "o1"
  series := "FAC"
  folio := "1"
  customerTaxId := "XAXX010101000"
  customerName := "Pérez & Hijos"
  customerRegimenFiscal := "616"
  customerPostalCode := "06600"
  cfdiUse := "S01"
  paymentMethod := "PUE"
  paymentWay := "01"
  subtotal := "100.0000"
  taxTotal := "16.0000"
  totalAmount := "116.0000"
  createdAt := "2026-09-05T10:00:00.000Z"

def sampleItemRow : ItemRow :=
  ⟨"SKU-1", "Cena \"del día\"", "90101501", "E48", "1.0000", "100.0000", "100.0000", "16.0000", "0.1600"⟩

def sampleEmisorRow (certificateNumber : Option String) : EmisorRow :=
  ⟨"EKU9003173C9", "ESCUELA KEMPER URGATE", "601", "42501", certificateNumber, some "vault-1"⟩

abbrev sampleSigned (certificateNumber : Option String) : Except BillingError SignedInvoice :=
  signInvoice sampleSigning sampleInvoiceRow [sampleItemRow] (some (sampleEmisorRow certificateNumber))

abbrev sampleParts (certificateNumber : Option String) : List String :=
  signedParts sampleSigning sampleInvoiceRow [sampleItemRow] (sampleEmisorRow certificateNumber)

/-- The cadena of an issuer without a number names a certificate of its own, the document the one
that signs. -/
theorem missing_number_signs_other_text :
    ∃ signed tags, sampleSigned none = .ok signed ∧ startTags signed.cfdiXml = some tags ∧
      (sampleParts none)[5]? = some "30001000000500003416" ∧
      (cadenaOf tags)[5]? = some "30001000000500003417" ∧ cadenaOf tags ≠ sampleParts none := by
  obtain ⟨accepted, number, length, named, shown⟩ :
      (sampleSigned none).isOk ∧
      ((certificateOf sampleSigning sampleInvoiceRow.organizationId).bind fun pem =>
        certificateNumberOf sampleSigning (mapEmisorRow (sampleEmisorRow none)) pem) =
          .ok "30001000000500003417" ∧
      5 < (sampleParts none).length ∧ (sampleParts none)[5]? = some "30001000000500003416" ∧
      normalized "30001000000500003417" = "30001000000500003417" := by
    decide +kernel
  obtain ⟨signed, signs⟩ := exists_of_isOk accepted
  obtain ⟨pem, noCertificado, tags, certified, numbered, -, read, same⟩ := signInvoice_eq_ok signs
  rw [certified] at number
  obtain rfl : noCertificado = "30001000000500003417" := Except.ok.inj (numbered.symm.trans number)
  rw [documentParts_eq] at same
  have inDocument : (cadenaOf tags)[5]? = some "30001000000500003417" := by
    rw [same, getElem?_map, getElem?_set_self length, Option.map_some, shown]
  refine ⟨signed, tags, signs, read, named, inDocument, fun agree => ?_⟩
  rw [agree, named] at inDocument
  simp at inDocument

theorem given_number_signs_document :
    ∃ signed tags, sampleSigned (some "30001000000500003417") = .ok signed ∧
      startTags signed.cfdiXml = some tags ∧
      cadenaOf tags = sampleParts (some "30001000000500003417") ∧
      signed.cadenaOriginal = "||" ++ "|".intercalate (cadenaOf tags) ++ "||" := by
  obtain ⟨accepted, named, attributable⟩ :
      (sampleSigned (some "30001000000500003417")).isOk ∧
      isBlank "30001000000500003417" = false ∧
      ∀ value ∈ sampleParts (some "30001000000500003417"), Attributable value := by
    decide +kernel
  obtain ⟨signed, signs⟩ := exists_of_isOk accepted
  obtain ⟨tags, read, cadena, agree⟩ := signed_text_is_cadena_of_document signed signs
  obtain ⟨same, -⟩ := agree.mpr ⟨named, attributable⟩
  exact ⟨signed, tags, signs, read, same, by rw [cadena, same]⟩

/-! ### The separator -/

theorem splitOn_cadena {parts : List String} (given : parts ≠ [])
    (separable : ∀ value ∈ parts, '|' ∉ value.toList) :
    (("|".intercalate parts).toList.splitOn '|').map String.ofList = parts := by
  have apart : ∀ chars ∈ parts.map String.toList, '|' ∉ chars := by
    intro chars member
    obtain ⟨value, isPart, rfl⟩ := mem_map.mp member
    exact separable value isPart
  rw [String.toList_intercalate]
  change (List.splitOn '|' (['|'].intercalate _)).map String.ofList = _
  rw [splitOn_intercalate '|' apart (by simpa using given)]
  simp [Function.comp_def]

/-- Two invoices share a signed text only if they share its values, where no value of either has the
separator in it. -/
theorem signed_text_determines_values (env env' : SigningEnvironment) (row row' : InvoiceRow)
    (items items' : List ItemRow) (emisorRow emisorRow' : EmisorRow) (signed signed' : SignedInvoice)
    (signs : signInvoice env row items (some emisorRow) = .ok signed)
    (signs' : signInvoice env' row' items' (some emisorRow') = .ok signed')
    (separable : ∀ value ∈ signedParts env row items emisorRow, '|' ∉ value.toList)
    (separable' : ∀ value ∈ signedParts env' row' items' emisorRow', '|' ∉ value.toList)
    (same : signed.cadenaOriginal = signed'.cadenaOriginal) :
    signedParts env row items emisorRow = signedParts env' row' items' emisorRow' := by
  obtain ⟨-, -, -, -, -, cadena, -⟩ := signInvoice_eq_ok signs
  obtain ⟨-, -, -, -, -, cadena', -⟩ := signInvoice_eq_ok signs'
  rw [cadena, cadena', String.append_left_inj, String.append_right_inj] at same
  have cut := splitOn_cadena (by simp [signedParts, cadenaParts]) separable
  rw [same, splitOn_cadena (by simp [signedParts, cadenaParts]) separable'] at cut
  exact cut.symm

abbrev splicedSigned (series folio : String) : Except BillingError SignedInvoice :=
  signInvoice sampleSigning { sampleInvoiceRow with series := series, folio := folio } [sampleItemRow]
    (some (sampleEmisorRow none))

abbrev splicedParts (series folio : String) : List String :=
  signedParts sampleSigning { sampleInvoiceRow with series := series, folio := folio }
    [sampleItemRow] (sampleEmisorRow none)

/-- The series `A|1` with the folio 2, and the series A with the folio `1|2`. -/
theorem separator_hides_other_invoice :
    ∃ signed signed', splicedSigned "A|1" "2" = .ok signed ∧ splicedSigned "A" "1|2" = .ok signed' ∧
      signed.cadenaOriginal = signed'.cadenaOriginal ∧
      splicedParts "A|1" "2" ≠ splicedParts "A" "1|2" := by
  obtain ⟨accepted, accepted'⟩ : (splicedSigned "A|1" "2").isOk ∧
      (splicedSigned "A" "1|2").isOk := by decide +kernel
  obtain ⟨signed, signs⟩ := exists_of_isOk accepted
  obtain ⟨signed', signs'⟩ := exists_of_isOk accepted'
  obtain ⟨-, -, -, -, -, cadena, -⟩ := signInvoice_eq_ok signs
  obtain ⟨-, -, -, -, -, cadena', -⟩ := signInvoice_eq_ok signs'
  refine ⟨signed, signed', signs, signs', ?_, by decide +kernel⟩
  rw [cadena, cadena']
  decide +kernel

/-- The sample twice, under two ids. -/
theorem sample_text_determines_values :
    ∃ signed signed', sampleSigned none = .ok signed ∧
      signInvoice sampleSigning { sampleInvoiceRow with id := "i2" } [sampleItemRow]
        (some (sampleEmisorRow none)) = .ok signed' ∧ signed.cadenaOriginal = signed'.cadenaOriginal ∧
      sampleParts none = signedParts sampleSigning { sampleInvoiceRow with id := "i2" }
        [sampleItemRow] (sampleEmisorRow none) := by
  obtain ⟨accepted, accepted', separable⟩ : (sampleSigned none).isOk ∧
      (signInvoice sampleSigning { sampleInvoiceRow with id := "i2" } [sampleItemRow]
        (some (sampleEmisorRow none))).isOk ∧
      ∀ value ∈ sampleParts none, '|' ∉ value.toList := by decide +kernel
  obtain ⟨signed, signs⟩ := exists_of_isOk accepted
  obtain ⟨signed', signs'⟩ := exists_of_isOk accepted'
  obtain ⟨-, -, -, -, -, cadena, -⟩ := signInvoice_eq_ok signs
  obtain ⟨-, -, -, -, -, cadena', -⟩ := signInvoice_eq_ok signs'
  have same : signed.cadenaOriginal = signed'.cadenaOriginal := cadena.trans cadena'.symm
  exact ⟨signed, signed', signs, signs', same, signed_text_determines_values _ _ _ _ _ _ _ _ _ _
    signs signs' separable separable same⟩

end TridentPos.Billing
