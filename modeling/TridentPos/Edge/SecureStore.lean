import TridentPos.Library.Fallible
import TridentPos.Library.Utf8
import Mathlib.Algebra.Field.Rat

/-!
# Secrets of the edge host

`ElectronSafeStorageBackend` and `EdgeSecureStore` of `secure-store.ts`: a secret is encrypted as a
string by the keyring of the operating system and kept in a file of its own. Writing and renaming a
file succeed.
-/
namespace TridentPos.Edge

open Library

inductive EdgeError where
  | secureStore (message : String)
  | tlsKeyMissingOrCorrupted (message : String)
  | clockRollbackLock (message : String)
  | range (message : String)
deriving DecidableEq

def EdgeError.message : EdgeError → String
  | .secureStore message => message
  | .tlsKeyMissingOrCorrupted message => message
  | .clockRollbackLock message => message
  | .range message => message

inductive NodePlatform where
  | aix
  | android
  | cygwin
  | darwin
  | freebsd
  | haiku
  | linux
  | netbsd
  | openbsd
  | sunos
  | win32
deriving DecidableEq

/-! ### The backend -/

/-- `electron.safeStorage`. An `error` is a call that throws, and `selectedStorageBackend` is `none`
where the function is missing. What it encrypts, it decrypts. -/
structure SafeStorage where
  isEncryptionAvailable : Except String Bool
  selectedStorageBackend : Option (Except String String)
  encryptString : List Char → List UInt8
  decryptString : List UInt8 → Except String (List Char)
  decrypt_encrypt : ∀ text, decryptString (encryptString text) = .ok text

structure ElectronSafeStorageBackend where
  safeStorage : Option SafeStorage
  platform : NodePlatform

def secureLinuxStorageBackends : List String :=
  ["gnome_libsecret", "kwallet", "kwallet5", "kwallet6"]

namespace ElectronSafeStorageBackend

variable (backend : ElectronSafeStorageBackend)

def getSelectedStorageBackend : String :=
  match backend.safeStorage with
  | none => "unavailable"
  | some safeStorage =>
    match safeStorage.selectedStorageBackend with
    | some (.ok name) => if name.length > 0 then name else "unavailable"
    | some (.error _) => "unavailable"
    | none => if backend.platform = .linux then "unavailable" else "os_keyring"

def isAvailable : Bool :=
  match backend.safeStorage with
  | none => false
  | some safeStorage =>
    match safeStorage.isEncryptionAvailable with
    | .ok true =>
      if backend.platform = .linux then
        secureLinuxStorageBackends.contains backend.getSelectedStorageBackend
      else true
    | .ok false => false
    | .error _ => false

def unavailableError : EdgeError :=
  if backend.platform = .linux then
    if backend.getSelectedStorageBackend = "basic_text" then
      .secureStore
        "Insecure storage backend 'basic_text' on Linux is strictly prohibited. Failing closed."
    else
      .secureStore ("Linux safeStorage backend '" ++ backend.getSelectedStorageBackend ++
        "' is not an authorized secure OS keyring. Failing closed.")
  else .secureStore "Secure storage encryption is not available on this host"

def requireStorage : Except EdgeError SafeStorage :=
  match backend.safeStorage with
  | none => .error backend.unavailableError
  | some safeStorage =>
    if backend.isAvailable then .ok safeStorage else .error backend.unavailableError

def encrypt (plaintext : List UInt8) : Except EdgeError (List UInt8) := do
  let safeStorage ← backend.requireStorage
  return safeStorage.encryptString (Utf8.decode plaintext)

def decrypt (ciphertext : List UInt8) : Except EdgeError (List UInt8) := do
  let safeStorage ← backend.requireStorage
  match safeStorage.decryptString ciphertext with
  | .ok decrypted => return Utf8.encode decrypted
  | .error message => throw (.secureStore message)

theorem requireStorage_of_available (available : backend.isAvailable) :
    ∃ safeStorage, backend.requireStorage = .ok safeStorage := by
  cases stored : backend.safeStorage with
  | none => simp [isAvailable, stored] at available
  | some safeStorage => exact ⟨safeStorage, by simp [requireStorage, stored, available]⟩

theorem decrypt_encrypt (available : backend.isAvailable) (plaintext : List UInt8) :
    ∃ ciphertext, backend.encrypt plaintext = .ok ciphertext ∧
      backend.decrypt ciphertext = .ok (Utf8.encode (Utf8.decode plaintext)) := by
  obtain ⟨safeStorage, stored⟩ := backend.requireStorage_of_available available
  refine ⟨safeStorage.encryptString (Utf8.decode plaintext), ?_, ?_⟩
  · rw [encrypt, stored]
    rfl
  · rw [decrypt, stored, Fallible.ok_bind, safeStorage.decrypt_encrypt]
    rfl

end ElectronSafeStorageBackend

/-! ### The store -/

/-- What the host provides besides the keyring: paths, the texts of numbers, and the hexadecimal
HMAC-SHA256. -/
structure Host where
  join : String → String → String
  numberText : ℚ → String
  hmacSha256Hex : List UInt8 → String → String
  hmacSha256Hex_length : ∀ key text, (hmacSha256Hex key text).length = 64

abbrev Files := String → Option (List UInt8)

def writeFileSync (file : String) (bytes : List UInt8) (files : Files) : Files :=
  fun path => if path = file then some bytes else files path

def renameSync (oldPath newPath : String) (files : Files) : Files :=
  fun path => if path = newPath then files oldPath else if path = oldPath then none else files path

structure EdgeSecureStore where
  storageDir : String
  backend : ElectronSafeStorageBackend
  available : backend.isAvailable
  notBasicText : backend.getSelectedStorageBackend ≠ "basic_text"

namespace EdgeSecureStore

variable (host : Host) (store : EdgeSecureStore)

def targetFile (keyName : String) : String := host.join store.storageDir (keyName ++ ".enc")

/-- The ciphertext is written to a temporary file, which then takes the place of the target. -/
def storeSecret (uuid keyName : String) (secretBytes : List UInt8) (files : Files) :
    Except EdgeError Files := do
  let encrypted ← store.backend.encrypt secretBytes
  let tempFile := store.targetFile host keyName ++ "." ++ uuid ++ ".tmp"
  return renameSync tempFile (store.targetFile host keyName) (writeFileSync tempFile encrypted files)

def loadSecret (keyName : String) (files : Files) : Except EdgeError (List UInt8) :=
  match files (store.targetFile host keyName) with
  | none => .error (.tlsKeyMissingOrCorrupted ("Secret '" ++ keyName ++
      "' is missing in EdgeSecureStore at '" ++ store.targetFile host keyName ++ "'"))
  | some rawEncrypted =>
    (store.backend.decrypt rawEncrypted).mapError fun err =>
      .tlsKeyMissingOrCorrupted ("Secret '" ++ keyName ++
        "' in EdgeSecureStore is corrupted or cannot be decrypted: " ++ err.message)

def hasSecret (keyName : String) (files : Files) : Bool :=
  (files (store.targetFile host keyName)).isSome

theorem load_store (uuid keyName : String) (secretBytes : List UInt8) (files : Files) :
    ∃ files', store.storeSecret host uuid keyName secretBytes files = .ok files' ∧
      store.hasSecret host keyName files' ∧
      store.loadSecret host keyName files' = .ok (Utf8.encode (Utf8.decode secretBytes)) := by
  obtain ⟨ciphertext, encrypted, decrypted⟩ :=
    store.backend.decrypt_encrypt store.available secretBytes
  refine ⟨_, by rw [storeSecret, encrypted]; rfl, ?_, ?_⟩
  · simp [hasSecret, renameSync, writeFileSync]
  · simp [loadSecret, renameSync, writeFileSync, decrypted, Except.mapError]

def Keeps (uuid keyName : String) (secretBytes : List UInt8) (files : Files) : Prop :=
  (do store.loadSecret host keyName (← store.storeSecret host uuid keyName secretBytes files)) =
    .ok secretBytes

theorem keeps_iff (uuid keyName : String) (secretBytes : List UInt8) (files : Files) :
    store.Keeps host uuid keyName secretBytes files ↔ Utf8.WellFormed secretBytes := by
  obtain ⟨files', stored, _, loaded⟩ := store.load_store host uuid keyName secretBytes files
  rw [Keeps, stored, Fallible.ok_bind, loaded, Except.ok.injEq]
  exact Utf8.encode_decode_iff secretBytes

end EdgeSecureStore

end TridentPos.Edge
