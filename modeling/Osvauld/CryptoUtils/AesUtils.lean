import Osvauld.CryptoUtils.KeyManagement
import Osvauld.Data.Outcome

namespace Osvauld.CryptoUtils.AesUtils

open Osvauld.Core Data Data.Call

/-! Opening what has come in as text and bytes. Here a key, a nonce and a salt are
arrays of one length, and the conversion of a slice of another length panics. -/

abbrev AesKey := { bytes : Bytes // bytes.length = 32 }

abbrev Nonce := { bytes : Bytes // bytes.length = 12 }

inductive AesError where
  | keyDerivationError (message : String)
  | cipherCreationError (message : String)
  | encryptionError (message : String)
  | decryptionError (message : String)
  | base64DecodeError (message : String)
  | utf8ConversionError (message : String)
deriving DecidableEq, Repr

inductive ResourceError where
  | noCertificateError
  | pgpError (message : String)
  | utf8Error (message : String)
  | base64Error (message : String)
  | aesError (error : AesError)
deriving DecidableEq, Repr

structure Ciphers where
  encrypt : AesKey → Nonce → Bytes → Except String Bytes
  decrypt : AesKey → Nonce → Bytes → Except String Bytes
  hashPasswordInto : (password : Bytes) → Salt → Except String AesKey

structure OpenPgp (Cert : Type) where
  DecryptKey : Type
  getDecryptionKey : Cert → Except String DecryptKey
  decryptTextPgp : DecryptKey → Bytes → Except String Bytes

def asBytes (text : String) : Bytes := text.toUTF8.data.toList

def fromUtf8 (bytes : Bytes) : Except String String :=
  match String.fromUTF8? ⟨bytes.toArray⟩ with
  | some text => .ok text
  | none => .error "invalid utf-8 sequence"

section AesUtils

variable (ciphers : Ciphers)

def encryptWithAes (nonce : Nonce) (key : AesKey) (plaintext : String) :
    Except AesError String := do
  let ciphertext ← (ciphers.encrypt key nonce (asBytes plaintext)).mapError .encryptionError
  return Base64.encode (nonce.val ++ ciphertext)

def decryptWithAes (keyBytes : Bytes) (encoded : String) : Call AesError String := do
  let key ← fromSlice 32 keyBytes
  let decoded ← liftM ((Base64.decode encoded).mapError AesError.base64DecodeError)
  if decoded.length < 12 then
    throw (.decryptionError "Invalid ciphertext")
  else
    let start ← sliceTo 12 decoded
    let nonce ← fromSlice 12 start
    let ciphertext ← sliceFrom 12 decoded
    let plaintext ← liftM ((ciphers.decrypt key nonce ciphertext).mapError
      AesError.decryptionError)
    liftM ((fromUtf8 plaintext).mapError AesError.utf8ConversionError)

def deriveKey (password : String) (salt : Salt) : Except AesError AesKey :=
  (ciphers.hashPasswordInto (asBytes password) salt).mapError .keyDerivationError

def newFromSlice (key : Bytes) : Except AesError AesKey :=
  if hlength : key.length = 32 then .ok ⟨key, hlength⟩
  else .error (.cipherCreationError "Invalid Length")

def decryptCertificateData (encryptedCertB64 saltB64 password : String) :
    Call AesError Bytes := do
  let encryptedData ← liftM ((Base64.decode encryptedCertB64).mapError
    AesError.base64DecodeError)
  let saltArray ← unwrap (getSaltArr saltB64)
  let key ← liftM (deriveKey ciphers password saltArray)
  let cipher ← liftM (newFromSlice key.val)
  let start ← sliceTo 12 saltArray.val
  let nonce ← fromSlice 12 start
  liftM ((ciphers.decrypt cipher nonce encryptedData).mapError AesError.decryptionError)

end AesUtils

section CryptoUtils

variable {Cert : Type} (ciphers : Ciphers) (pgp : OpenPgp Cert) (cert : Option Cert)

def getCert : Except ResourceError Cert :=
  match cert with
  | some cert => .ok cert
  | none => .error .noCertificateError

def decryptAesKey (encryptedKey : String) : Except ResourceError Bytes := do
  let cert ← getCert cert
  let decryptKey ← (pgp.getDecryptionKey cert).mapError .pgpError
  let decryptedKey ← (pgp.decryptTextPgp decryptKey (asBytes encryptedKey)).mapError .pgpError
  let utf8Key ← (fromUtf8 decryptedKey).mapError .utf8Error
  (Base64.decode utf8Key).mapError .base64Error

def decryptResource (data encryptedKey : String) : Call ResourceError String := do
  let keyBytes ← liftM (decryptAesKey pgp cert encryptedKey)
  ExceptT.adapt ResourceError.aesError (decryptWithAes ciphers keyBytes data)

def updateResource (nonce : Nonce) (data encryptedKey : String) :
    Call ResourceError String := do
  let keyBytes ← liftM (decryptAesKey pgp cert encryptedKey)
  let aesKey ← fromSlice 32 keyBytes
  liftM ((encryptWithAes ciphers nonce aesKey data).mapError ResourceError.aesError)

end CryptoUtils

def decryptEncoded (ciphers : Ciphers) (ciphertext encodedKey : String) :
    Call ResourceError String := do
  let keyBytes ← liftM ((Base64.decode encodedKey).mapError ResourceError.base64Error)
  ExceptT.adapt ResourceError.aesError (decryptWithAes ciphers keyBytes ciphertext)

inductive Carries {Cert : Type} (pgp : OpenPgp Cert) (cert : Option Cert)
    (encryptedKey : String) (keyBytes : Bytes) : Prop
  | opened {owner : Cert} {decryptKey : pgp.DecryptKey} {plain : Bytes} {text : String} :
      cert = some owner → pgp.getDecryptionKey owner = .ok decryptKey →
      pgp.decryptTextPgp decryptKey (asBytes encryptedKey) = .ok plain →
      fromUtf8 plain = .ok text → Base64.decode text = .ok keyBytes →
      Carries pgp cert encryptedKey keyBytes

def IsSalt (saltB64 : String) : Prop :=
  ∃ salt, Base64.decode saltB64 = .ok salt ∧ salt.length = 16

section Returns

variable {Cert : Type} {ciphers : Ciphers} {pgp : OpenPgp Cert} {cert : Option Cert}

variable {encryptedKey : String}

theorem decryptAesKey_eq_ok {keyBytes : Bytes} :
    decryptAesKey pgp cert encryptedKey = .ok keyBytes ↔
      Carries pgp cert encryptedKey keyBytes := by
  unfold decryptAesKey
  constructor
  · intro hkey
    obtain ⟨owner, howner, hkey⟩ := bind_eq_ok.mp hkey
    obtain ⟨decryptKey, hdecryptKey, hkey⟩ := bind_eq_ok.mp hkey
    obtain ⟨plain, hplain, hkey⟩ := bind_eq_ok.mp hkey
    obtain ⟨text, htext, hkey⟩ := bind_eq_ok.mp hkey
    have hloaded : cert = some owner := by
      cases cert with
      | none => cases howner
      | some loaded =>
          cases howner
          rfl
    exact .opened hloaded (mapError_eq_ok.mp hdecryptKey) (mapError_eq_ok.mp hplain)
      (mapError_eq_ok.mp htext) (mapError_eq_ok.mp hkey)
  · rintro ⟨rfl, hdecryptKey, hplain, htext, hkey⟩
    simp [getCert, hdecryptKey, hplain, htext, hkey, bind, Except.bind, Except.mapError]

theorem getSaltArr_eq_ok {saltB64 : String} :
    (∃ salt, getSaltArr saltB64 = .ok salt) ↔ IsSalt saltB64 := by
  unfold getSaltArr IsSalt
  cases Base64.decode saltB64 with
  | error message => simp
  | ok bytes =>
      by_cases hlength : bytes.length = 16
      · simp [hlength]
      · simp [hlength]

theorem returns_adapt {ε ε' α : Type} {translate : ε → ε'} {call : Call ε α} :
    Returns (ExceptT.adapt translate call) ↔ Returns call := by
  rcases call with _ | _ | value <;> exact Iff.rfl

theorem returns_decryptWithAes {keyBytes : Bytes} {encoded : String} :
    Returns (decryptWithAes ciphers keyBytes encoded) ↔ keyBytes.length = 32 := by
  unfold decryptWithAes
  rw [returns_fromSlice_bind]
  constructor
  · rintro ⟨hlength, -⟩
    exact hlength
  · intro hlength
    refine ⟨hlength, returns_lift_bind.mpr fun decoded _ => ?_⟩
    split
    · exact returns_throw _
    · next hlong =>
        have hstart : 12 ≤ decoded.length := by omega
        apply returns_sliceTo_bind.mpr
        refine ⟨hstart, returns_fromSlice_bind.mpr ⟨?_, ?_⟩⟩
        · rw [List.length_take]
          omega
        · apply returns_sliceFrom_bind.mpr
          exact ⟨hstart, returns_lift_bind.mpr fun plaintext _ => returns_lift _⟩

theorem returns_decryptCertificateData {encryptedCertB64 saltB64 password : String} :
    Returns (decryptCertificateData ciphers encryptedCertB64 saltB64 password) ↔
      ((∃ data, Base64.decode encryptedCertB64 = .ok data) → IsSalt saltB64) := by
  unfold decryptCertificateData
  rw [returns_lift_bind, ← getSaltArr_eq_ok]
  constructor
  · rintro hreturns ⟨data, hdata⟩
    obtain ⟨salt, hsalt, -⟩ :=
      returns_unwrap_bind.mp (hreturns data (mapError_eq_ok.mpr hdata))
    exact ⟨salt, hsalt⟩
  · intro hsound data hdata
    obtain ⟨salt, hsalt⟩ := hsound ⟨data, mapError_eq_ok.mp hdata⟩
    apply returns_unwrap_bind.mpr
    refine ⟨salt, hsalt, returns_lift_bind.mpr fun key _ => ?_⟩
    apply returns_lift_bind.mpr
    intro cipher _
    have hsaltLength := salt.property
    apply returns_sliceTo_bind.mpr
    refine ⟨by omega, returns_fromSlice_bind.mpr ⟨?_, returns_lift _⟩⟩
    rw [List.length_take]
    omega

theorem returns_decryptResource {data : String} :
    Returns (decryptResource ciphers pgp cert data encryptedKey) ↔
      ∀ keyBytes, Carries pgp cert encryptedKey keyBytes → keyBytes.length = 32 := by
  unfold decryptResource
  rw [returns_lift_bind]
  apply forall_congr'
  intro keyBytes
  rw [decryptAesKey_eq_ok, returns_adapt, returns_decryptWithAes]

theorem returns_updateResource {nonce : Nonce} {data : String} :
    Returns (updateResource ciphers pgp cert nonce data encryptedKey) ↔
      ∀ keyBytes, Carries pgp cert encryptedKey keyBytes → keyBytes.length = 32 := by
  unfold updateResource
  rw [returns_lift_bind]
  apply forall_congr'
  intro keyBytes
  rw [decryptAesKey_eq_ok, returns_fromSlice_bind]
  simp

theorem returns_decryptEncoded {ciphertext encodedKey : String} :
    Returns (decryptEncoded ciphers ciphertext encodedKey) ↔
      ∀ keyBytes, Base64.decode encodedKey = .ok keyBytes → keyBytes.length = 32 := by
  unfold decryptEncoded
  rw [returns_lift_bind]
  apply forall_congr'
  intro keyBytes
  rw [mapError_eq_ok, returns_adapt, returns_decryptWithAes]

end Returns

/-- A call returns, with a value or with an error, exactly when the lengths it takes
for granted are right. -/
theorem calls_return_iff {Cert : Type} (ciphers : Ciphers) (pgp : OpenPgp Cert)
    (cert : Option Cert) :
    (∀ data encryptedKey,
      Returns (decryptResource ciphers pgp cert data encryptedKey) ↔
        ∀ keyBytes, Carries pgp cert encryptedKey keyBytes → keyBytes.length = 32) ∧
    (∀ nonce data encryptedKey,
      Returns (updateResource ciphers pgp cert nonce data encryptedKey) ↔
        ∀ keyBytes, Carries pgp cert encryptedKey keyBytes → keyBytes.length = 32) ∧
    (∀ keyBytes encoded,
      Returns (decryptWithAes ciphers keyBytes encoded) ↔ keyBytes.length = 32) ∧
    (∀ ciphertext encodedKey,
      Returns (decryptEncoded ciphers ciphertext encodedKey) ↔
        ∀ keyBytes, Base64.decode encodedKey = .ok keyBytes → keyBytes.length = 32) ∧
    ∀ encryptedCertB64 saltB64 password,
      Returns (decryptCertificateData ciphers encryptedCertB64 saltB64 password) ↔
        ((∃ data, Base64.decode encryptedCertB64 = .ok data) → IsSalt saltB64) :=
  ⟨fun _ _ => returns_decryptResource, fun _ _ _ => returns_updateResource,
    fun _ _ => returns_decryptWithAes, fun _ _ => returns_decryptEncoded,
    fun _ _ _ => returns_decryptCertificateData⟩

def Ciphers.plain : Ciphers where
  encrypt _ _ plaintext := .ok plaintext
  decrypt _ _ ciphertext := .ok ciphertext
  hashPasswordInto _ _ := .ok ⟨List.replicate 32 0, List.length_replicate⟩

def OpenPgp.plain : OpenPgp Unit where
  DecryptKey := Unit
  getDecryptionKey _ := .ok ()
  decryptTextPgp _ ciphertext := .ok ciphertext

theorem carries_threeBytes : Carries OpenPgp.plain (some ()) "AAAA" [0, 0, 0] :=
  .opened rfl rfl rfl (show fromUtf8 (asBytes "AAAA") = .ok "AAAA" by decide +kernel)
    (by decide +kernel)

theorem calls_panic :
    ¬ Returns (decryptResource .plain OpenPgp.plain (some ()) "" "AAAA") ∧
    ¬ Returns (updateResource .plain OpenPgp.plain (some ())
      ⟨List.replicate 12 0, List.length_replicate⟩ "" "AAAA") ∧
    ¬ Returns (decryptWithAes .plain [0, 0, 0] "") ∧
    ¬ Returns (decryptEncoded .plain "" "AAAA") ∧
    ¬ Returns (decryptCertificateData .plain "AAAA" "AAAA" "secret") := by
  have hdecode : Base64.decode "AAAA" = .ok [0, 0, 0] := by decide +kernel
  refine ⟨fun hreturns => ?_, fun hreturns => ?_, fun hreturns => ?_, fun hreturns => ?_,
    fun hreturns => ?_⟩
  · exact absurd (returns_decryptResource.mp hreturns _ carries_threeBytes) (by decide)
  · exact absurd (returns_updateResource.mp hreturns _ carries_threeBytes) (by decide)
  · exact absurd (returns_decryptWithAes.mp hreturns) (by decide)
  · exact absurd (returns_decryptEncoded.mp hreturns _ hdecode) (by decide)
  · obtain ⟨salt, hsalt, hlength⟩ :=
      returns_decryptCertificateData.mp hreturns ⟨_, hdecode⟩
    cases hdecode.symm.trans hsalt
    exact absurd hlength (by decide)

end Osvauld.CryptoUtils.AesUtils
