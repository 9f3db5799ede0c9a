import Osvauld.CryptoUtils.CryptoUtils
import Osvauld.Data.Outcome

namespace Osvauld.CryptoUtils

open Osvauld.Core Data

/-! Tokens for connecting, from their making to their check. -/

structure LawfulEncodings (encodings : Encodings) : Prop where
  base64 : ∀ bytes, encodings.base64Decode (encodings.base64Encode bytes) = .ok bytes
  bs58 : ∀ bytes, encodings.bs58Decode (encodings.bs58Encode bytes) = .ok bytes

theorem toNat_charOfByte (byte : UInt8) : (Char.ofNat byte.toNat).toNat = byte.toNat := by
  have hvalid : byte.toNat.isValidChar := .inl (by have := byte.toNat_lt; omega)
  rw [Char.ofNat, dif_pos hvalid]
  rfl

theorem textBytes_bytesText (bytes : Bytes) : textBytes (bytesText bytes) = bytes := by
  rw [textBytes, bytesText, String.toList_ofList, List.map_map]
  conv_rhs => rw [← List.map_id bytes]
  refine List.map_congr_left fun byte _ => ?_
  rw [Function.comp_apply, toNat_charOfByte, UInt8.ofNat_toNat, id]

theorem lawful_plainEncodings : LawfulEncodings plainEncodings where
  base64 bytes := congrArg _ (textBytes_bytesText bytes)
  bs58 bytes := congrArg _ (textBytes_bytesText bytes)

variable (libraries : UcanLibraries)

def oneTimeLifetime : Int := 24 * 60 * 60

def oneTimeRequest (now : Int) (signingKey : Bytes) (domain userId : String) :
    UcanRequest :=
  { signingKey
    issuer := didOfKey libraries (libraries.verifyingKey signingKey)
    audience := "*", issuedAt := now, lifetimeSeconds := oneTimeLifetime
    capabilities := [connectCapability domain userId] }

def connectRequest (now : Int) (signingKey : Bytes) (domain userId : String)
    (audienceKey : Bytes) : UcanRequest :=
  { signingKey
    issuer := didOfKey libraries (libraries.verifyingKey signingKey)
    audience := didOfKey libraries audienceKey, issuedAt := now
    lifetimeSeconds := thirtyYears
    capabilities := [connectCapability domain userId, shareCapability domain userId] }

structure Verifies (request : UcanRequest) (ucan : Ucan) (token : String) : Prop where
  build : libraries.crate.build request = .ok ()
  sign : libraries.crate.sign request = .ok ucan
  encode : libraries.crate.encode ucan = .ok token
  tryFrom : libraries.crate.tryFrom token = .ok ucan
  cid : ∃ cid, libraries.crate.toCid ucan = .ok cid
  issuer : ucan.issuer = request.issuer
  audience : ucan.audience = request.audience
  capabilities : ucan.capabilities = request.capabilities
  validate : ∀ now, request.issuedAt ≤ now →
    now < request.issuedAt + request.lifetimeSeconds →
      libraries.crate.validate ucan now = .ok ()

variable {libraries} {now : Int} {signingKey : Bytes} {domain userId : String}

theorem keyFromDid_didOfKey (hencodings : LawfulEncodings libraries.encodings)
    {key : Bytes} (hkey : key ≠ []) : keyFromDid libraries (didOfKey libraries key) = .ok key := by
  have hlength : ¬ (ed25519MagicBytes ++ key).length ≤ 2 := by
    have := List.length_pos_of_ne_nil hkey
    simp [ed25519MagicBytes]
    omega
  unfold keyFromDid didOfKey
  rw [if_pos (by simp [String.toList_append])]
  simp only [String.toList_append, String.length]
  rw [List.drop_left, String.ofList_toList, hencodings.bs58]
  simp only [if_neg hlength]
  rfl

theorem verifyDidKeyMatch_didOfKey (hencodings : LawfulEncodings libraries.encodings)
    {key : Bytes} (hkey : key ≠ []) :
    verifyDidKeyMatch libraries (didOfKey libraries key)
      (libraries.encodings.base64Encode key) = .ok () := by
  simp [verifyDidKeyMatch, keyFromDid_didOfKey hencodings hkey, hencodings.base64]

theorem didOfKey_ne_star (key : Bytes) : didOfKey libraries key ≠ "*" := by
  intro heq
  have hchars := congrArg String.toList heq
  rw [didOfKey, String.toList_append] at hchars
  have hhead := congrArg List.head? hchars
  simp [didKeyPrefix] at hhead

theorem grants_self (resource ability : String) :
    Capability.grants { resource, ability } resource ability = true := by
  have hfront : resource.toList.dropLast <+: resource.toList := List.dropLast_prefix _
  unfold Capability.grants
  split <;> simp [hfront]

theorem checkCapability_connect {ucan : Ucan}
    (hcapability : connectCapability domain userId ∈ ucan.capabilities) :
    checkCapability ucan (domain ++ ":user-connect:" ++ userId) "use" = .ok () := by
  unfold checkCapability
  rw [if_pos (List.any_eq_true.mpr ⟨_, hcapability, grants_self _ _⟩)]

theorem isOneTimeConnectToken_of_connect {ucan : Ucan} (haudience : ucan.audience = "*")
    (hcapability : connectCapability domain userId ∈ ucan.capabilities) :
    isOneTimeConnectToken ucan domain = true := by
  unfold isOneTimeConnectToken
  rw [Bool.and_eq_true, List.any_eq_true]
  exact ⟨by simp [haudience], _, hcapability, by simp [connectCapability]⟩

section Validate

variable {request : UcanRequest} {ucan : Ucan} {token : String}

section

variable (hverifies : Verifies libraries request ucan token)

include hverifies

theorem Verifies.validateStructure (hsince : request.issuedAt ≤ now)
    (huntil : now < request.issuedAt + request.lifetimeSeconds) :
    validateStructure libraries now token = .ok ucan := by
  simp [CryptoUtils.validateStructure, parseToken, hverifies.tryFrom, bind, Except.bind,
    hverifies.validate now hsince huntil]

theorem Verifies.buildAndSign : buildAndSign libraries request = .ok ucan := by
  simp [CryptoUtils.buildAndSign, hverifies.build, hverifies.sign]

theorem Verifies.encodeToken : encodeToken libraries ucan = .ok token := by
  simp [CryptoUtils.encodeToken, hverifies.encode]

theorem Verifies.getUcanCid : ∃ cid, getUcanCid libraries token = .ok cid := by
  obtain ⟨cid, hcid⟩ := hverifies.cid
  have hparsed : parseToken libraries token = .ok ucan := by
    rw [parseToken, hverifies.tryFrom]
  refine ⟨cid, ?_⟩
  rw [CryptoUtils.getUcanCid, hparsed]
  simp only [bind, Except.bind, cidOf, hcid]

end

variable (hencodings : LawfulEncodings libraries.encodings)
variable (hkey : libraries.verifyingKey signingKey ≠ [])

include hencodings hkey

theorem validateConnectToken_oneTime {issuedAt : Int} {presenterUcanPub : String}
    (hverifies : Verifies libraries (oneTimeRequest libraries issuedAt signingKey domain
      userId) ucan token)
    (hsince : issuedAt ≤ now) (huntil : now < issuedAt + oneTimeLifetime) :
    validateConnectToken libraries now token presenterUcanPub
      (libraries.encodings.base64Encode (libraries.verifyingKey signingKey)) userId
        domain = .ok true := by
  have hcapability : connectCapability domain userId ∈ ucan.capabilities := by
    rw [hverifies.capabilities]
    exact List.mem_cons_self
  have hchecked := checkCapability_connect hcapability
  unfold validateConnectToken
  simp only [hverifies.validateStructure hsince huntil, bind, Except.bind,
    isOneTimeConnectToken_of_connect hverifies.audience hcapability, if_true,
    hverifies.issuer, oneTimeRequest, verifyDidKeyMatch_didOfKey hencodings hkey, hchecked]
  rfl

theorem validateConnectToken_connect {issuedAt : Int} {audienceKey : Bytes}
    (haudience : audienceKey ≠ [])
    (hverifies : Verifies libraries (connectRequest libraries issuedAt signingKey domain
      userId audienceKey) ucan token)
    (hsince : issuedAt ≤ now) (huntil : now < issuedAt + thirtyYears) :
    validateConnectToken libraries now token
      (libraries.encodings.base64Encode audienceKey)
      (libraries.encodings.base64Encode (libraries.verifyingKey signingKey)) userId
        domain = .ok true := by
  have hcapability : connectCapability domain userId ∈ ucan.capabilities := by
    rw [hverifies.capabilities]
    exact List.mem_cons_self
  have hchecked := checkCapability_connect hcapability
  have hvalid := hverifies.validateStructure hsince huntil
  have hmany : isOneTimeConnectToken ucan domain = false := by
    simp [isOneTimeConnectToken, hverifies.audience, connectRequest, didOfKey_ne_star]
  unfold validateConnectToken
  simp only [hvalid, bind, Except.bind, hmany, Bool.false_eq_true, if_false,
    validateAudience, hverifies.audience, connectRequest,
    verifyDidKeyMatch_didOfKey hencodings haudience, validateEmbeddedProofChain,
    Option.any_none, hchecked, hverifies.issuer,
    verifyDidKeyMatch_didOfKey hencodings hkey]
  rfl

end Validate

section Make

variable {libraries : Libraries} {publicKey : String} {ucan : Ucan} {token : String}

def sealedTokenKey (libraries : Libraries) (publicKey : String) (signingKey : Bytes) :
    PgpText :=
  .sealed publicKey (libraries.ucan.encodings.base64Encode signingKey)

def ucanPubKeyOf (libraries : Libraries) (signingKey : Bytes) : String :=
  libraries.ucan.encodings.base64Encode (libraries.ucan.verifyingKey signingKey)

variable (hencodings : LawfulEncodings libraries.ucan.encodings)
variable (hlength : signingKey.length = 32)

include hencodings hlength

theorem decryptUcanKey_sealed :
    decryptUcanKey libraries (some publicKey)
      (sealedTokenKey libraries publicKey signingKey) = .ok signingKey := by
  simp [decryptUcanKey, getCert, decryptTextPgp, sealedTokenKey, bind, Except.bind,
    hencodings.base64, hlength]

theorem getPublicUcanKey_sealed :
    getPublicUcanKey libraries (some publicKey)
      (sealedTokenKey libraries publicKey signingKey) =
        .ok (ucanPubKeyOf libraries signingKey) := by
  simp [getPublicUcanKey, decryptUcanKey_sealed hencodings hlength, bind, Except.bind,
    ucanPubKeyOf, pure, Except.pure]

variable (huserId : getKeyId libraries publicKey = .ok userId)

include huserId

theorem generateOneTimeUserConnectToken_sealed
    (hverifies : Verifies libraries.ucan (oneTimeRequest libraries.ucan now signingKey
      domain userId) ucan token) :
    generateOneTimeUserConnectToken libraries (some publicKey) now
      (sealedTokenKey libraries publicKey signingKey) domain =
        .ok (token, ucanPubKeyOf libraries signingKey) := by
  have hissued : generateOneTimeConnectionToken libraries.ucan now signingKey
      (domain ++ ":user-connect:" ++ userId) = .ok token := by
    have hsigned := hverifies.buildAndSign
    rw [oneTimeRequest, connectCapability, oneTimeLifetime] at hsigned
    simp only [generateOneTimeConnectionToken, hsigned, bind, Except.bind,
      hverifies.encodeToken]
  simp [generateOneTimeUserConnectToken, getCert, huserId, bind, Except.bind,
    decryptUcanKey_sealed hencodings hlength, hissued, liftUcan, Except.mapError,
    ucanPubKeyOf, pure, Except.pure]

theorem issueConnectAndShareUserToken_sealed {audienceKey : Bytes}
    (hverifies : Verifies libraries.ucan (connectRequest libraries.ucan now signingKey
      domain userId audienceKey) ucan token) :
    issueConnectAndShareUserToken libraries (some publicKey) now
      (sealedTokenKey libraries publicKey signingKey) domain
        (libraries.ucan.encodings.base64Encode audienceKey) = .ok token := by
  have hsigned := hverifies.buildAndSign
  rw [connectRequest] at hsigned
  simp [issueConnectAndShareUserToken, getCert, huserId, bind, Except.bind,
    decryptUcanKey_sealed hencodings hlength, generateDelegationAndConnectionToken,
    pubKeyB64ToDid, hencodings.base64, hsigned, hverifies.encodeToken, liftUcan,
    Except.mapError]

end Make

end Osvauld.CryptoUtils
