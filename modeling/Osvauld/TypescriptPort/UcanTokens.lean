import Osvauld.TypescriptPort.Sharing

namespace Osvauld.TypescriptPort

open Osvauld.Core Data

/-! What is read of a token that has been made. -/

structure DecodedUcan where
  header : UcanHeader
  payload : UcanPayload
  signature : String
deriving DecidableEq

section Tokens

variable (libraries : TokenLibraries)

/-- What is thrown is caught, and nothing is returned. -/
def decodeUCAN (token : String) : Option DecodedUcan :=
  match (token.toList.splitOn '.').map String.ofList with
  | [headerEncoded, payloadEncoded, signatureEncoded] =>
      if headerEncoded = "" ∨ payloadEncoded = "" ∨ signatureEncoded = "" then none
      else
        let decoded : Except String DecodedUcan := do
          let header ← base64urlDecode headerEncoded >>= fun bytes =>
            libraries.parseHeader (libraries.decodeText bytes)
          let payload ← base64urlDecode payloadEncoded >>= fun bytes =>
            libraries.parsePayload (libraries.decodeText bytes)
          return { header, payload, signature := signatureEncoded }
        decoded.toOption
  | _ => none

def ucanHeader : UcanHeader := { alg := "EdDSA", typ := "JWT" }

def ucanPayload (now : Int) (issuerPublicKey audiencePublicKey : Bytes)
    (attestations : List Attestation) (options : UcanOptions) : UcanPayload :=
  let exp :=
    match options.expiresIn.filter fun expiresIn => expiresIn ≠ 0 with
    | some expiresIn => now + expiresIn
    | none => now + 24 * 60 * 60 * 1000
  { iss := base64urlEncode issuerPublicKey
    aud := base64urlEncode audiencePublicKey
    exp := (exp / 1000 : Int)
    nbf := options.notBefore.map fun notBefore => ((notBefore / 1000 : Int) : ℚ)
    att := attestations
    prf := options.proofs }

def headerBytes : Bytes := encodeText (libraries.stringifyHeader ucanHeader)

def payloadBytes (payload : UcanPayload) : Bytes :=
  encodeText (libraries.stringifyPayload payload)

def signingInput (payload : UcanPayload) : String :=
  base64urlEncode (headerBytes libraries) ++ "." ++
    base64urlEncode (payloadBytes libraries payload)

def signatureOf (issuerPrivateKey : Bytes) (payload : UcanPayload) : Bytes :=
  libraries.sign (encodeText (signingInput libraries payload)) issuerPrivateKey

/-- What a token takes from the libraries: texts, the two objects and signatures are read
back. A text that begins an object has no byte order mark. -/
structure TokenLaws (issuerPrivateKey issuerPublicKey : Bytes) (payload : UcanPayload) :
    Prop where
  decodeText : ∀ text : String, text.toList.head? = some '\x7b' →
    libraries.decodeText (encodeText text) = text
  headerObject : (libraries.stringifyHeader ucanHeader).toList.head? = some '\x7b'
  payloadObject : (libraries.stringifyPayload payload).toList.head? = some '\x7b'
  parseHeader : libraries.parseHeader (libraries.stringifyHeader ucanHeader) = .ok ucanHeader
  parsePayload : libraries.parsePayload (libraries.stringifyPayload payload) = .ok payload
  verifies : libraries.verify (signatureOf libraries issuerPrivateKey payload)
    (encodeText (signingInput libraries payload)) issuerPublicKey = true
  signed : signatureOf libraries issuerPrivateKey payload ≠ []

end Tokens

def ValidAt (payload : UcanPayload) (now : Nat) : Prop :=
  (now : ℚ) ≤ payload.exp ∧ ∀ nbf, payload.nbf = some nbf → nbf ≤ now

section RoundTrip

variable {libraries : TokenLibraries} {issuerPrivateKey issuerPublicKey : Bytes}
  {payload : UcanPayload}

theorem createUCAN_eq (now : Int) (audiencePublicKey : Bytes) (attestations : List Attestation)
    (options : UcanOptions) :
    createUCAN libraries now issuerPrivateKey issuerPublicKey audiencePublicKey attestations
        options =
      let payload := ucanPayload now issuerPublicKey audiencePublicKey attestations options
      signingInput libraries payload ++ "." ++
        base64urlEncode (signatureOf libraries issuerPrivateKey payload) := rfl

theorem encodeObject_ne_nil {text : String} (htext : text.toList.head? = some '\x7b') :
    encodeText text ≠ [] := by
  apply encodeText_ne_nil
  rintro rfl
  cases htext

variable (laws : TokenLaws libraries issuerPrivateKey issuerPublicKey payload)

include laws

theorem TokenLaws.readHeader :
    libraries.parseHeader (libraries.decodeText (headerBytes libraries)) = .ok ucanHeader := by
  rw [headerBytes, laws.decodeText _ laws.headerObject, laws.parseHeader]

theorem TokenLaws.readPayload :
    libraries.parsePayload (libraries.decodeText (payloadBytes libraries payload)) =
      .ok payload := by
  rw [payloadBytes, laws.decodeText _ laws.payloadObject, laws.parsePayload]

theorem TokenLaws.nonempty : headerBytes libraries ≠ [] ∧ payloadBytes libraries payload ≠ [] ∧
    signatureOf libraries issuerPrivateKey payload ≠ [] :=
  ⟨encodeObject_ne_nil laws.headerObject, encodeObject_ne_nil laws.payloadObject, laws.signed⟩

theorem TokenLaws.parts : ¬ (base64urlEncode (headerBytes libraries) = "" ∨
    base64urlEncode (payloadBytes libraries payload) = "" ∨
    base64urlEncode (signatureOf libraries issuerPrivateKey payload) = "") := by
  obtain ⟨hheader, hpayload, hsignature⟩ := laws.nonempty
  simp [base64urlEncode_ne_empty hheader, base64urlEncode_ne_empty hpayload,
    base64urlEncode_ne_empty hsignature]

theorem decodeUCAN_signed :
    decodeUCAN libraries (signingInput libraries payload ++ "." ++
      base64urlEncode (signatureOf libraries issuerPrivateKey payload)) =
        some { header := ucanHeader, payload
               signature := base64urlEncode
                 (signatureOf libraries issuerPrivateKey payload) } := by
  rw [decodeUCAN, signingInput, splitOn_token]
  simp only [if_neg laws.parts, base64urlDecode_encode, bind, Except.bind, laws.readHeader,
    laws.readPayload]
  rfl

theorem verifyUCAN_signed_iff (hissuer : payload.iss = base64urlEncode issuerPublicKey)
    (now : Nat) :
    verifyUCAN libraries now (signingInput libraries payload ++ "." ++
        base64urlEncode (signatureOf libraries issuerPrivateKey payload)) = .ok payload ↔
      ValidAt payload now := by
  have hearly : (payload.nbf.any fun nbf => (now : ℚ) < nbf) = true ↔
      ¬ ∀ nbf, payload.nbf = some nbf → nbf ≤ now := by
    cases payload.nbf with
    | none => simp
    | some nbf =>
        simp only [Option.any_some, decide_eq_true_eq, Option.some.injEq, forall_eq',
          Rat.not_le]
  have hkey : base64urlDecode payload.iss = .ok issuerPublicKey := by
    rw [hissuer, base64urlDecode_encode]
  constructor
  · intro haccepted
    rw [verifyUCAN, signingInput, splitOn_token] at haccepted
    simp only [if_neg laws.parts, base64urlDecode_encode, bind, Except.bind, laws.readHeader,
      laws.readPayload] at haccepted
    rw [if_neg (by simp [ucanHeader])] at haccepted
    by_cases hexpired : payload.exp < now
    · rw [if_pos hexpired] at haccepted
      cases haccepted
    · rw [if_neg hexpired] at haccepted
      refine ⟨Rat.not_lt.mp hexpired, ?_⟩
      by_contra hnbf
      rw [if_pos (hearly.mpr hnbf)] at haccepted
      cases haccepted
  · rintro ⟨hexpired, hnbf⟩
    exact verifyUCAN_signed libraries laws.nonempty laws.readHeader laws.readPayload rfl
      (Rat.not_lt.mpr hexpired) (fun hany => hearly.mp hany hnbf) hkey laws.verifies

end RoundTrip

namespace ReadGrant

def attestation : Attestation :=
  { resource := { type := .document, id := some "doc-1" }, capabilities := [.read] }

def options : UcanOptions :=
  { expiresIn := some 3600000, notBefore := none, proofs := [] }

def headerText : String :=
  "\x7b\"alg\":\"EdDSA\",\"typ\":\"JWT\"\x7d"

def payloadText : String :=
  "\x7b\"iss\":\"AQI\",\"aud\":\"Aw\",\"exp\":1700003600,\"att\":[\x7b\"resource\":\x7b" ++
    "\"type\":\"document\",\"id\":\"doc-1\"\x7d,\"capabilities\":[\"read\"]\x7d]\x7d"

def payload : UcanPayload := ucanPayload 1700000000000 [1, 2] [3] [attestation] options

def libraries : TokenLibraries :=
  { plainCrypto with
    stringifyHeader := fun _ => headerText
    stringifyPayload := fun _ => payloadText
    parseHeader := fun text => if text = headerText then .ok ucanHeader else .error "no header"
    parsePayload := fun text => if text = payloadText then .ok payload else .error "no payload" }

theorem laws : TokenLaws libraries [1, 2] [1, 2] payload where
  decodeText text _ := decodeText_encodeText text
  headerObject := by decide +kernel
  payloadObject := by decide +kernel
  parseHeader := by simp [libraries]
  parsePayload := by simp [libraries]
  verifies := by simp [libraries, plainCrypto, signatureOf]
  signed := by
    apply encodeText_ne_nil
    simp [signingInput]

end ReadGrant

end Osvauld.TypescriptPort
