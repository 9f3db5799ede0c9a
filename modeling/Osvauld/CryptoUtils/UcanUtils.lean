import Osvauld.Core.Json

namespace Osvauld.CryptoUtils

open Osvauld.Core

structure Capability where
  resource : String
  ability : String
deriving DecidableEq, Repr

structure Ucan where
  issuer : String
  audience : String
  capabilities : List Capability
  proofs : Option (List String) := none
  facts : Option (List (String × Value)) := none
  expiresAt : Option Int := none
  signedData : String := ""
  signature : Bytes := []

structure UcanRequest where
  signingKey : Bytes
  issuer : String
  audience : String
  issuedAt : Int
  lifetimeSeconds : Int
  capabilities : List Capability
  witnessedBy : Option Ucan := none
  facts : List (String × Value) := []

structure UcanCrate where
  tryFrom : String → Except String Ucan
  /-- Signature by the issuer's key, not before and not after. -/
  validate : Ucan → Int → Except String Unit
  toCid : Ucan → Except String String
  /-- The checks of the builder before there is anything to sign. -/
  build : UcanRequest → Except String Unit
  sign : UcanRequest → Except String Ucan
  encode : Ucan → Except String String

structure Encodings where
  bs58Decode : String → Except String Bytes
  bs58Encode : Bytes → String
  base64Decode : String → Except String Bytes
  base64Encode : Bytes → String

inductive UcanError where
  | creationError (message : String)
  | signatureError (message : String)
  | encodingError (message : String)
  | decodingError (message : String)
  | formatError (message : String)
  | didError (message : String)
  | keyExtractionError (message : String)
  | parseError (message : String)
  | validationError (message : String)
  | invalidAudience
  | publicKeyMismatch
  | capabilityNotFound
  | proofRequired
  | proofChainInvalid (message : String)
  | ucanCidConvertionFailed (message : String)
  | delegationNotPermitted
  | invalidIssuer
deriving DecidableEq, Repr

/-- The libraries under the token code. `verifyingKey` is the public half of a
signing key. -/
structure UcanLibraries where
  crate : UcanCrate
  encodings : Encodings
  verifyingKey : Bytes → Bytes

/-! Libraries over a fixed table of valid tokens, for concrete inputs. A text
stands for the bytes of its characters. -/

def textBytes (text : String) : Bytes :=
  text.toList.map fun char => UInt8.ofNat char.toNat

def bytesText (bytes : Bytes) : String :=
  String.ofList (bytes.map fun byte => Char.ofNat byte.toNat)

def plainEncodings : Encodings :=
  { bs58Decode := fun text => .ok (textBytes text)
    bs58Encode := bytesText
    base64Decode := fun text => .ok (textBytes text)
    base64Encode := bytesText }

/-- Every token of the table is valid; the text of a token is also its CID, and
no new token can be made. -/
def tabledCrate (tokens : List (String × Ucan)) : UcanCrate :=
  { tryFrom := fun text =>
      match tokens.find? fun entry => entry.1 = text with
      | some entry => .ok entry.2
      | none => .error "not a token"
    validate := fun _ _ => .ok ()
    toCid := fun ucan => .ok ucan.signedData
    build := fun _ => .error "no key"
    sign := fun _ => .error "no key"
    encode := fun ucan => .ok ucan.signedData }

def tabledLibraries (tokens : List (String × Ucan)) : UcanLibraries :=
  { crate := tabledCrate tokens
    encodings := plainEncodings
    verifyingKey := id }

variable (libraries : UcanLibraries)

def cidOf (ucan : Ucan) : Except UcanError String :=
  match libraries.crate.toCid ucan with
  | .error message => .error (.ucanCidConvertionFailed message)
  | .ok cid => .ok cid

def parseToken (token : String) : Except UcanError Ucan :=
  match libraries.crate.tryFrom token with
  | .error message => .error (.parseError message)
  | .ok ucan => .ok ucan

def validateStructure (now : Int) (token : String) : Except UcanError Ucan := do
  let ucan ← parseToken libraries token
  match libraries.crate.validate ucan now with
  | .error message => .error (.validationError message)
  | .ok () => .ok ucan

def getUcanCid (token : String) : Except UcanError String := do
  let ucan ← parseToken libraries token
  cidOf libraries ucan

def didKeyPrefix : String := "did:key:z"

def keyFromDid (did : String) : Except UcanError Bytes :=
  if didKeyPrefix.toList.isPrefixOf did.toList then
    match libraries.encodings.bs58Decode
        (String.ofList (did.toList.drop didKeyPrefix.length)) with
    | .error message => .error (.didError message)
    | .ok decoded =>
        if decoded.length ≤ 2 then .error (.formatError "DID is too short")
        else .ok (decoded.drop 2)
  else .error (.formatError "Unsupported DID method")

def verifyDidKeyMatch (did keyB64 : String) : Except UcanError Unit :=
  match keyFromDid libraries did with
  | .error error => .error error
  | .ok keyFromDid =>
      match libraries.encodings.base64Decode keyB64 with
      | .error message => .error (.decodingError message)
      | .ok keyFromB64 =>
          if keyFromDid ≠ keyFromB64 then .error .publicKeyMismatch else .ok ()

def validateAudience (ucan : Ucan) (presenterUcanPub : String) :
    Except UcanError Unit :=
  match verifyDidKeyMatch libraries ucan.audience presenterUcanPub with
  | .error .publicKeyMismatch => .error .invalidAudience
  | other => other

def Capability.grants (capability : Capability)
    (requiredResource requiredAbility : String) : Bool :=
  capability.ability == requiredAbility &&
    if capability.resource.toList.getLast? = some '*' then
      capability.resource.toList.dropLast.isPrefixOf requiredResource.toList
    else capability.resource == requiredResource

def checkCapability (ucan : Ucan) (requiredResource requiredAbility : String) :
    Except UcanError Unit :=
  if ucan.capabilities.any fun capability =>
      capability.grants requiredResource requiredAbility then .ok ()
  else .error .capabilityNotFound

def isOneTimeConnectToken (ucan : Ucan) (domain : String) : Bool :=
  ucan.audience == "*" &&
    ucan.capabilities.any fun capability =>
      (domain ++ ":user-connect").toList.isPrefixOf capability.resource.toList &&
        capability.ability == "use"

def beforeFirst (pattern : List Char) : List Char → Option (List Char)
  | [] => if pattern = [] then some [] else none
  | char :: rest =>
      if pattern.isPrefixOf (char :: rest) then some []
      else (beforeFirst pattern rest).map fun front => char :: front

def extractDomainFromUcan (ucan : Ucan) (resourceType : String) :
    Except UcanError String :=
  let domains := ucan.capabilities.filterMap fun capability =>
    match beforeFirst (":" ++ resourceType).toList capability.resource.toList with
    | some (char :: front) => some (String.ofList (char :: front))
    | _ => none
  match domains with
  | domain :: _ => .ok domain
  | [] => .error .capabilityNotFound

section Permission

variable (now : Int) (proofResolver : String → Except UcanError String)
variable (verifierUcanPub requiredResource requiredAbility : String)

/-- The parent a proof stands for, unless the loop skips it. -/
def resolveParent (ucan : Ucan) (proofCid : String) : Option Ucan :=
  match proofResolver proofCid with
  | .error _ => none
  | .ok parentToken =>
      match validateStructure libraries now parentToken with
      | .error _ => none
      | .ok parent => if parent.audience ≠ ucan.issuer then none else some parent

/-- The loop over the proofs of a token; `validateParent` is the recursive call. -/
def tryProofs (validateParent : Ucan → Option (Except UcanError Unit))
    (ucan : Ucan) : List String → Option (Except UcanError Unit)
  | [] => some (.error (.proofChainInvalid
      "No valid proof chain leads back to the verifier."))
  | proofCid :: rest =>
      match resolveParent libraries now proofResolver ucan proofCid with
      | none => tryProofs validateParent ucan rest
      | some parent =>
          match checkCapability parent requiredResource requiredAbility with
          | .error _ => some (.error .delegationNotPermitted)
          | .ok () =>
              match validateParent parent with
              | none => none
              | some (.ok ()) => some (.ok ())
              | some (.error _) => tryProofs validateParent ucan rest

/-- The recursion follows stored proofs, whose CID column nothing ties to the
token beside it, so it need not end: `fuel` bounds its depth and `none` is a
call that has not returned. -/
def validateUcanPermission : Nat → Ucan → Option (Except UcanError Unit)
  | 0, _ => none
  | fuel + 1, ucan =>
      match verifyDidKeyMatch libraries ucan.issuer verifierUcanPub with
      | .ok () => some (.ok ())
      | .error .publicKeyMismatch =>
          match ucan.proofs with
          | none => some (.error .proofRequired)
          | some [] => some (.error .proofRequired)
          | some proofs =>
              tryProofs libraries now proofResolver requiredResource
                requiredAbility (validateUcanPermission fuel) ucan proofs
      | .error error => some (.error error)

end Permission

def embeddedProof? (ucan : Ucan) : Option String :=
  match ucan.facts with
  | none => none
  | some facts =>
      match Value.get (.object facts) "proof" with
      | some (.string proof) => some proof
      | _ => none

/-- Each embedded token lies inside the text of the one before it, so `fuel` is
no restriction beyond the length of that text. -/
def validateEmbeddedProofChain (now : Int)
    (targetUserId targetUserUcanPub domain : String) :
    Nat → String → Option String → Except UcanError Unit
  | 0, _, _ => .error (.proofChainInvalid "Chain doesn't reach root")
  | fuel + 1, proofToken, expectedIssuerDid => do
      let proofUcan ← validateStructure libraries now proofToken
      if expectedIssuerDid.any fun expected => proofUcan.audience ≠ expected then
        throw .invalidIssuer
      checkCapability proofUcan (domain ++ ":user-connect:" ++ targetUserId) "use"
      if (verifyDidKeyMatch libraries proofUcan.issuer targetUserUcanPub).isOk then
        return ()
      match embeddedProof? proofUcan with
      | none => throw (.proofChainInvalid "Chain doesn't reach root")
      | some nestedProof =>
          let nestedProofCid ← getUcanCid libraries nestedProof
          if proofUcan.proofs.any fun cids => nestedProofCid ∉ cids then
            throw (.proofChainInvalid "CID mismatch")
          validateEmbeddedProofChain now targetUserId targetUserUcanPub domain
            fuel nestedProof (some proofUcan.issuer)

def ed25519MagicBytes : Bytes := [0xed, 0x01]

def didOfKey (key : Bytes) : String :=
  didKeyPrefix ++ libraries.encodings.bs58Encode (ed25519MagicBytes ++ key)

def pubKeyB64ToDid (keyB64 : String) : Except UcanError String :=
  match libraries.encodings.base64Decode keyB64 with
  | .error message => .error (.decodingError message)
  | .ok key => .ok (didOfKey libraries key)

def thirtyYears : Int := 30 * 365 * 24 * 60 * 60

def buildAndSign (request : UcanRequest) : Except UcanError Ucan :=
  match libraries.crate.build request with
  | .error message => .error (.creationError message)
  | .ok () =>
      match libraries.crate.sign request with
      | .error message => .error (.signatureError message)
      | .ok ucan => .ok ucan

def encodeToken (ucan : Ucan) : Except UcanError String :=
  match libraries.crate.encode ucan with
  | .error message => .error (.encodingError message)
  | .ok token => .ok token

def generateOwnerUcan (now : Int) (signingKey : Bytes) (uri : String)
    (abilities : List String) : Except UcanError (String × String) := do
  let ownerDid := didOfKey libraries (libraries.verifyingKey signingKey)
  let ucan ← buildAndSign libraries
    { signingKey, issuer := ownerDid, audience := ownerDid, issuedAt := now
      lifetimeSeconds := thirtyYears
      capabilities := abilities.map fun ability => { resource := uri, ability } }
  let cid ← cidOf libraries ucan
  let token ← encodeToken libraries ucan
  return (token, cid)

def generateResourceOwnerUcan (now : Int) (signingKey : Bytes)
    (resourceId capabilityPrefix : String) : Except UcanError (String × String) :=
  generateOwnerUcan libraries now signingKey
    (capabilityPrefix ++ ":resource:" ++ resourceId)
    ["crud/read", "crud/update", "crud/delete", "ucan/share"]

def generateFolderOwnerUcan (now : Int) (signingKey : Bytes)
    (folderId capabilityPrefix : String) : Except UcanError (String × String) :=
  generateOwnerUcan libraries now signingKey
    (capabilityPrefix ++ ":folder:" ++ folderId)
    ["crud/read", "crud/update", "crud/delete", "add_resources", "share_folder"]

def generateDelegatedUcan (now : Int) (signingKey : Bytes)
    (recipientUcanPubKey : String) (permissions : List (String × String))
    (proofUcan : String) : Except UcanError (String × String) := do
  let authorityUcan ← parseToken libraries proofUcan
  let recipientDid ← pubKeyB64ToDid libraries recipientUcanPubKey
  let ucan ← buildAndSign libraries
    { signingKey
      issuer := didOfKey libraries (libraries.verifyingKey signingKey)
      audience := recipientDid, issuedAt := now, lifetimeSeconds := thirtyYears
      capabilities := permissions.map fun (resource, ability) =>
        { resource, ability }
      witnessedBy := some authorityUcan }
  let token ← encodeToken libraries ucan
  let cid ← cidOf libraries ucan
  return (token, cid)

def connectCapability (domain userId : String) : Capability :=
  { resource := domain ++ ":user-connect:" ++ userId, ability := "use" }

def shareCapability (domain userId : String) : Capability :=
  { resource := domain ++ ":user-share:" ++ userId, ability := "use" }

def generateOneTimeConnectionToken (now : Int) (signingKey : Bytes)
    (capabilityStr : String) : Except UcanError String :=
  let issued := do
    let ucan ← buildAndSign libraries
      { signingKey
        issuer := didOfKey libraries (libraries.verifyingKey signingKey)
        audience := "*", issuedAt := now, lifetimeSeconds := 24 * 60 * 60
        capabilities := [{ resource := capabilityStr, ability := "use" }] }
    encodeToken libraries ucan
  -- Every failure is reported as one of key extraction here.
  match issued with
  | .error (.creationError message) =>
      .error (.keyExtractionError ("UCAN build error: " ++ message))
  | .error (.signatureError message) =>
      .error (.keyExtractionError ("UCAN signing error: " ++ message))
  | .error (.encodingError message) =>
      .error (.keyExtractionError ("UCAN encoding error: " ++ message))
  | other => other

def generateDelegationAndConnectionToken (now : Int) (signingKey : Bytes)
    (issuerUserId audienceUcanPubKey domain : String) (lifetimeSeconds : Int) :
    Except UcanError String := do
  let audienceDid ← pubKeyB64ToDid libraries audienceUcanPubKey
  let ucan ← buildAndSign libraries
    { signingKey
      issuer := didOfKey libraries (libraries.verifyingKey signingKey)
      audience := audienceDid, issuedAt := now, lifetimeSeconds
      capabilities :=
        [connectCapability domain issuerUserId,
          shareCapability domain issuerUserId] }
  encodeToken libraries ucan

def generateDelegatedUserConnectionToken (now : Int) (signingKey : Bytes)
    (targetUserId audienceUcanPubKey domain parentToken : String) :
    Except UcanError String := do
  let audienceDid ← pubKeyB64ToDid libraries audienceUcanPubKey
  let parentUcan ← parseToken libraries parentToken
  let ucan ← buildAndSign libraries
    { signingKey
      issuer := didOfKey libraries (libraries.verifyingKey signingKey)
      audience := audienceDid, issuedAt := now, lifetimeSeconds := thirtyYears
      capabilities := [connectCapability domain targetUserId]
      witnessedBy := some parentUcan
      facts := [("proof", .string parentToken)] }
  encodeToken libraries ucan

def validateConnectToken (now : Int) (token presenterUcanPub verifierUcanPub
    verifierUserId domain : String) : Except UcanError Bool := do
  let ucan ← validateStructure libraries now token
  if isOneTimeConnectToken ucan domain then
    verifyDidKeyMatch libraries ucan.issuer verifierUcanPub
    checkCapability ucan (domain ++ ":user-connect:" ++ verifierUserId) "use"
  else
    validateAudience libraries ucan presenterUcanPub
    validateEmbeddedProofChain libraries now verifierUserId verifierUcanPub
      domain (token.length + 1) token none
  return true

def resourceUri (domain resourceId : String) : String :=
  domain ++ ":resource:" ++ resourceId

def validateAuthorityForUpdate (now : Int)
    (proofResolver : String → Except UcanError String) (fuel : Nat)
    (ucanToken peerUcanPub rootUcanPub resourceId domain : String) :
    Option (Except UcanError Bool) :=
  match validateStructure libraries now ucanToken with
  | .error error => some (.error error)
  | .ok ucan =>
      match validateAudience libraries ucan peerUcanPub with
      | .error error => some (.error error)
      | .ok () =>
          match validateUcanPermission libraries now proofResolver rootUcanPub
              (resourceUri domain resourceId) "crud/update" fuel ucan with
          | none => none
          | some (.error error) => some (.error error)
          | some (.ok ()) => some (.ok true)

end Osvauld.CryptoUtils
