import Osvauld.Data.DelegationChain
import Osvauld.Data.Run
import Osvauld.TypescriptPort.Sharing

namespace Osvauld.TypescriptPort

open Osvauld.Core Data

/-! Who is given access by a token, and on whose authority. -/

inductive ShareCall
  | createShareLink (id : String) (now : Int) (request : ShareRequest)
      (issuerPrivateKey issuerPublicKey : Bytes)
  | revokeShareLink (shareLinkId : String)

structure ShareWorld where
  shareLinks : Table ShareLink
  /-- The tokens of the links that have been revoked. The code does not keep them. -/
  revoked : List String

section Access

variable (libraries : TokenLibraries)

def ShareWorld.step : ShareCall → ShareWorld → ShareWorld
  | .createShareLink id now request issuerPrivateKey issuerPublicKey, world =>
      { world with
        shareLinks := ((SharingManager.createShareLink libraries id now request issuerPrivateKey
          issuerPublicKey).run world.shareLinks).2 }
  | .revokeShareLink shareLinkId, world =>
      { shareLinks := ((SharingManager.revokeShareLink shareLinkId).run world.shareLinks).2
        revoked := ((world.shareLinks.get shareLinkId).map ShareLink.token).toList ++ world.revoked }

def UcanPayload.issuer (payload : UcanPayload) : Option Bytes :=
  (base64urlDecode payload.iss).toOption

def UcanPayload.audience (payload : UcanPayload) : Option Bytes :=
  (base64urlDecode payload.aud).toOption

variable (now : Nat)

def Covers (documentId : String) (capability : Capability) (token : String) : Prop :=
  ∃ payload, verifyUCAN libraries now token = .ok payload ∧
    hasCapability payload ⟨.document, some documentId⟩ capability = true

def ProvedBy (token proof : String) : Prop :=
  ∃ payload proofPayload, verifyUCAN libraries now token = .ok payload ∧
    verifyUCAN libraries now proof = .ok proofPayload ∧
    proof ∈ payload.prf ∧ proofPayload.audience = payload.issuer

def IssuedByOwner (ownerKey : String → Option Bytes) (documentId token : String) : Prop :=
  ∃ payload, verifyUCAN libraries now token = .ok payload ∧
    ∃ owner, ownerKey documentId = some owner ∧ payload.issuer = some owner

/-- A chain of proofs leads from the token to one that the document's owner has issued.
Every token of it covers the capability, and none is revoked. -/
def Rooted (ownerKey : String → Option Bytes) (revoked : List String) (documentId : String)
    (capability : Capability) (token : String) : Prop :=
  ∃ chain, DelegationChain (ProvedBy libraries now) (IssuedByOwner libraries now ownerKey documentId)
      token chain ∧
    ∀ link ∈ chain, Covers libraries now documentId capability link ∧ link ∉ revoked

/-- A token that covers the capability is not revoked; the owner has issued it, or one of
its proofs is rooted. -/
def Backed (ownerKey : String → Option Bytes) (revoked : List String) (documentId : String)
    (capability : Capability) (token : String) : Prop :=
  Covers libraries now documentId capability token → token ∉ revoked ∧
    (IssuedByOwner libraries now ownerKey documentId token ∨
      ∃ proof, ProvedBy libraries now token proof ∧
        Rooted libraries now ownerKey revoked documentId capability proof)

end Access

variable {libraries : TokenLibraries} {now : Nat} {ownerKey : String → Option Bytes}
variable {revoked : List String} {documentId token : String} {capability : Capability}

theorem verifyAccess_iff : SharingManager.verifyAccess libraries now token documentId capability =
    true ↔ Covers libraries now documentId capability token := by
  unfold SharingManager.verifyAccess Covers
  cases verifyUCAN libraries now token with
  | error message => simp
  | ok payload => simp

theorem rooted_iff : Rooted libraries now ownerKey revoked documentId capability token ↔
    (Covers libraries now documentId capability token ∧ token ∉ revoked) ∧
      (IssuedByOwner libraries now ownerKey documentId token ∨
        ∃ proof, ProvedBy libraries now token proof ∧
          Rooted libraries now ownerKey revoked documentId capability proof) := by
  constructor
  · rintro ⟨chain, hchain, hlinks⟩
    refine ⟨hlinks token hchain.leaf_mem, ?_⟩
    cases hchain with
    | root hroot => exact .inl hroot
    | @delegated _ proof chain hproved hchain =>
        exact .inr ⟨proof, hproved, chain, hchain,
          fun link hlink => hlinks link (List.mem_cons_of_mem _ hlink)⟩
  · rintro ⟨htoken, hroot | ⟨proof, hproved, chain, hchain, hlinks⟩⟩
    · exact ⟨[token], .root hroot, by simpa using htoken⟩
    · exact ⟨token :: chain, .delegated hproved hchain, List.forall_mem_cons.mpr ⟨htoken, hlinks⟩⟩

theorem access_rooted_iff_backed :
    (SharingManager.verifyAccess libraries now token documentId capability = true →
      Rooted libraries now ownerKey revoked documentId capability token) ↔
    Backed libraries now ownerKey revoked documentId capability token := by
  rw [verifyAccess_iff, Backed]
  refine imp_congr_right fun hcovers => ?_
  rw [rooted_iff]
  exact ⟨fun hrooted => ⟨hrooted.1.2, hrooted.2⟩, fun hbacked => ⟨⟨hcovers, hbacked.1⟩, hbacked.2⟩⟩

def headerText : String := "\x7b\"alg\":\"EdDSA\",\"typ\":\"JWT\"\x7d"

def selfIssuedText : String :=
  "\x7b\"iss\":\"Ag\",\"aud\":\"Ag\",\"exp\":100,\"att\":[\x7b\"resource\":\x7b\"type\":" ++
    "\"document\",\"id\":\"d1\"\x7d,\"capabilities\":[\"write\"]\x7d]\x7d"

def selfIssuedPayload : UcanPayload :=
  { iss := "Ag", aud := "Ag", exp := 100, nbf := none
    att := [⟨⟨.document, some "d1"⟩, [.write]⟩], prf := [] }

def selfIssuedLibraries : TokenLibraries :=
  { plainCrypto with
    stringifyHeader := fun _ => headerText
    stringifyPayload := fun _ => selfIssuedText
    parseHeader := fun text =>
      if text = headerText then .ok ⟨"EdDSA", "JWT"⟩ else .error "Unexpected token"
    parsePayload := fun text =>
      if text = selfIssuedText then .ok selfIssuedPayload else .error "Unexpected token" }

def selfIssuedToken : String :=
  createUCAN selfIssuedLibraries 0 [2] [2] [2] selfIssuedPayload.att ⟨some 100000, none, []⟩

theorem verifyUCAN_selfIssued :
    verifyUCAN selfIssuedLibraries 1 selfIssuedToken = .ok selfIssuedPayload := by
  have hheader : selfIssuedLibraries.parseHeader
      (selfIssuedLibraries.decodeText (encodeText headerText)) = .ok ⟨"EdDSA", "JWT"⟩ := by
    dsimp only [selfIssuedLibraries]
    rw [decodeText_encodeText, if_pos rfl]
  have hpayload : selfIssuedLibraries.parsePayload
      (selfIssuedLibraries.decodeText (encodeText selfIssuedText)) = .ok selfIssuedPayload := by
    dsimp only [selfIssuedLibraries]
    rw [decodeText_encodeText, if_pos rfl]
  have hissuer : base64urlDecode selfIssuedPayload.iss = .ok [2] := by decide +kernel
  have hnonempty : encodeText headerText ≠ [] ∧ encodeText selfIssuedText ≠ [] ∧
      encodeText (base64urlEncode (encodeText headerText) ++ "." ++
        base64urlEncode (encodeText selfIssuedText)) ≠ [] := by
    refine ⟨encodeText_ne_nil (by decide +kernel), encodeText_ne_nil (by decide +kernel),
      encodeText_ne_nil ?_⟩
    simp [String.append_eq_empty_iff]
  have htoken : selfIssuedToken = base64urlEncode (encodeText headerText) ++ "." ++
      base64urlEncode (encodeText selfIssuedText) ++ "." ++
        base64urlEncode (encodeText (base64urlEncode (encodeText headerText) ++ "." ++
          base64urlEncode (encodeText selfIssuedText))) := by
    simp only [selfIssuedToken, createUCAN, selfIssuedLibraries, plainCrypto]
  rw [htoken]
  have hverify : ∀ message key, selfIssuedLibraries.verify message message key = true := by
    simp [selfIssuedLibraries, plainCrypto]
  exact verifyUCAN_signed selfIssuedLibraries hnonempty hheader hpayload rfl (by decide +kernel)
    (by decide) hissuer (hverify _ _)

end Osvauld.TypescriptPort
