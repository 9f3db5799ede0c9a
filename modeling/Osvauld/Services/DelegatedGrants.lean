import Osvauld.CryptoUtils.ConnectTokens
import Osvauld.Services.ShareToken

namespace Osvauld.Services

open Osvauld.Core CryptoUtils Data

/-! What a token made for a recipient grants, beside what its proof grants. -/

def Within (capabilities : List Capability) (proof : Ucan) : Prop :=
  ∀ resource ability, (capabilities.any fun capability =>
    capability.grants resource ability) = true → Grants resource ability proof

section Issue

variable (libraries : Libraries) (cert : Option String) (encryptedKey : PgpText)
variable (kind shareAbility id : String)

structure Delegable (proof : Ucan) : Prop where
  audience : ∀ signingKey, decryptUcanKey libraries cert encryptedKey = .ok signingKey →
    verifyDidKeyMatch libraries.ucan proof.audience (ucanPubKeyOf libraries signingKey) =
      .ok ()
  share : ∃ domain, extractDomainFromUcan proof kind = .ok domain ∧
    Grants (domain ++ ":" ++ kind ++ ":" ++ id) shareAbility proof

def Attenuates (proofUcan token : String) : Prop :=
  ∃ proof issued, parseToken libraries.ucan proofUcan = .ok proof ∧
    parseToken libraries.ucan token = .ok issued ∧ Within issued.capabilities proof ∧
      Delegable libraries cert encryptedKey kind shareAbility id proof

def AsksWithin (proofUcan : String) (permissions : List (String × String)) : Prop :=
  ∃ proof, parseToken libraries.ucan proofUcan = .ok proof ∧
    Within (permissions.map fun (resource, ability) => { resource, ability }) proof ∧
      Delegable libraries cert encryptedKey kind shareAbility id proof

variable {libraries cert encryptedKey id} {now : Int} {fuel : Nat}
variable {proofResolver : String → Except UcanError String}
variable {proofUcan root recipientUcanPubKey token cid : String}
variable {permissions : List (String × String)}
variable (hcrate : FaithfulCrate libraries.ucan.crate)

include hcrate

variable {kind shareAbility} in
theorem attenuates_iff_of_issued
    (hissued : issueDelegatedUcan libraries cert kind shareAbility now proofResolver fuel
      encryptedKey proofUcan root id recipientUcanPubKey permissions =
        some (.ok (token, cid))) :
    Attenuates libraries cert encryptedKey kind shareAbility id proofUcan token ↔
      AsksWithin libraries cert encryptedKey kind shareAbility id proofUcan permissions := by
  obtain ⟨_, _, _, _, _, _, _, hgenerated⟩ := issueDelegatedUcan_eq_ok hissued
  obtain ⟨issued, _, hread, _, _, _, _, hcapabilities, _⟩ :=
    generateDelegatedUcan_eq_ok hcrate hgenerated
  constructor
  · rintro ⟨proof, other, hproof, hother, hwithin, hdelegable⟩
    obtain rfl := Except.ok.inj (hread.symm.trans hother)
    exact ⟨proof, hproof, hcapabilities ▸ hwithin, hdelegable⟩
  · rintro ⟨proof, hproof, hwithin, hdelegable⟩
    exact ⟨proof, issued, hproof, hread, hcapabilities ▸ hwithin, hdelegable⟩

end Issue

namespace Overreach

def did (key : String) : String := didOfKey (tabledLibraries []) (textBytes key)

def ownerKey : String := "PPPPPPPPPPPPPPPPPPPPPPPPPPPPPPPP"

def proof : Ucan :=
  { issuer := did "V", audience := did "X"
    capabilities := [⟨"livnote:resource:a", "crud/read"⟩], signedData := "proof" }

def issued : Ucan :=
  { issuer := did ownerKey, audience := did "Q"
    capabilities := [⟨"livnote:resource:b", "crud/delete"⟩], proofs := some ["proof"]
    signedData := "issued" }

def crate : UcanCrate :=
  { tabledCrate [("proof", proof), ("issued", issued)] with
    build := fun _ => .ok ()
    sign := fun request =>
      if request.issuer = issued.issuer ∧ request.audience = issued.audience ∧
          request.capabilities = issued.capabilities ∧
            (request.witnessedBy.map fun parent => parent.signedData) = some "proof" then
        .ok issued
      else .error "not the token" }

def libraries : Libraries :=
  let tabled := Libraries.tabled []
  { tabled with ucan := { tabled.ucan with crate } }

theorem sign_eq_ok {request : UcanRequest} {ucan : Ucan}
    (hsign : crate.sign request = .ok ucan) :
    ucan = issued ∧ request.issuer = issued.issuer ∧ request.audience = issued.audience ∧
      request.capabilities = issued.capabilities ∧
        (request.witnessedBy.map fun parent => parent.signedData) = some "proof" := by
  simp only [crate] at hsign
  split at hsign
  · next hrequest =>
      cases hsign
      exact ⟨rfl, hrequest⟩
  · cases hsign

theorem faithful : FaithfulCrate crate where
  sign request ucan hsign := by
    obtain ⟨rfl, hissuer, haudience, hcapabilities, _⟩ := sign_eq_ok hsign
    exact ⟨hissuer.symm, haudience.symm, hcapabilities.symm⟩
  proofs request ucan parent cid hsign hwitness hcid := by
    obtain ⟨rfl, _, _, _, hproof⟩ := sign_eq_ok hsign
    rw [hwitness] at hproof
    have hdata : parent.signedData = "proof" := Option.some.inj hproof
    rw [← Except.ok.inj hcid, hdata]
    rfl
  tryFrom request ucan token hsign hencode := by
    obtain ⟨rfl, _⟩ := sign_eq_ok hsign
    cases hencode
    rfl

def result : Option (CryptoResult (String × String)) :=
  issueDelegatedResourceUcan libraries (some "P") 0 (fun _ => .error .proofRequired) 2
    (.sealed "P" ownerKey) "proof" "V" "b" "Q" [("livnote:resource:b", "crud/delete")]

end Overreach

end Osvauld.Services
