import Osvauld.Network.P2P.ShareRecordOrigin
import Osvauld.Services.ProofSearch

namespace Osvauld.Network

open Osvauld.Core CryptoUtils Data Persistance Services

/-! Whether the check of an update token comes to an end depends on what the peers have
filed their share records under. -/

section Filed

variable {libraries : UcanLibraries} {ctx ctx' : RepositoryContext}

structure KeepsFiled (libraries : UcanLibraries) (ctx ctx' : RepositoryContext) : Prop where
  grows : Grows ctx ctx'
  filed : (∀ record ∈ ctx.shareRecords, OwnCid libraries record) →
    ∀ record ∈ ctx'.shareRecords, OwnCid libraries record

instance : IsPreorder RepositoryContext (KeepsFiled libraries) where
  refl ctx := ⟨.refl ctx, id⟩
  trans _ _ _ hfirst hsecond :=
    ⟨hfirst.grows.trans hsecond.grows, hsecond.filed ∘ hfirst.filed⟩

theorem keepsFiled_admits :
    Admits (fun _ record => OwnCid libraries record) (KeepsFiled libraries) := by
  refine fun ctx ctx' hextends => ⟨hextends.grows, fun hall record hrecord => ?_⟩
  rcases hextends.mem_shareRecords hrecord with hold | hnew
  · exact hall record hold
  · exact hnew

theorem body_keepsFiled {call : NodeCall} (hcrate : FaithfulCrate libraries.crate)
    (hlibraries : call.env.libraries.ucan = libraries)
    (hreceived : ∀ connection env message, call = .handleMessage connection env message →
      ∀ record ∈ carriedShareRecords message, OwnCid libraries record) (since : Node) :
    Program.Respects (MovesNode (KeepsFiled libraries)) (fun _ _ => True) since
      call.body := by
  subst hlibraries
  have hroom : RoomForCall (fun _ record => OwnCid call.env.libraries.ucan record)
      (KeepsFiled call.env.libraries.ucan) call :=
    { admits := keepsFiled_admits
      grows := fun _ _ hkeeps => hkeeps.grows
      own := by
        rintro env _ _ _ _ _ rfl record ctx hmade
        obtain ⟨_, _, _, hcarries, _⟩ := (hmade.ownerShare hcrate).token
        exact hcarries.ownCid
      handed := by
        intro _ _ _ _ _ record ctx hmade
        obtain ⟨_, _, _, htoken⟩ := (hmade.delegatedShare hcrate).token
        exact htoken.carries.ownCid
      carried := fun hcall _ record hrecord => hreceived _ _ _ hcall record hrecord }
  exact hroom.body_moves since

end Filed

namespace SelfProof

def token : Ucan :=
  { issuer := "did:key:z..P", audience := "did:key:z..P"
    capabilities := [⟨"livnote:resource:a", "crud/update"⟩]
    proofs := some ["c"], signedData := "loop" }

def tokens : List (String × Ucan) := [("loop", token)]

def env : NetworkEnv := .tabled tokens (.sample "R") (.sample "dev-R" "R")

def start : Node :=
  { repo := { ownerStore with shareRecords := [] }
    connections := fun _ => peerConnection }

def filedUnder (cid : String) : ShareRecord :=
  .prepareShareRecord "loop" 0 "a" "P" "P" .write "loop" cid

/-- `P` sends the record, and it is stored. -/
def delivery (cid : String) : List NodeEvent :=
  .start (.handleMessage 0 env (.mergeUpdate (.vectorClockResponse "a" [] []
    [filedUnder cid] []))) :: List.replicate 4 (.advance 0)

theorem parseToken_eq_ok {text : String} {ucan : Ucan}
    (hparsed : parseToken env.libraries.ucan text = .ok ucan) : text = "loop" ∧ ucan = token := by
  have hread := Services.parseToken_eq_ok.mp hparsed
  change (tabledCrate tokens).tryFrom text = .ok ucan at hread
  by_cases htext : "loop" = text
  · subst htext
    cases hread
    exact ⟨rfl, rfl⟩
  · simp [tabledCrate, tokens, htext] at hread

theorem faithful : FaithfulCrate env.libraries.ucan.crate where
  sign _ _ hsign := nomatch hsign
  proofs _ _ _ _ hsign := nomatch hsign
  tryFrom _ _ _ hsign := nomatch hsign

theorem hash_wellFounded : WellFounded (ProofOf env.libraries.ucan) := by
  have hcids : ∀ proofCid cid, ProofOf env.libraries.ucan proofCid cid →
      cid = "loop" ∧ proofCid = "c" := by
    rintro proofCid cid ⟨text, ucan, hparsed, hcid, hproof⟩
    obtain ⟨rfl, rfl⟩ := parseToken_eq_ok hparsed
    cases hcid
    exact ⟨rfl, by simpa [token] using hproof⟩
  have hleaf : Acc (ProofOf env.libraries.ucan) "c" := by
    refine ⟨_, fun proofCid hproof => ?_⟩
    exact absurd (hcids _ _ hproof).1 (by decide)
  refine ⟨fun cid => ⟨_, fun proofCid hproof => ?_⟩⟩
  obtain ⟨-, rfl⟩ := hcids _ _ hproof
  exact hleaf

theorem not_returns (fuel : Nat) :
    validateUcanPermission env.libraries.ucan 0
      (resolveProof (afterSchedule start (delivery "c")).state.repo) "R"
        (resourceUri "livnote" "a") "crud/update" fuel token = none := by
  have hissuer : verifyDidKeyMatch env.libraries.ucan token.issuer "R" =
      .error .publicKeyMismatch := by decide +kernel
  have hparent : resolveParent env.libraries.ucan 0
      (resolveProof (afterSchedule start (delivery "c")).state.repo) token "c" =
        some token := by
    have hproof : resolveProof (afterSchedule start (delivery "c")).state.repo "c" =
        .ok "loop" := by decide +kernel
    have hvalid : validateStructure env.libraries.ucan 0 "loop" = .ok token := rfl
    simp only [resolveParent, hproof, hvalid]
    rfl
  have hgrants : checkCapability token (resourceUri "livnote" "a") "crud/update" = .ok () := by
    decide +kernel
  induction fuel with
  | zero => rfl
  | succ fuel ih =>
      simp only [validateUcanPermission, hissuer]
      have hproofs : token.proofs = some ["c"] := rfl
      simp only [hproofs, tryProofs, hparent, hgrants, ih]

end SelfProof

end Osvauld.Network
