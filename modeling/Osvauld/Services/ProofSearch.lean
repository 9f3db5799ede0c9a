import Osvauld.Services.ShareToken

namespace Osvauld.Services

open Osvauld.Core CryptoUtils Data Persistance

/-! The search for a chain of proofs, and when it comes to an end. -/

section Search

variable (libraries : UcanLibraries) (now : Int)
variable (proofResolver : String → Except UcanError String)
variable (root resource ability : String)

def Returns (ucan : Ucan) : Prop :=
  ∃ fuel result, ∀ more, fuel ≤ more →
    validateUcanPermission libraries now proofResolver root resource ability more ucan =
      some result

def Blocks (ucan : Ucan) (cid : String) : Prop :=
  ∃ parent, resolveParent libraries now proofResolver ucan cid = some parent ∧
    ¬ Grants resource ability parent

structure Explores (ucan parent : Ucan) : Prop where
  delegated : verifyDidKeyMatch libraries ucan.issuer root = .error .publicKeyMismatch
  proof : ∃ before cid after, ucan.proofs = some (before ++ cid :: after) ∧
    (∀ other ∈ before, ¬ Blocks libraries now proofResolver resource ability ucan other) ∧
      resolveParent libraries now proofResolver ucan cid = some parent
  grants : Grants resource ability parent

variable {libraries now proofResolver root resource ability}

section Loop

variable {validateParent : Ucan → Option (Except UcanError Unit)} {ucan parent : Ucan}
variable {cid : String} {rest : List String}

theorem tryProofs_skip
    (hskip : resolveParent libraries now proofResolver ucan cid = none) :
    tryProofs libraries now proofResolver resource ability validateParent ucan
        (cid :: rest) =
      tryProofs libraries now proofResolver resource ability validateParent ucan rest := by
  simp only [tryProofs, hskip]

theorem tryProofs_block
    (hparent : resolveParent libraries now proofResolver ucan cid = some parent)
    (hgrants : ¬ Grants resource ability parent) :
    tryProofs libraries now proofResolver resource ability validateParent ucan
        (cid :: rest) = some (.error .delegationNotPermitted) := by
  unfold Grants at hgrants
  simp only [tryProofs, hparent]
  cases hchecked : checkCapability parent resource ability with
  | ok granted => exact absurd hchecked hgrants
  | error error => rfl

section Tried

variable (hparent : resolveParent libraries now proofResolver ucan cid = some parent)
variable (hgrants : Grants resource ability parent)

include hparent hgrants

theorem tryProofs_wait (hvalid : validateParent parent = none) :
    tryProofs libraries now proofResolver resource ability validateParent ucan
        (cid :: rest) = none := by
  unfold Grants at hgrants
  simp only [tryProofs, hparent, hgrants, hvalid]

theorem tryProofs_accept (hvalid : validateParent parent = some (.ok ())) :
    tryProofs libraries now proofResolver resource ability validateParent ucan
        (cid :: rest) = some (.ok ()) := by
  unfold Grants at hgrants
  simp only [tryProofs, hparent, hgrants, hvalid]

theorem tryProofs_pass {error : UcanError}
    (hvalid : validateParent parent = some (.error error)) :
    tryProofs libraries now proofResolver resource ability validateParent ucan
        (cid :: rest) =
      tryProofs libraries now proofResolver resource ability validateParent ucan rest := by
  unfold Grants at hgrants
  simp only [tryProofs, hparent, hgrants, hvalid]

end Tried

theorem tryProofs_returns {cids : List String}
    (hparents : ∀ before cid after parent, cids = before ++ cid :: after →
      (∀ other ∈ before,
        ¬ Blocks libraries now proofResolver resource ability ucan other) →
      resolveParent libraries now proofResolver ucan cid = some parent →
      Grants resource ability parent →
      Returns libraries now proofResolver root resource ability parent) :
    ∃ fuel result, ∀ more, fuel ≤ more →
      tryProofs libraries now proofResolver resource ability
        (validateUcanPermission libraries now proofResolver root resource ability more)
          ucan cids = some result := by
  induction cids with
  | nil => exact ⟨0, _, fun _ _ => rfl⟩
  | cons cid rest ih =>
      have hlater (hpassable : ¬ Blocks libraries now proofResolver resource ability ucan cid) :=
        ih fun before other after parent hrest hbefore =>
          hparents (cid :: before) other after parent (by rw [hrest, List.cons_append])
            (List.forall_mem_cons.mpr ⟨hpassable, hbefore⟩)
      cases hparent : resolveParent libraries now proofResolver ucan cid with
      | none =>
          have hpassable : ¬ Blocks libraries now proofResolver resource ability ucan cid := by
            rintro ⟨parent, hfound, _⟩
            cases hparent.symm.trans hfound
          obtain ⟨fuel, result, hrest⟩ := hlater hpassable
          refine ⟨fuel, result, fun more hmore => ?_⟩
          rw [tryProofs_skip hparent]
          exact hrest more hmore
      | some parent =>
          by_cases hgrants : Grants resource ability parent
          · have hpassable :
                ¬ Blocks libraries now proofResolver resource ability ucan cid := by
              rintro ⟨found, hfound, hnot⟩
              cases hparent.symm.trans hfound
              exact hnot hgrants
            obtain ⟨restFuel, restResult, hrest⟩ := hlater hpassable
            obtain ⟨fuel, result, hresult⟩ :=
              hparents [] cid rest parent rfl (by simp) hparent hgrants
            cases result with
            | ok valid =>
                refine ⟨fuel, .ok (), fun more hmore => ?_⟩
                exact tryProofs_accept hparent hgrants (hresult more hmore)
            | error error =>
                refine ⟨max fuel restFuel, restResult, fun more hmore => ?_⟩
                have hvalid := hresult more (le_trans (le_max_left _ _) hmore)
                rw [tryProofs_pass hparent hgrants hvalid]
                exact hrest more (le_trans (le_max_right _ _) hmore)
          · exact ⟨0, _, fun more _ => tryProofs_block hparent hgrants⟩

end Loop

variable {ucan : Ucan}

theorem returns_of_explored
    (hparents : ∀ parent,
      Explores libraries now proofResolver root resource ability ucan parent →
        Returns libraries now proofResolver root resource ability parent) :
    Returns libraries now proofResolver root resource ability ucan := by
  suffices hstep : ∃ fuel result, ∀ more, fuel ≤ more →
      validateUcanPermission libraries now proofResolver root resource ability (more + 1)
        ucan = some result by
    obtain ⟨fuel, result, hresult⟩ := hstep
    refine ⟨fuel + 1, result, fun more hmore => ?_⟩
    obtain ⟨more, rfl⟩ := Nat.exists_eq_add_one.mpr (Nat.zero_lt_of_lt hmore)
    exact hresult more (Nat.le_of_succ_le_succ hmore)
  simp only [validateUcanPermission]
  split
  · exact ⟨0, _, fun _ _ => rfl⟩
  · next hdelegated =>
      split
      · exact ⟨0, _, fun _ _ => rfl⟩
      · exact ⟨0, _, fun _ _ => rfl⟩
      · next proofs _ hproofs =>
          refine tryProofs_returns fun before cid after parent hcids hbefore hparent
            hgrants => hparents parent ⟨hdelegated, ?_, hgrants⟩
          exact ⟨before, cid, after, hcids ▸ hproofs, hbefore, hparent⟩
  · exact ⟨0, _, fun _ _ => rfl⟩

theorem returns_of_acc
    (hacc : Acc (fun parent child =>
      Explores libraries now proofResolver root resource ability child parent) ucan) :
    Returns libraries now proofResolver root resource ability ucan := by
  induction hacc with
  | intro ucan _ ih => exact returns_of_explored ih

theorem Explores.delegates {parent : Ucan}
    (hexplores : Explores libraries now proofResolver root resource ability ucan parent) :
    Delegates libraries now proofResolver ucan parent := by
  obtain ⟨before, cid, after, hproofs, _, hparent⟩ := hexplores.proof
  exact resolveParent_delegates hparent (by simp [hproofs])

theorem returns_of_acc_delegates
    (hacc : Acc (fun parent child => Delegates libraries now proofResolver child parent) ucan) :
    Returns libraries now proofResolver root resource ability ucan :=
  returns_of_acc (Subrelation.accessible (fun hexplores => hexplores.delegates) hacc)

end Search

section Filed

variable (libraries : UcanLibraries)

def ProofOf (proofCid cid : String) : Prop :=
  ∃ token ucan, parseToken libraries token = .ok ucan ∧ cidOf libraries ucan = .ok cid ∧
    proofCid ∈ ucan.proofs.getD []

def OwnCid (record : ShareRecord) : Prop :=
  ∀ ucan, parseToken libraries record.ucanToken = .ok ucan →
    cidOf libraries ucan = .ok record.ucanCid

structure ChecksEnd (ctx : RepositoryContext) : Prop where
  returns : ∀ now root resource ability ucan,
    Returns libraries now (resolveProof ctx) root resource ability ucan
  acyclic : ∀ now ucan,
    ¬ Relation.TransGen (Delegates libraries now (resolveProof ctx)) ucan ucan

variable {libraries} {ctx : RepositoryContext} {now : Int}

theorem CarriesToken.ownCid {record : ShareRecord} {ucan : Ucan}
    (hcarries : CarriesToken libraries record ucan) : OwnCid libraries record := by
  intro parsed hparsed
  obtain rfl := Except.ok.inj (hcarries.parsed.symm.trans hparsed)
  exact hcarries.cid_eq

theorem resolveProof_stored {cid token : String} (hproof : resolveProof ctx cid = .ok token) :
    ∃ record ∈ ctx.shareRecords, record.ucanCid = cid ∧ record.ucanToken = token := by
  unfold resolveProof ShareRepo.getUcanByCid at hproof
  cases hfound : ctx.shareRecords.find? fun record => record.ucanCid = cid with
  | none =>
      rw [hfound] at hproof
      cases hproof
  | some record =>
      rw [hfound] at hproof
      cases hproof
      exact ⟨record, List.mem_of_find?_eq_some hfound, by simpa using List.find?_some hfound,
        rfl⟩

variable (hown : ∀ record ∈ ctx.shareRecords, OwnCid libraries record)

include hown

theorem Delegates.parent_cid {child parent : Ucan}
    (hdelegates : Delegates libraries now (resolveProof ctx) child parent) :
    ∃ cid ∈ child.proofs.getD [], ∃ token, parseToken libraries token = .ok parent ∧
      cidOf libraries parent = .ok cid := by
  obtain ⟨cid, hcid, token, htoken, hvalid⟩ := hdelegates.resolved
  obtain ⟨record, hrecord, rfl, rfl⟩ := resolveProof_stored htoken
  rw [validateStructure, bind_eq_ok] at hvalid
  obtain ⟨read, hread, hvalid⟩ := hvalid
  split at hvalid
  · cases hvalid
  · cases hvalid
    exact ⟨_, hcid, _, hread, hown record hrecord _ hread⟩

variable (hhash : WellFounded (ProofOf libraries))

include hhash

theorem acc_of_cid {ucan : Ucan} {token cid : String}
    (hparsed : parseToken libraries token = .ok ucan) (hcid : cidOf libraries ucan = .ok cid) :
    Acc (fun parent child => Delegates libraries now (resolveProof ctx) child parent)
      ucan := by
  induction cid using hhash.induction generalizing ucan token with
  | h cid ih =>
      refine ⟨_, fun parent hdelegates => ?_⟩
      obtain ⟨parentCid, hproof, text, htext, hparent⟩ := hdelegates.parent_cid hown
      exact ih parentCid ⟨token, ucan, hparsed, hcid, hproof⟩ htext hparent

theorem delegates_wellFounded : WellFounded
    (fun parent child => Delegates libraries now (resolveProof ctx) child parent) := by
  refine ⟨fun ucan => ⟨_, fun parent hdelegates => ?_⟩⟩
  obtain ⟨_, _, _, htext, hparent⟩ := hdelegates.parent_cid hown
  exact acc_of_cid hown hhash htext hparent

theorem checksEnd_of_ownCid : ChecksEnd libraries ctx where
  returns _ _ _ _ ucan := returns_of_acc_delegates ((delegates_wellFounded hown hhash).apply ucan)
  acyclic now ucan hcycle := by
    have hwell := (@delegates_wellFounded _ _ now hown hhash).transGen
    have hback := Relation.transGen_swap.mp hcycle
    exact hwell.asymmetric _ _ hback hback

end Filed

end Osvauld.Services
