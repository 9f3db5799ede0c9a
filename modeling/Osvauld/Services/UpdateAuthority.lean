import Osvauld.Data.DelegationChain
import Osvauld.Services.ResourceService

namespace Osvauld.Services

open CryptoUtils Data Persistance

/-! What an accepted update token stands for: a chain of tokens from the
presenter up to the root key. -/

section Permission

variable (libraries : UcanLibraries) (now : Int)
variable (proofResolver : String → Except UcanError String)

/-- The parent is what one of the child's proofs resolves to, and is addressed
to the child's issuer. -/
structure Delegates (child parent : Ucan) : Prop where
  resolved : ∃ cid ∈ child.proofs.getD [], ∃ token,
    proofResolver cid = .ok token ∧
      validateStructure libraries now token = .ok parent
  audience_eq : parent.audience = child.issuer

def Grants (resource ability : String) (ucan : Ucan) : Prop :=
  checkCapability ucan resource ability = .ok ()

def IssuedBy (root : String) (ucan : Ucan) : Prop :=
  verifyDidKeyMatch libraries ucan.issuer root = .ok ()

variable {libraries now proofResolver}

theorem resolveParent_delegates {ucan parent : Ucan} {cid : String}
    (hresolve : resolveParent libraries now proofResolver ucan cid = some parent)
    (hcid : cid ∈ ucan.proofs.getD []) :
    Delegates libraries now proofResolver ucan parent := by
  unfold resolveParent at hresolve
  split at hresolve
  · cases hresolve
  · next token htoken =>
      split at hresolve
      · cases hresolve
      · next found hfound =>
          split at hresolve
          · cases hresolve
          · next haudience =>
              cases hresolve
              exact ⟨⟨cid, hcid, token, htoken, hfound⟩, not_not.mp haudience⟩

theorem tryProofs_eq_ok {resource ability : String}
    {validateParent : Ucan → Option (Except UcanError Unit)} {ucan : Ucan}
    {cids : List String} (hcids : ∀ cid ∈ cids, cid ∈ ucan.proofs.getD [])
    (hok : tryProofs libraries now proofResolver resource ability validateParent
      ucan cids = some (.ok ())) :
    ∃ parent, Delegates libraries now proofResolver ucan parent ∧
      Grants resource ability parent ∧ validateParent parent = some (.ok ()) := by
  induction cids with
  | nil => cases hok
  | cons cid rest ih =>
      have hrest := fun other hother => hcids other (List.mem_cons_of_mem _ hother)
      unfold tryProofs at hok
      split at hok
      · exact ih hrest hok
      · next parent hparent =>
          split at hok
          · cases hok
          · next hgrants =>
              split at hok
              · cases hok
              · next hvalid =>
                  exact ⟨parent, resolveParent_delegates hparent
                    (hcids cid List.mem_cons_self), hgrants, hvalid⟩
              · exact ih hrest hok

theorem validateUcanPermission_chain {root resource ability : String}
    {fuel : Nat} {ucan : Ucan}
    (hok : validateUcanPermission libraries now proofResolver root resource
      ability fuel ucan = some (.ok ())) :
    ∃ chain, DelegationChain
      (fun child parent => Delegates libraries now proofResolver child parent ∧
        Grants resource ability parent)
      (IssuedBy libraries root) ucan chain := by
  induction fuel generalizing ucan with
  | zero => cases hok
  | succ fuel ih =>
      unfold validateUcanPermission at hok
      split at hok
      · next hroot => exact ⟨[ucan], .root hroot⟩
      · split at hok
        · cases hok
        · cases hok
        · next proofs hnonempty hproofs =>
            obtain ⟨parent, hdelegates, hgrants, hvalid⟩ :=
              tryProofs_eq_ok (fun cid hcid => by rw [hproofs]; exact hcid) hok
            obtain ⟨chain, hchain⟩ := ih hvalid
            exact ⟨ucan :: chain, .delegated ⟨hdelegates, hgrants⟩ hchain⟩
      · cases hok

end Permission

structure AuthorityChain (libraries : UcanLibraries) (now : Int)
    (ctx : RepositoryContext) (token peerUcanPub rootUcanPub : String)
    (chain : List Ucan) : Prop where
  chained : ∃ leaf, validateStructure libraries now token = .ok leaf ∧
    verifyDidKeyMatch libraries leaf.audience peerUcanPub = .ok () ∧
      DelegationChain (Delegates libraries now (resolveProof ctx))
        (IssuedBy libraries rootUcanPub) leaf chain
  valid : ∀ ucan ∈ chain, ∃ text, validateStructure libraries now text = .ok ucan

variable {libraries : UcanLibraries}

theorem validateAudience_eq_ok {ucan : Ucan} {presenter : String}
    (hok : validateAudience libraries ucan presenter = .ok ()) :
    verifyDidKeyMatch libraries ucan.audience presenter = .ok () := by
  unfold validateAudience at hok
  split at hok
  · cases hok
  · exact hok

theorem validateAuthorityForUpdate_eq_ok {now : Int}
    {proofResolver fuel token peer root resourceId domain}
    (hok : CryptoUtils.validateAuthorityForUpdate libraries now proofResolver fuel
      token peer root resourceId domain = some (.ok true)) :
    ∃ leaf, validateStructure libraries now token = .ok leaf ∧
      verifyDidKeyMatch libraries leaf.audience peer = .ok () ∧
        validateUcanPermission libraries now proofResolver root
          (resourceUri domain resourceId) "crud/update" fuel leaf =
            some (.ok ()) := by
  unfold CryptoUtils.validateAuthorityForUpdate at hok
  split at hok
  · cases hok
  · next leaf hleaf =>
      split at hok
      · cases hok
      · next haudience =>
          split at hok
          · cases hok
          · cases hok
          · next hpermission =>
              exact ⟨leaf, hleaf, validateAudience_eq_ok haudience, hpermission⟩

theorem accepted_authority_chain {now : Int} {ctx fuel token peer root resourceId domain}
    (hok : CryptoUtils.validateAuthorityForUpdate libraries now (resolveProof ctx)
      fuel token peer root resourceId domain = some (.ok true)) :
    ∃ leaf chain, validateStructure libraries now token = .ok leaf ∧
      AuthorityChain libraries now ctx token peer root (leaf :: chain) ∧
        ∀ ucan ∈ chain, Grants (resourceUri domain resourceId) "crud/update" ucan := by
  obtain ⟨leaf, hleaf, haudience, hpermission⟩ :=
    validateAuthorityForUpdate_eq_ok hok
  obtain ⟨whole, hchain⟩ := validateUcanPermission_chain hpermission
  have hplain : DelegationChain (Delegates libraries now (resolveProof ctx))
      (IssuedBy libraries root) leaf whole :=
    hchain.mono (fun _ _ hlink => hlink.1) fun _ hroot => hroot
  have hvalid : ∀ ucan ∈ whole,
      ∃ text, validateStructure libraries now text = .ok ucan := by
    refine hplain.forall_mem (fun child parent hlink => ?_) ⟨token, hleaf⟩
    obtain ⟨_, _, text, _, htext⟩ := hlink.resolved
    exact ⟨text, htext⟩
  cases hchain with
  | root hroot =>
      exact ⟨leaf, [], hleaf,
        ⟨⟨leaf, hleaf, haudience, .root hroot⟩, hvalid⟩, by simp⟩
  | delegated hlink htail =>
      exact ⟨leaf, _, hleaf, ⟨⟨leaf, hleaf, haudience, hplain⟩, hvalid⟩,
        htail.forall_mem (fun _ _ hnext => hnext.2) hlink.2⟩

def TokenGrantsUpdate (libraries : UcanLibraries) (now : Int)
    (token resourceId domain : String) : Prop :=
  ∃ leaf, validateStructure libraries now token = .ok leaf ∧
    Grants (resourceUri domain resourceId) "crud/update" leaf

/-- Update authority: an accepted token stands for a chain to the root in which
every token grants the update exactly when the presented token does so itself. -/
theorem update_authority_sound_iff (libraries : UcanLibraries) (now : Int)
    (ctx : RepositoryContext) (fuel : Nat)
    (token peer root resourceId domain : String)
    (hok : CryptoUtils.validateAuthorityForUpdate libraries now (resolveProof ctx)
      fuel token peer root resourceId domain = some (.ok true)) :
    (∃ chain, AuthorityChain libraries now ctx token peer root chain ∧
      ∀ ucan ∈ chain, Grants (resourceUri domain resourceId) "crud/update" ucan) ↔
        TokenGrantsUpdate libraries now token resourceId domain := by
  constructor
  · rintro ⟨chain, hauthority, hgrants⟩
    obtain ⟨leaf, hleaf, _, hchain⟩ := hauthority.chained
    exact ⟨leaf, hleaf, hgrants leaf hchain.leaf_mem⟩
  · rintro ⟨granting, hgranting, hgrants⟩
    obtain ⟨leaf, chain, hleaf, hauthority, habove⟩ := accepted_authority_chain hok
    rw [hleaf, Except.ok.injEq] at hgranting
    refine ⟨leaf :: chain, hauthority, fun ucan hucan => ?_⟩
    rcases List.mem_cons.mp hucan with rfl | htail
    · exact hgranting ▸ hgrants
    · exact habove ucan htail

def ownerTokens : List (String × Ucan) :=
  [("grant-a", { issuer := "did:key:z..R", audience := "did:key:z..P"
                 capabilities := [⟨"livnote:resource:a", "crud/update"⟩] }),
    ("grant-b", { issuer := "did:key:z..R", audience := "did:key:z..P"
                  capabilities := [⟨"livnote:resource:b", "crud/read"⟩] })]

theorem update_authority_sound_iff_owner_grant :
    (∃ chain, AuthorityChain (tabledLibraries ownerTokens) 0 {} "grant-a" "P" "R"
        chain ∧ ∀ ucan ∈ chain,
          Grants (resourceUri "livnote" "a") "crud/update" ucan) ↔
      TokenGrantsUpdate (tabledLibraries ownerTokens) 0 "grant-a" "a" "livnote" :=
  update_authority_sound_iff (tabledLibraries ownerTokens) 0 {} 1 "grant-a" "P"
    "R" "a" "livnote" (by rfl)

/-- The token for reading note `b` is accepted as authority to update `a`. -/
theorem other_resource_token_accepted :
    CryptoUtils.validateAuthorityForUpdate (tabledLibraries ownerTokens) 0
        (resolveProof {}) 1 "grant-b" "P" "R" "a" "livnote" = some (.ok true) ∧
      ¬∃ chain, AuthorityChain (tabledLibraries ownerTokens) 0 {} "grant-b" "P"
          "R" chain ∧ ∀ ucan ∈ chain,
            Grants (resourceUri "livnote" "a") "crud/update" ucan := by
  refine ⟨by rfl, ?_⟩
  rintro ⟨chain, hauthority, hgrants⟩
  obtain ⟨leaf, hleaf, _, hchain⟩ := hauthority.chained
  cases hleaf
  exact absurd (hgrants _ hchain.leaf_mem) (by simp [Grants]; decide)

end Osvauld.Services
