import Osvauld.Services.ProofSearch

namespace Osvauld.Services

open Osvauld.Core CryptoUtils Data Persistance

/-! Which of the chains up to the root key the search for proofs finds. -/

section Search

variable (libraries : UcanLibraries) (now : Int)
variable (proofResolver : String → Except UcanError String)
variable (root resource ability : String)

/-- Nothing before the proof keeps the search from it: a parent that is found earlier
has the capability too, and there is no endless chain of parents above it. -/
def Passable (ucan : Ucan) (before : List String) : Prop :=
  ∀ other ∈ before, ∀ parent,
    resolveParent libraries now proofResolver ucan other = some parent →
      Grants resource ability parent ∧
        Acc (fun parent child =>
          Explores libraries now proofResolver root resource ability child parent) parent

inductive ClearChain : Ucan → Prop
  | root {ucan : Ucan} : IssuedBy libraries root ucan → ClearChain ucan
  | delegated {ucan parent : Ucan} {before after : List String} {cid : String} :
      verifyDidKeyMatch libraries ucan.issuer root = .error .publicKeyMismatch →
      ucan.proofs = some (before ++ cid :: after) →
      Passable libraries now proofResolver root resource ability ucan before →
      resolveParent libraries now proofResolver ucan cid = some parent →
      Grants resource ability parent →
      ClearChain parent → ClearChain ucan

def Accepted (ucan : Ucan) : Prop :=
  ∃ fuel, ∀ more, fuel ≤ more →
    validateUcanPermission libraries now proofResolver root resource ability more ucan =
      some (.ok ())

variable {libraries now proofResolver root resource ability}

section Loop

variable {validateParent : Ucan → Option (Except UcanError Unit)} {ucan parent : Ucan}
variable {cid : String}

theorem tryProofs_ok_split {cids : List String}
    (hok : tryProofs libraries now proofResolver resource ability validateParent ucan
      cids = some (.ok ())) :
    ∃ before cid after parent, cids = before ++ cid :: after ∧
      resolveParent libraries now proofResolver ucan cid = some parent ∧
      Grants resource ability parent ∧ validateParent parent = some (.ok ()) ∧
      ∀ other ∈ before, ∀ passed,
        resolveParent libraries now proofResolver ucan other = some passed →
          Grants resource ability passed ∧
            ∃ error, validateParent passed = some (.error error) := by
  induction cids with
  | nil => cases hok
  | cons first cids ih =>
      cases hfirst : resolveParent libraries now proofResolver ucan first with
      | none =>
          rw [tryProofs_skip hfirst] at hok
          obtain ⟨before, cid, after, parent, rfl, hparent, hgrants, hvalid, hpassed⟩ := ih hok
          refine ⟨first :: before, cid, after, parent, rfl, hparent, hgrants, hvalid, ?_⟩
          intro other hother passed hresolved
          rcases List.mem_cons.mp hother with rfl | hother
          · cases hfirst.symm.trans hresolved
          · exact hpassed other hother passed hresolved
      | some parent =>
          by_cases hgrants : Grants resource ability parent
          · cases hvalid : validateParent parent with
            | none =>
                rw [tryProofs_wait hfirst hgrants hvalid] at hok
                cases hok
            | some outcome =>
                cases outcome with
                | ok valid =>
                    exact ⟨[], first, cids, parent, rfl, hfirst, hgrants, hvalid, by simp⟩
                | error error =>
                    rw [tryProofs_pass hfirst hgrants hvalid] at hok
                    obtain ⟨before, cid, after, found, rfl, hfound, hgranted, haccepted,
                      hpassed⟩ := ih hok
                    refine ⟨first :: before, cid, after, found, rfl, hfound, hgranted,
                      haccepted, ?_⟩
                    intro other hother passed hresolved
                    rcases List.mem_cons.mp hother with rfl | hother
                    · obtain rfl : parent = passed :=
                        Option.some.inj (hfirst.symm.trans hresolved)
                      exact ⟨hgrants, error, hvalid⟩
                    · exact hpassed other hother passed hresolved
          · rw [tryProofs_block hfirst hgrants] at hok
            cases hok

theorem tryProofs_error_tried {cids : List String} {failure : UcanError}
    (herror : tryProofs libraries now proofResolver resource ability validateParent ucan
      cids = some (.error failure)) {before after : List String}
    (hcids : cids = before ++ cid :: after)
    (hbefore : ∀ other ∈ before,
      ¬ Blocks libraries now proofResolver resource ability ucan other)
    (hparent : resolveParent libraries now proofResolver ucan cid = some parent)
    (hgrants : Grants resource ability parent) :
    ∃ error, validateParent parent = some (.error error) := by
  induction before generalizing cids with
  | nil =>
      rw [hcids, List.nil_append] at herror
      cases hvalid : validateParent parent with
      | none =>
          rw [tryProofs_wait hparent hgrants hvalid] at herror
          cases herror
      | some outcome =>
          cases outcome with
          | ok valid =>
              rw [tryProofs_accept hparent hgrants hvalid] at herror
              cases herror
          | error error => exact ⟨error, rfl⟩
  | cons first before ih =>
      have hrest := fun other hother => hbefore other (List.mem_cons_of_mem _ hother)
      rw [hcids, List.cons_append] at herror
      cases hfirst : resolveParent libraries now proofResolver ucan first with
      | none =>
          rw [tryProofs_skip hfirst] at herror
          exact ih herror rfl hrest
      | some passed =>
          have hpassed : Grants resource ability passed :=
            not_not.mp fun hnot => hbefore first List.mem_cons_self ⟨passed, hfirst, hnot⟩
          cases hvalid : validateParent passed with
          | none =>
              rw [tryProofs_wait hfirst hpassed hvalid] at herror
              cases herror
          | some outcome =>
              cases outcome with
              | ok valid =>
                  rw [tryProofs_accept hfirst hpassed hvalid] at herror
                  cases herror
              | error error =>
                  rw [tryProofs_pass hfirst hpassed hvalid] at herror
                  exact ih herror rfl hrest

theorem tryProofs_reaches {before after : List String}
    (hpassable : Passable libraries now proofResolver root resource ability ucan before)
    (hparent : resolveParent libraries now proofResolver ucan cid = some parent)
    (hgrants : Grants resource ability parent)
    (haccepted : Accepted libraries now proofResolver root resource ability parent) :
    ∃ fuel, ∀ more, fuel ≤ more →
      tryProofs libraries now proofResolver resource ability
        (validateUcanPermission libraries now proofResolver root resource ability more)
          ucan (before ++ cid :: after) = some (.ok ()) := by
  induction before with
  | nil =>
      obtain ⟨fuel, hvalid⟩ := haccepted
      exact ⟨fuel, fun more hmore => tryProofs_accept hparent hgrants (hvalid more hmore)⟩
  | cons first before ih =>
      obtain ⟨restFuel, hrest⟩ :=
        ih fun other hother => hpassable other (List.mem_cons_of_mem _ hother)
      cases hfirst : resolveParent libraries now proofResolver ucan first with
      | none =>
          refine ⟨restFuel, fun more hmore => ?_⟩
          rw [List.cons_append, tryProofs_skip hfirst]
          exact hrest more hmore
      | some passed =>
          obtain ⟨hpassed, hacc⟩ := hpassable first List.mem_cons_self passed hfirst
          obtain ⟨fuel, result, hresult⟩ := returns_of_acc hacc
          cases result with
          | ok valid =>
              exact ⟨fuel, fun more hmore =>
                tryProofs_accept hfirst hpassed (hresult more hmore)⟩
          | error error =>
              refine ⟨max fuel restFuel, fun more hmore => ?_⟩
              have hvalid := hresult more (le_trans (le_max_left _ _) hmore)
              rw [List.cons_append, tryProofs_pass hfirst hpassed hvalid]
              exact hrest more (le_trans (le_max_right _ _) hmore)

end Loop

theorem validateUcanPermission_tries {ucan : Ucan} {before after : List String}
    {cid : String} (fuel : Nat)
    (hdelegated : verifyDidKeyMatch libraries ucan.issuer root = .error .publicKeyMismatch)
    (hproofs : ucan.proofs = some (before ++ cid :: after)) :
    validateUcanPermission libraries now proofResolver root resource ability (fuel + 1)
        ucan =
      tryProofs libraries now proofResolver resource ability
        (validateUcanPermission libraries now proofResolver root resource ability fuel)
          ucan (before ++ cid :: after) := by
  cases before with
  | nil => simp only [validateUcanPermission, hdelegated, hproofs, List.nil_append]
  | cons first before =>
      simp only [validateUcanPermission, hdelegated, hproofs, List.cons_append]

theorem ClearChain.accepted {ucan : Ucan}
    (hchain : ClearChain libraries now proofResolver root resource ability ucan) :
    Accepted libraries now proofResolver root resource ability ucan := by
  induction hchain with
  | root hroot =>
      refine ⟨1, fun more hmore => ?_⟩
      obtain ⟨more, rfl⟩ := Nat.exists_eq_add_one.mpr hmore
      unfold IssuedBy at hroot
      simp only [validateUcanPermission, hroot]
  | delegated hdelegated hproofs hpassable hparent hgrants _ ih =>
      obtain ⟨fuel, hreaches⟩ := tryProofs_reaches hpassable hparent hgrants ih
      refine ⟨fuel + 1, fun more hmore => ?_⟩
      obtain ⟨more, rfl⟩ := Nat.exists_eq_add_one.mpr (Nat.zero_lt_of_lt hmore)
      rw [validateUcanPermission_tries more hdelegated hproofs]
      exact hreaches more (Nat.le_of_succ_le_succ hmore)

theorem validateUcanPermission_cases (fuel : Nat) (ucan : Ucan) :
    (validateUcanPermission libraries now proofResolver root resource ability fuel ucan =
        some (.ok ()) →
      ClearChain libraries now proofResolver root resource ability ucan) ∧
    ∀ error,
      validateUcanPermission libraries now proofResolver root resource ability fuel ucan =
        some (.error error) →
      Acc (fun parent child =>
        Explores libraries now proofResolver root resource ability child parent) ucan := by
  induction fuel generalizing ucan with
  | zero =>
      constructor
      · intro hok
        cases hok
      · intro error herror
        cases herror
  | succ fuel ih =>
      constructor
      · intro hok
        unfold validateUcanPermission at hok
        split at hok
        · next hroot => exact .root hroot
        · next hdelegated =>
            split at hok
            · cases hok
            · cases hok
            · next proofs _ hproofs =>
                obtain ⟨before, cid, after, parent, rfl, hparent, hgrants, hvalid, hpassed⟩ :=
                  tryProofs_ok_split hok
                refine .delegated hdelegated hproofs ?_ hparent hgrants ((ih parent).1 hvalid)
                intro other hother passed hresolved
                obtain ⟨hgranted, error, herror⟩ := hpassed other hother passed hresolved
                exact ⟨hgranted, (ih passed).2 error herror⟩
        · cases hok
      · intro error herror
        refine .intro ucan fun parent hexplores => ?_
        obtain ⟨before, cid, after, hproofs, hbefore, hparent⟩ := hexplores.proof
        rw [validateUcanPermission_tries fuel hexplores.delegated hproofs] at herror
        obtain ⟨failure, hfailure⟩ :=
          tryProofs_error_tried herror rfl hbefore hparent hexplores.grants
        exact (ih parent).2 failure hfailure

theorem accepted_iff_clearChain {ucan : Ucan} :
    Accepted libraries now proofResolver root resource ability ucan ↔
      ClearChain libraries now proofResolver root resource ability ucan := by
  constructor
  · rintro ⟨fuel, hvalid⟩
    exact (validateUcanPermission_cases fuel ucan).1 (hvalid fuel le_rfl)
  · exact ClearChain.accepted

end Search

/-- The parent is the token of some share record under one of the proofs, and is
addressed to the child's issuer. -/
structure StoredParent (libraries : UcanLibraries) (now : Int) (ctx : RepositoryContext)
    (child parent : Ucan) : Prop where
  stored : ∃ record ∈ ctx.shareRecords, record.ucanCid ∈ child.proofs.getD [] ∧
    validateStructure libraries now record.ucanToken = .ok parent
  audience_eq : parent.audience = child.issuer

/-- A path of stored tokens leads up to one that the root key has issued, and each of
them grants the ability. -/
def LeadsToRoot (libraries : UcanLibraries) (now : Int) (ctx : RepositoryContext)
    (root resource ability : String) (ucan : Ucan) : Prop :=
  ∃ chain, DelegationChain
    (fun child parent => StoredParent libraries now ctx child parent ∧
      Grants resource ability parent)
    (IssuedBy libraries root) ucan chain

theorem resolveProof_of_record {ctx : RepositoryContext} {record : ShareRecord}
    (hcids : ∀ other ∈ ctx.shareRecords, other.ucanCid = record.ucanCid →
      other.ucanToken = record.ucanToken)
    (hrecord : record ∈ ctx.shareRecords) :
    resolveProof ctx record.ucanCid = .ok record.ucanToken := by
  unfold resolveProof ShareRepo.getUcanByCid
  cases hfound : ctx.shareRecords.find? fun other =>
      decide (other.ucanCid = record.ucanCid) with
  | none =>
      have hnot := List.find?_eq_none.mp hfound record hrecord
      rw [decide_eq_true rfl] at hnot
      exact absurd rfl hnot
  | some other =>
      have hsame := hcids other (List.mem_of_find?_eq_some hfound)
        (by simpa using List.find?_some hfound)
      exact congrArg Except.ok hsame

/-- The tokens that can be reached through proofs grant the ability and are issued by DIDs
that are read, and there is no endless chain of them. -/
structure Orderly (libraries : UcanLibraries) (now : Int) (ctx : RepositoryContext)
    (root resource ability : String) (ucan : Ucan) : Prop where
  grants : ∀ child, Relation.ReflTransGen (Delegates libraries now (resolveProof ctx)) ucan child →
    ∀ parent, Delegates libraries now (resolveProof ctx) child parent →
      Grants resource ability parent
  reads : ∀ child, Relation.ReflTransGen (Delegates libraries now (resolveProof ctx)) ucan child →
    ∀ error, verifyDidKeyMatch libraries child.issuer root = .error error →
      error = .publicKeyMismatch
  ends : Acc (fun parent child => Delegates libraries now (resolveProof ctx) child parent) ucan

theorem Orderly.parent {libraries : UcanLibraries} {now : Int} {ctx : RepositoryContext}
    {root resource ability : String} {child parent : Ucan}
    (horderly : Orderly libraries now ctx root resource ability child)
    (hdelegates : Delegates libraries now (resolveProof ctx) child parent) :
    Orderly libraries now ctx root resource ability parent where
  grants other hother := horderly.grants other (.head hdelegates hother)
  reads other hother := horderly.reads other (.head hdelegates hother)
  ends := horderly.ends.inv hdelegates

theorem LeadsToRoot.clearChain {libraries : UcanLibraries} {now : Int}
    {ctx : RepositoryContext} {root resource ability : String} {ucan : Ucan}
    (hleads : LeadsToRoot libraries now ctx root resource ability ucan)
    (hcids : ∀ record ∈ ctx.shareRecords, ∀ other ∈ ctx.shareRecords,
      other.ucanCid = record.ucanCid → other.ucanToken = record.ucanToken)
    (horderly : Orderly libraries now ctx root resource ability ucan) :
    ClearChain libraries now (resolveProof ctx) root resource ability ucan := by
  obtain ⟨chain, hchain⟩ := hleads
  induction hchain with
  | root hroot => exact .root hroot
  | @delegated child parent chain hlink _ ih =>
      cases hissuer : verifyDidKeyMatch libraries child.issuer root with
      | ok valid => exact .root hissuer
      | error error =>
          rw [horderly.reads child .refl error hissuer] at hissuer
          obtain ⟨record, hrecord, hcid, hvalid⟩ := hlink.1.stored
          have hresolved := resolveProof_of_record (hcids record hrecord) hrecord
          have hparent : resolveParent libraries now (resolveProof ctx) child record.ucanCid =
              some parent := by
            simp only [resolveParent, hresolved, hvalid, hlink.1.audience_eq]
            simp
          have hdelegated := resolveParent_delegates hparent hcid
          obtain ⟨proofs, hproofs⟩ : ∃ proofs, child.proofs = some proofs := by
            cases hproofs : child.proofs with
            | none => simp [hproofs] at hcid
            | some proofs => exact ⟨proofs, rfl⟩
          rw [hproofs, Option.getD_some] at hcid
          obtain ⟨before, after, rfl⟩ := List.append_of_mem hcid
          refine .delegated hissuer hproofs ?_ hparent hlink.2 (ih (horderly.parent hdelegated))
          intro other hother passed hpassed
          have hdelegates : Delegates libraries now (resolveProof ctx) child passed :=
            resolveParent_delegates hpassed (by simp [hproofs, hother])
          refine ⟨horderly.grants child .refl passed hdelegates, ?_⟩
          exact Subrelation.accessible (fun hexplores => hexplores.delegates)
            (horderly.ends.inv hdelegates)

/-- Where the proofs are in order, and a CID stands for one token, the search finds whatever
path there is in the store. -/
theorem search_finds_stored (libraries : UcanLibraries) (now : Int) (ctx : RepositoryContext)
    (root resource ability : String) (ucan : Ucan)
    (hcids : ∀ record ∈ ctx.shareRecords, ∀ other ∈ ctx.shareRecords,
      other.ucanCid = record.ucanCid → other.ucanToken = record.ucanToken)
    (horderly : Orderly libraries now ctx root resource ability ucan)
    (hleads : LeadsToRoot libraries now ctx root resource ability ucan) :
    Accepted libraries now (resolveProof ctx) root resource ability ucan :=
  accepted_iff_clearChain.mpr (hleads.clearChain hcids horderly)

/-- The search finds what there is to be found exactly where one of the chains is
clear. -/
theorem search_complete_iff (libraries : UcanLibraries) (now : Int)
    (ctx : RepositoryContext) (root resource ability : String) (ucan : Ucan) :
    (LeadsToRoot libraries now ctx root resource ability ucan →
        Accepted libraries now (resolveProof ctx) root resource ability ucan) ↔
      (LeadsToRoot libraries now ctx root resource ability ucan →
        ClearChain libraries now (resolveProof ctx) root resource ability ucan) := by
  rw [accepted_iff_clearChain]

def twoProofTokens : List (String × Ucan) :=
  [("other", { issuer := "did:key:z..R", audience := "did:key:z..P"
               capabilities := [⟨"livnote:resource:b", "crud/update"⟩] }),
    ("granted", { issuer := "did:key:z..R", audience := "did:key:z..P"
                  capabilities := [⟨"livnote:resource:a", "crud/update"⟩] })]

def twoProofToken : Ucan :=
  { issuer := "did:key:z..P", audience := "did:key:z..X"
    capabilities := [⟨"livnote:resource:a", "crud/update"⟩]
    proofs := some ["other", "granted"] }

def twoProofStore : RepositoryContext :=
  { shareRecords :=
      [.prepareShareRecord "share-b" 0 "b" "R" "P" .write "other" "other",
        .prepareShareRecord "share-a" 0 "a" "R" "P" .write "granted" "granted"] }

/-- The second proof leads to `R`, and the first one has the token refused. -/
theorem not_accepted_twoProofToken :
    LeadsToRoot (tabledLibraries twoProofTokens) 0 twoProofStore "R" "livnote:resource:a"
        "crud/update" twoProofToken ∧
      ¬ Accepted (tabledLibraries twoProofTokens) 0 (resolveProof twoProofStore) "R"
        "livnote:resource:a" "crud/update" twoProofToken := by
  constructor
  · have hrecord : ShareRecord.prepareShareRecord "share-a" 0 "a" "R" "P" .write "granted"
        "granted" ∈ twoProofStore.shareRecords := List.mem_cons_of_mem _ List.mem_cons_self
    refine ⟨_, .delegated ⟨⟨⟨_, hrecord, ?_, rfl⟩, rfl⟩, ?_⟩ (.root ?_)⟩
    · decide
    · exact rfl
    · exact rfl
  · rintro ⟨fuel, haccepted⟩
    have hrefused : validateUcanPermission (tabledLibraries twoProofTokens) 0
        (resolveProof twoProofStore) "R" "livnote:resource:a" "crud/update" (fuel + 1)
          twoProofToken = some (.error .delegationNotPermitted) := by
      rfl
    cases hrefused.symm.trans (haccepted (fuel + 1) (Nat.le_succ fuel))

def oneProofToken : Ucan := { twoProofToken with proofs := some ["granted"] }

def oneProofStore : RepositoryContext :=
  { shareRecords := [.prepareShareRecord "share-a" 0 "a" "R" "P" .write "granted" "granted"] }

def grantedUcan : Ucan :=
  { issuer := "did:key:z..R", audience := "did:key:z..P"
    capabilities := [⟨"livnote:resource:a", "crud/update"⟩] }

theorem delegates_oneProof {child parent : Ucan} (hdelegates : Delegates
    (tabledLibraries twoProofTokens) 0 (resolveProof oneProofStore) child parent) :
    child.proofs ≠ none ∧ parent = grantedUcan := by
  obtain ⟨⟨cid, hcid, token, hresolved, hvalid⟩, -⟩ := hdelegates
  have htoken : token = "granted" := by
    by_cases hfound : "granted" = cid
    · subst hfound
      exact (Except.ok.inj hresolved).symm
    · simp [resolveProof, ShareRepo.getUcanByCid, oneProofStore, firstOrNotFound, hfound,
        ShareRecord.prepareShareRecord, Except.map] at hresolved
  subst htoken
  refine ⟨?_, (Except.ok.inj hvalid).symm⟩
  intro hnone
  simp [hnone] at hcid

theorem search_finds_stored_oneProofToken :
    Accepted (tabledLibraries twoProofTokens) 0 (resolveProof oneProofStore) "R"
      "livnote:resource:a" "crud/update" oneProofToken := by
  have hrecord : ShareRecord.prepareShareRecord "share-a" 0 "a" "R" "P" .write "granted"
      "granted" ∈ oneProofStore.shareRecords := List.mem_cons_self
  apply search_finds_stored
  · simp [oneProofStore]
  · refine ⟨fun child _ parent hdelegates => ?_, fun child hreached error herror => ?_, ?_⟩
    · rw [(delegates_oneProof hdelegates).2]
      rfl
    · rcases hreached.cases_tail with rfl | ⟨between, -, hdelegates⟩
      · exact (Except.error.inj herror).symm
      · rw [(delegates_oneProof hdelegates).2] at herror
        cases herror
    · refine ⟨_, fun parent hdelegates => ?_⟩
      rw [(delegates_oneProof hdelegates).2]
      exact ⟨_, fun other hother => absurd rfl (delegates_oneProof hother).1⟩
  · exact ⟨_, .delegated ⟨⟨⟨_, hrecord, by decide, rfl⟩, rfl⟩, rfl⟩ (.root rfl)⟩

end Osvauld.Services
