import Osvauld.CryptoUtils.ConnectTokens
import Osvauld.Data.DelegationChain

namespace Osvauld.CryptoUtils

open Osvauld.Core Data

/-! What an accepted connect token stands for: a token given out once, or a chain
of tokens, each inside the facts of the one before. -/

def CarriesUse (resource : String) (ucan : Ucan) : Prop :=
  ∃ capability ∈ ucan.capabilities, capability.grants resource "use" = true

def connectResource (domain userId : String) : String :=
  domain ++ ":user-connect:" ++ userId

section Chains

variable (libraries : UcanLibraries) (now : Int)

def RootedIn (rootUcanPub : String) (ucan : Ucan) : Prop :=
  verifyDidKeyMatch libraries ucan.issuer rootUcanPub = .ok ()

structure Embeds (child parent : Ucan) : Prop where
  embedded : ∃ text cid, embeddedProof? child = some text ∧
    validateStructure libraries now text = .ok parent ∧
      getUcanCid libraries text = .ok cid ∧ ∀ cids, child.proofs = some cids → cid ∈ cids
  audience_eq : parent.audience = child.issuer

structure LeadsTo (rootUcanPub resource : String) (child parent : Ucan) : Prop where
  unrooted : ¬ RootedIn libraries rootUcanPub child
  embeds : Embeds libraries now child parent
  carries : CarriesUse resource parent

abbrev ConnectChain (rootUcanPub resource : String) : Ucan → List Ucan → Prop :=
  DelegationChain (LeadsTo libraries now rootUcanPub resource) (RootedIn libraries rootUcanPub)

structure Presents (resource : String) (audience : Option String) (token : String)
    (leaf : Ucan) : Prop where
  valid : validateStructure libraries now token = .ok leaf
  audience_eq : ∀ did, audience = some did → leaf.audience = did
  carries : CarriesUse resource leaf

end Chains

section Follow

variable {libraries : UcanLibraries} {now : Int} {userId rootUcanPub domain : String}

variable {resource : String}

theorem checkCapability_eq_ok {ucan : Ucan} :
    checkCapability ucan resource "use" = .ok () ↔ CarriesUse resource ucan := by
  unfold checkCapability
  split
  · next hany => exact iff_of_true rfl (by simpa [CarriesUse] using hany)
  · next hnone =>
      refine iff_of_false (fun herror => nomatch herror) fun hcarries => hnone ?_
      simpa [CarriesUse] using hcarries

theorem unless_eq_ok {refuse : Prop} [Decidable refuse] {error : UcanError} {α : Type}
    {rest : Unit → Except UcanError α} {result : α} :
    (if refuse then (throw error : Except UcanError Unit) >>= rest else rest ()) = .ok result ↔
      ¬ refuse ∧ rest () = .ok result := by
  by_cases hrefuse : refuse
  · rw [if_pos hrefuse]
    exact iff_of_false (fun heq => nomatch heq) fun hboth => hboth.1 hrefuse
  · rw [if_neg hrefuse]
    exact (and_iff_right hrefuse).symm

theorem any_eq_false_iff {α : Type} {option : Option α} {test : α → Bool} :
    option.any test = false ↔ ∀ value, option = some value → test value = false := by
  cases option with
  | none => simp
  | some value => simp

theorem isOk_iff {result : Except UcanError Unit} : result.isOk = true ↔ result = .ok () := by
  cases result with
  | error error => exact iff_of_false Bool.false_ne_true fun heq => nomatch heq
  | ok value => exact iff_of_true rfl rfl

theorem validateEmbeddedProofChain_succ {fuel : Nat} {token : String}
    {audience : Option String} :
    validateEmbeddedProofChain libraries now userId rootUcanPub domain (fuel + 1) token
        audience = .ok () ↔
      ∃ leaf, Presents libraries now (connectResource domain userId) audience token
          leaf ∧
        (RootedIn libraries rootUcanPub leaf ∨
          ¬ RootedIn libraries rootUcanPub leaf ∧ ∃ text cid,
            embeddedProof? leaf = some text ∧ getUcanCid libraries text = .ok cid ∧
              (∀ cids, leaf.proofs = some cids → cid ∈ cids) ∧
                validateEmbeddedProofChain libraries now userId rootUcanPub domain fuel text
                  (some leaf.issuer) = .ok ()) := by
  rw [validateEmbeddedProofChain, bind_eq_ok]
  simp only [unless_eq_ok, bind_eq_ok]
  refine exists_congr fun leaf => ⟨?_, ?_⟩
  · rintro ⟨hvalid, haudience, ⟨⟩, hcarries, hrest⟩
    have hpresents : Presents libraries now (connectResource domain userId) audience token
        leaf :=
      ⟨hvalid, by simpa [any_eq_false_iff] using haudience,
        checkCapability_eq_ok.mp hcarries⟩
    refine ⟨hpresents, ?_⟩
    by_cases hroot : RootedIn libraries rootUcanPub leaf
    · exact .inl hroot
    rw [if_neg (by rwa [isOk_iff])] at hrest
    refine .inr ⟨hroot, ?_⟩
    cases htext : embeddedProof? leaf with
    | none =>
        rw [htext] at hrest
        cases hrest
    | some text =>
        rw [htext] at hrest
        simp only [bind_eq_ok, unless_eq_ok] at hrest
        obtain ⟨cid, hcid, hlisted, hchain⟩ := hrest
        exact ⟨text, cid, rfl, hcid, by simpa [any_eq_false_iff] using hlisted, hchain⟩
  · rintro ⟨hpresents, hrest⟩
    refine ⟨hpresents.valid, ?_, (), checkCapability_eq_ok.mpr hpresents.carries, ?_⟩
    · simpa [any_eq_false_iff] using hpresents.audience_eq
    rcases hrest with hroot | ⟨hroot, text, cid, htext, hcid, hlisted, hchain⟩
    · rw [if_pos (isOk_iff.mpr hroot)]
      rfl
    · rw [if_neg (by rwa [isOk_iff]), htext]
      simp only [bind_eq_ok, unless_eq_ok]
      exact ⟨cid, hcid, by simpa [any_eq_false_iff] using hlisted, hchain⟩

theorem validateEmbeddedProofChain_eq_ok_iff {fuel : Nat} {token : String}
    {audience : Option String} :
    validateEmbeddedProofChain libraries now userId rootUcanPub domain fuel token audience =
        .ok () ↔
      ∃ leaf chain, Presents libraries now (connectResource domain userId) audience token leaf ∧
        ConnectChain libraries now rootUcanPub (connectResource domain userId) leaf chain ∧
          chain.length ≤ fuel := by
  induction fuel generalizing token audience with
  | zero =>
      refine iff_of_false (fun heq => nomatch heq) ?_
      rintro ⟨leaf, chain, -, hchain, hlength⟩
      exact absurd (List.length_pos_of_mem hchain.leaf_mem) (by omega)
  | succ fuel ih =>
      rw [validateEmbeddedProofChain_succ]
      constructor
      · rintro ⟨leaf, hpresents, hroot | ⟨hroot, text, cid, htext, hcid, hlisted, hrest⟩⟩
        · exact ⟨leaf, [leaf], hpresents, .root hroot, by simp⟩
        obtain ⟨parent, chain, hparent, hchain, hlength⟩ := ih.mp hrest
        have hembeds : Embeds libraries now leaf parent :=
          ⟨⟨text, cid, htext, hparent.valid, hcid, hlisted⟩, hparent.audience_eq _ rfl⟩
        exact ⟨leaf, leaf :: chain, hpresents,
          .delegated ⟨hroot, hembeds, hparent.carries⟩ hchain, Nat.succ_le_succ hlength⟩
      · rintro ⟨leaf, chain, hpresents, hchain, hlength⟩
        refine ⟨leaf, hpresents, ?_⟩
        cases hchain with
        | root hroot => exact .inl hroot
        | delegated hlink htail =>
            obtain ⟨text, cid, htext, hvalid, hcid, hlisted⟩ := hlink.embeds.embedded
            refine .inr ⟨hlink.unrooted, text, cid, htext, hcid, hlisted, ih.mpr ?_⟩
            refine ⟨_, _, ⟨hvalid, ?_, hlink.carries⟩, htail, Nat.le_of_succ_le_succ hlength⟩
            rintro did ⟨⟩
            exact hlink.embeds.audience_eq

structure GivenOutOnce (libraries : UcanLibraries) (rootUcanPub resource : String)
    (ucan : Ucan) : Prop where
  audience_eq : ucan.audience = "*"
  rooted : RootedIn libraries rootUcanPub ucan
  carries : CarriesUse resource ucan

variable {token presenterUcanPub : String}

theorem validateAudience_eq_ok_iff {ucan : Ucan} :
    validateAudience libraries ucan presenterUcanPub = .ok () ↔
      verifyDidKeyMatch libraries ucan.audience presenterUcanPub = .ok () := by
  unfold validateAudience
  split
  · next herror => exact iff_of_false (fun heq => nomatch heq) (by simp [herror])
  · exact Iff.rfl

theorem validateConnectToken_eq_ok_iff :
    validateConnectToken libraries now token presenterUcanPub rootUcanPub userId domain =
        .ok true ↔
      ∃ ucan, validateStructure libraries now token = .ok ucan ∧
        (isOneTimeConnectToken ucan domain = true ∧ RootedIn libraries rootUcanPub ucan ∧
            CarriesUse (connectResource domain userId) ucan ∨
          isOneTimeConnectToken ucan domain = false ∧
            verifyDidKeyMatch libraries ucan.audience presenterUcanPub = .ok () ∧
              CarriesUse (connectResource domain userId) ucan ∧
                ∃ chain, ConnectChain libraries now rootUcanPub
                  (connectResource domain userId) ucan chain ∧
                    chain.length ≤ token.length + 1) := by
  unfold validateConnectToken
  rw [bind_eq_ok]
  refine exists_congr fun ucan => and_congr_right fun hvalid => ?_
  cases honce : isOneTimeConnectToken ucan domain with
  | true =>
      simp only [if_true, bind_eq_ok]
      constructor
      · rintro ⟨⟨⟩, hroot, ⟨⟩, hcarries, -⟩
        exact .inl ⟨trivial, hroot, checkCapability_eq_ok.mp hcarries⟩
      · rintro (⟨-, hroot, hcarries⟩ | ⟨hfalse, -⟩)
        · exact ⟨(), hroot, (), checkCapability_eq_ok.mpr hcarries, rfl⟩
        · cases hfalse
  | false =>
      simp only [Bool.false_eq_true, if_false, bind_eq_ok]
      constructor
      · rintro ⟨⟨⟩, haudience, ⟨⟩, hchained, -⟩
        obtain ⟨leaf, chain, hpresents, hchain, hlength⟩ :=
          validateEmbeddedProofChain_eq_ok_iff.mp hchained
        obtain rfl : ucan = leaf := Except.ok.inj (hvalid.symm.trans hpresents.valid)
        exact .inr ⟨trivial, validateAudience_eq_ok_iff.mp haudience, hpresents.carries,
          chain, hchain, hlength⟩
      · rintro (⟨hfalse, -⟩ | ⟨-, haudience, hcarries, chain, hchain, hlength⟩)
        · exact hfalse.elim
        · exact ⟨(), validateAudience_eq_ok_iff.mpr haudience, (),
            validateEmbeddedProofChain_eq_ok_iff.mpr
              ⟨ucan, chain, ⟨hvalid, by simp, hcarries⟩, hchain, hlength⟩, rfl⟩

theorem GivenOutOnce.of_oneTime {ucan : Ucan} (honce : isOneTimeConnectToken ucan domain = true)
    (hroot : RootedIn libraries rootUcanPub ucan) (hcarries : CarriesUse resource ucan) :
    GivenOutOnce libraries rootUcanPub resource ucan := by
  unfold isOneTimeConnectToken at honce
  rw [Bool.and_eq_true] at honce
  exact ⟨by simpa using honce.1, hroot, hcarries⟩

/-- A chain of valid tokens from the presenter to the root, each with a `use`. -/
structure Vouches (libraries : UcanLibraries) (now : Int) (rootUcanPub resource : String)
    (leaf : Ucan) (chain : List Ucan) : Prop where
  chained : DelegationChain (Embeds libraries now) (RootedIn libraries rootUcanPub) leaf chain
  valid : ∀ ucan ∈ chain, ∃ text, validateStructure libraries now text = .ok ucan
  carries : ∀ ucan ∈ chain, CarriesUse resource ucan

theorem vouches_of_connectChain {leaf : Ucan} {chain : List Ucan}
    (hvalid : validateStructure libraries now token = .ok leaf)
    (hcarries : CarriesUse resource leaf)
    (hchain : ConnectChain libraries now rootUcanPub resource leaf chain) :
    Vouches libraries now rootUcanPub resource leaf chain where
  chained := hchain.mono (fun _ _ hlink => hlink.embeds) fun _ hroot => hroot
  valid := hchain.forall_mem (fun _ _ hlink =>
    let ⟨text, _, _, hparent, _⟩ := hlink.embeds.embedded
    ⟨text, hparent⟩) ⟨token, hvalid⟩
  carries := hchain.forall_mem (fun _ _ hlink => hlink.carries) hcarries

/-- An accepted connect token has been given out by the root for everyone, or the
presenter is the audience of a chain that the root has begun. -/
theorem connect_token_sound
    (haccepted : validateConnectToken libraries now token presenterUcanPub rootUcanPub userId
      domain = .ok true) :
    ∃ leaf, validateStructure libraries now token = .ok leaf ∧
      (GivenOutOnce libraries rootUcanPub (connectResource domain userId) leaf ∨
        verifyDidKeyMatch libraries leaf.audience presenterUcanPub = .ok () ∧
          ∃ chain, Vouches libraries now rootUcanPub (connectResource domain userId) leaf
            chain) := by
  obtain ⟨leaf, hvalid, ⟨honce, hroot, hcarries⟩ | ⟨-, haudience, hcarries, chain, hchain, -⟩⟩ :=
    validateConnectToken_eq_ok_iff.mp haccepted
  · exact ⟨leaf, hvalid, .inl (.of_oneTime honce hroot hcarries)⟩
  · exact ⟨leaf, hvalid, .inr ⟨haudience, chain,
      vouches_of_connectChain hvalid hcarries hchain⟩⟩

end Follow

def introducedTokens : List (String × Ucan) :=
  let did key := didOfKey (tabledLibraries []) (textBytes key)
  let capabilities := [connectCapability "livnote" "V"]
  [("grant", { issuer := did "V", audience := did "P", capabilities, signedData := "cid" }),
    ("introduction",
      { issuer := did "P", audience := did "Q", capabilities, proofs := some ["cid"]
        facts := some [("proof", .string "grant")] })]

theorem connect_token_sound_introduced :
    ∃ leaf, validateStructure (tabledLibraries introducedTokens) 0 "introduction" = .ok leaf ∧
      (GivenOutOnce (tabledLibraries introducedTokens) "V" (connectResource "livnote" "V")
          leaf ∨
        verifyDidKeyMatch (tabledLibraries introducedTokens) leaf.audience "Q" = .ok () ∧
          ∃ chain, Vouches (tabledLibraries introducedTokens) 0 "V"
            (connectResource "livnote" "V") leaf chain) :=
  connect_token_sound (by decide +kernel)

end Osvauld.CryptoUtils
