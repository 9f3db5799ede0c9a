import Mathlib.Data.List.TakeWhile
import Osvauld.CryptoUtils.ConnectChains

namespace Osvauld.CryptoUtils

open Osvauld.Core Data

/-! Connect tokens made for a third user out of the token of a contact. -/

section Introductions

variable {libraries : UcanLibraries} {now : Int} {userId rootUcanPub domain : String}

variable (libraries now userId domain) in
def introductionRequest (signingKey audienceKey : Bytes) (parent : Ucan)
    (parentToken : String) : UcanRequest :=
  { signingKey
    issuer := didOfKey libraries (libraries.verifyingKey signingKey)
    audience := didOfKey libraries audienceKey, issuedAt := now
    lifetimeSeconds := thirtyYears
    capabilities := [connectCapability domain userId]
    witnessedBy := some parent
    facts := [("proof", .string parentToken)] }

structure Introduces (libraries : UcanLibraries) (request : UcanRequest)
    (parentToken : String) (ucan : Ucan) (token : String) : Prop
    extends Verifies libraries request ucan token where
  facts : ucan.facts = some request.facts
  proofs : ∃ cid, CryptoUtils.getUcanCid libraries parentToken = .ok cid ∧
    ucan.proofs = some [cid]
  longer : parentToken.length < token.length

variable {token : String}

theorem validateStructure_eq_ok_iff {ucan : Ucan} :
    validateStructure libraries now token = .ok ucan ↔
      parseToken libraries token = .ok ucan ∧ libraries.crate.validate ucan now = .ok () := by
  unfold validateStructure
  rw [bind_eq_ok]
  constructor
  · rintro ⟨parsed, hparsed, hrest⟩
    split at hrest
    · cases hrest
    · next hvalid =>
        cases hrest
        exact ⟨hparsed, hvalid⟩
  · rintro ⟨hparsed, hvalid⟩
    exact ⟨ucan, hparsed, by simp only [hvalid]⟩

theorem parsed_of_validateStructure {ucan : Ucan}
    (hvalid : validateStructure libraries now token = .ok ucan) :
    parseToken libraries token = .ok ucan :=
  (validateStructure_eq_ok_iff.mp hvalid).1

section Introduce

variable {signingKey audienceKey : Bytes} {parent ucan : Ucan} {parentToken token : String}
variable (hintroduces : Introduces libraries (introductionRequest libraries now userId domain
  signingKey audienceKey parent parentToken) parentToken ucan token)

include hintroduces

theorem Introduces.validateStructure_eq : validateStructure libraries now token = .ok ucan := by
  refine hintroduces.validateStructure (Int.le_refl now) ?_
  change now < now + thirtyYears
  unfold thirtyYears
  omega

theorem Introduces.carries : CarriesUse (connectResource domain userId) ucan := by
  refine ⟨connectCapability domain userId, ?_, grants_self _ _⟩
  rw [hintroduces.capabilities]
  exact List.mem_cons_self

theorem Introduces.embedded : embeddedProof? ucan = some parentToken := by
  simp [embeddedProof?, hintroduces.facts, introductionRequest, Value.get]

theorem Introduces.not_oneTime : isOneTimeConnectToken ucan domain = false := by
  simp [isOneTimeConnectToken, hintroduces.audience, introductionRequest, didOfKey_ne_star]

variable (hencodings : LawfulEncodings libraries.encodings)

include hencodings

theorem Introduces.generated (hparsed : parseToken libraries parentToken = .ok parent) :
    generateDelegatedUserConnectionToken libraries now signingKey userId
      (libraries.encodings.base64Encode audienceKey) domain parentToken = .ok token := by
  have hsigned := hintroduces.buildAndSign
  rw [introductionRequest] at hsigned
  simp [generateDelegatedUserConnectionToken, pubKeyB64ToDid, hencodings.base64, hparsed,
    bind, Except.bind, hsigned, hintroduces.encodeToken]

variable (haudience : audienceKey ≠ [])

include haudience

theorem Introduces.accepted_iff_chain :
    validateConnectToken libraries now token (libraries.encodings.base64Encode audienceKey)
        rootUcanPub userId domain = .ok true ↔
      ∃ chain, ConnectChain libraries now rootUcanPub (connectResource domain userId) ucan
        chain ∧ chain.length ≤ token.length + 1 := by
  rw [validateConnectToken_eq_ok_iff]
  constructor
  · rintro ⟨leaf, hvalid, hcases⟩
    obtain rfl : ucan = leaf := Except.ok.inj (hintroduces.validateStructure_eq.symm.trans hvalid)
    rcases hcases with ⟨honce, -⟩ | ⟨-, -, -, hchain⟩
    · cases hintroduces.not_oneTime.symm.trans honce
    · exact hchain
  · intro hchain
    refine ⟨ucan, hintroduces.validateStructure_eq, .inr ⟨hintroduces.not_oneTime, ?_,
      hintroduces.carries, hchain⟩⟩
    rw [hintroduces.audience]
    exact verifyDidKeyMatch_didOfKey hencodings haudience

/-- The token made for a third user out of one that is accepted is accepted itself when
that one is made out to its user as the code writes it. -/
theorem introduction_accepted_iff
    (hparent : validateStructure libraries now parentToken = .ok parent)
    (haccepted : validateConnectToken libraries now parentToken
      (libraries.encodings.base64Encode (libraries.verifyingKey signingKey)) rootUcanPub userId
        domain = .ok true) :
    generateDelegatedUserConnectionToken libraries now signingKey userId
        (libraries.encodings.base64Encode audienceKey) domain parentToken = .ok token ∧
      (validateConnectToken libraries now token
          (libraries.encodings.base64Encode audienceKey) rootUcanPub userId domain =
            .ok true ↔
        parent.audience = didOfKey libraries (libraries.verifyingKey signingKey) ∨
          verifyDidKeyMatch libraries
            (didOfKey libraries (libraries.verifyingKey signingKey)) rootUcanPub = .ok ()) := by
  refine ⟨hintroduces.generated hencodings (parsed_of_validateStructure hparent), ?_⟩
  have hissuer : ucan.issuer = didOfKey libraries (libraries.verifyingKey signingKey) :=
    hintroduces.issuer
  rw [hintroduces.accepted_iff_chain hencodings haudience, ← hissuer]
  constructor
  · rintro ⟨chain, hchain, -⟩
    cases hchain with
    | root hroot => exact .inr hroot
    | delegated hlink _ =>
        obtain ⟨text, cid, htext, hvalid, -⟩ := hlink.embeds.embedded
        obtain rfl := Option.some.inj (hintroduces.embedded.symm.trans htext)
        obtain rfl := Except.ok.inj (hparent.symm.trans hvalid)
        exact .inl hlink.embeds.audience_eq
  · intro hcondition
    by_cases hroot : RootedIn libraries rootUcanPub ucan
    · exact ⟨[ucan], .root hroot, by simp⟩
    have haudience_eq := hcondition.resolve_right hroot
    obtain ⟨leaf, hleaf, hcases⟩ := validateConnectToken_eq_ok_iff.mp haccepted
    obtain rfl := Except.ok.inj (hparent.symm.trans hleaf)
    rcases hcases with ⟨honce, -⟩ | ⟨-, -, hcarries, chain, hchain, hlength⟩
    · -- A token that is given out once is made out to nobody.
      unfold isOneTimeConnectToken at honce
      rw [haudience_eq, hissuer] at honce
      simp [didOfKey_ne_star] at honce
    · obtain ⟨cid, hcid, hproofs⟩ := hintroduces.proofs
      have hembeds : Embeds libraries now ucan parent :=
        ⟨⟨parentToken, cid, hintroduces.embedded, hparent, hcid, by simp [hproofs]⟩,
          haudience_eq⟩
      have hlonger := hintroduces.longer
      exact ⟨ucan :: chain, .delegated ⟨hroot, hembeds, hcarries⟩ hchain, by
        simp only [List.length_cons]
        omega⟩

end Introduce

def shareResource (domain userId : String) : String := domain ++ ":user-share:" ++ userId

variable (libraries now userId rootUcanPub domain) in
def DelegationGuarded : Prop :=
  ∀ (token presenterUcanPub : String) (leaf : Ucan) (chain : List Ucan),
    validateConnectToken libraries now token presenterUcanPub rootUcanPub userId domain =
        .ok true →
      validateStructure libraries now token = .ok leaf →
        isOneTimeConnectToken leaf domain = false →
          ConnectChain libraries now rootUcanPub (connectResource domain userId) leaf chain →
            ∀ parent ∈ chain.tail, CarriesUse (shareResource domain userId) parent

variable (libraries now userId rootUcanPub domain) in
def HoldsConnectToken (signingKey : Bytes) : Prop :=
  ∃ token leaf, validateStructure libraries now token = .ok leaf ∧
    leaf.audience = didOfKey libraries (libraries.verifyingKey signingKey) ∧
      validateConnectToken libraries now token
        (libraries.encodings.base64Encode (libraries.verifyingKey signingKey)) rootUcanPub
          userId domain = .ok true

variable (libraries now userId domain) in
structure LawfulTokens : Prop where
  encodings : LawfulEncodings libraries.encodings
  keys : ∀ signingKey, libraries.verifyingKey signingKey ≠ []
  signed : ∀ token ucan, validateStructure libraries now token = .ok ucan →
    ∃ signingKey, ucan.issuer = didOfKey libraries (libraries.verifyingKey signingKey)
  nested : ∀ token ucan text, parseToken libraries token = .ok ucan →
    embeddedProof? ucan = some text → text.length < token.length
  introduces : ∀ signingKey audience parentToken parent,
    parseToken libraries parentToken = .ok parent →
      ∃ ucan token, Introduces libraries (introductionRequest libraries now userId domain
        signingKey (libraries.verifyingKey audience) parent parentToken) parentToken ucan token

theorem connect_not_share {connect share : List Char}
    (hfront : domain.toList ++ (":user-connect:".toList ++ connect) <+:
      domain.toList ++ (":user-share:".toList ++ share)) : False := by
  rw [List.prefix_append_right_inj] at hfront
  simp at hfront

theorem grants_cases {capability : Capability} {resource ability : String}
    (hgrants : capability.grants resource ability = true) :
    capability.resource.toList.getLast? = some '*' ∧
        capability.resource.toList.dropLast <+: resource.toList ∨
      capability.resource = resource := by
  unfold Capability.grants at hgrants
  rw [Bool.and_eq_true] at hgrants
  by_cases hstar : capability.resource.toList.getLast? = some '*'
  · rw [if_pos hstar, List.isPrefixOf_iff_prefix] at hgrants
    exact .inl ⟨hstar, hgrants.2⟩
  · rw [if_neg hstar] at hgrants
    exact .inr (beq_iff_eq.mp hgrants.2)

theorem connectCapability_not_share :
    ¬ (connectCapability domain userId).grants (shareResource domain userId) "use" = true := by
  intro hgrants
  have hconnect : (connectCapability domain userId).resource.toList =
      domain.toList ++ (":user-connect:".toList ++ userId.toList) := by
    simp only [connectCapability, String.toList_append, List.append_assoc]
  have hshare : (shareResource domain userId).toList =
      domain.toList ++ (":user-share:".toList ++ userId.toList) := by
    simp only [shareResource, String.toList_append, List.append_assoc]
  rcases grants_cases hgrants with ⟨hstar, hfront⟩ | heq
  · rw [hconnect] at hstar hfront
    -- The star can only be the last character of the user id.
    have hne : userId.toList ≠ [] := by
      intro hnil
      simp [hnil, List.getLast?_append] at hstar
    rw [hshare, List.dropLast_append_of_ne_nil (by simp),
      List.dropLast_append_of_ne_nil hne] at hfront
    exact connect_not_share hfront
  · rw [heq, hshare] at hconnect
    exact connect_not_share ⟨[], (List.append_nil _).trans hconnect.symm⟩

theorem introduction_not_share {ucan : Ucan}
    (hcapabilities : ucan.capabilities = [connectCapability domain userId]) :
    ¬ CarriesUse (shareResource domain userId) ucan := by
  rintro ⟨capability, hmem, hgrants⟩
  rw [hcapabilities, List.mem_singleton] at hmem
  exact connectCapability_not_share (hmem ▸ hgrants)

theorem ConnectChain.length_le {resource : String} {leaf : Ucan} {chain : List Ucan}
    (hlaws : LawfulTokens libraries now userId domain)
    (hchain : ConnectChain libraries now rootUcanPub resource leaf chain)
    (hleaf : parseToken libraries token = .ok leaf) : chain.length ≤ token.length + 1 := by
  induction hchain generalizing token with
  | root _ => simp
  | delegated hlink _ ih =>
      obtain ⟨text, _, htext, hvalid, _⟩ := hlink.embeds.embedded
      have hshorter := hlaws.nested token _ text hleaf htext
      have hrest := ih (parsed_of_validateStructure hvalid)
      rw [List.length_cons]
      omega

theorem holdsConnectToken_of_link {leaf parent : Ucan} {chain : List Ucan}
    (hlaws : LawfulTokens libraries now userId domain)
    (hleaf : validateStructure libraries now token = .ok leaf)
    (hlink : LeadsTo libraries now rootUcanPub (connectResource domain userId) leaf parent)
    (hchain : ConnectChain libraries now rootUcanPub (connectResource domain userId) parent chain) :
    ∃ signingKey, HoldsConnectToken libraries now userId rootUcanPub domain signingKey := by
  obtain ⟨signingKey, hissuer⟩ := hlaws.signed token leaf hleaf
  obtain ⟨text, _, _, hvalid, _⟩ := hlink.embeds.embedded
  have haudience := hlink.embeds.audience_eq.trans hissuer
  refine ⟨signingKey, text, parent, hvalid, haudience, validateConnectToken_eq_ok_iff.mpr
    ⟨parent, hvalid, .inr ⟨?_, ?_, hlink.carries, chain, hchain,
      hchain.length_le hlaws (parsed_of_validateStructure hvalid)⟩⟩⟩
  · simp [isOneTimeConnectToken, haudience, didOfKey_ne_star]
  · rw [haudience]
    exact verifyDidKeyMatch_didOfKey hlaws.encodings (hlaws.keys signingKey)

theorem not_delegationGuarded_of_holds (hlaws : LawfulTokens libraries now userId domain)
    {signingKey otherKey : Bytes}
    (hother : verifyDidKeyMatch libraries
      (didOfKey libraries (libraries.verifyingKey otherKey)) rootUcanPub ≠ .ok ())
    (hholds : HoldsConnectToken libraries now userId rootUcanPub domain signingKey) :
    ¬ DelegationGuarded libraries now userId rootUcanPub domain := by
  obtain ⟨token, leaf, hleaf, haudience, haccepted⟩ := hholds
  have hotherKey := hlaws.keys otherKey
  obtain ⟨first, firstToken, hfirst⟩ := hlaws.introduces signingKey otherKey token leaf
    (parsed_of_validateStructure hleaf)
  have hfirstAccepted := (introduction_accepted_iff hfirst hlaws.encodings hotherKey hleaf
    haccepted).2.mpr (.inl haudience)
  obtain ⟨second, secondToken, hsecond⟩ := hlaws.introduces otherKey otherKey firstToken first
    (parsed_of_validateStructure hfirst.validateStructure_eq)
  have hsecondAccepted := (introduction_accepted_iff hsecond hlaws.encodings hotherKey
    hfirst.validateStructure_eq hfirstAccepted).2.mpr (.inl hfirst.audience)
  obtain ⟨chain, hchain, _⟩ :=
    (hsecond.accepted_iff_chain hlaws.encodings hotherKey).mp hsecondAccepted
  intro hguarded
  have hshares := hguarded secondToken _ second chain hsecondAccepted
    hsecond.validateStructure_eq hsecond.not_oneTime hchain
  cases hchain with
  | root hroot =>
      rw [RootedIn, hsecond.issuer] at hroot
      exact hother hroot
  | delegated hlink htail =>
      obtain ⟨text, _, htext, hvalid, _⟩ := hlink.embeds.embedded
      obtain rfl := Option.some.inj (hsecond.embedded.symm.trans htext)
      obtain rfl := Except.ok.inj (hfirst.validateStructure_eq.symm.trans hvalid)
      exact introduction_not_share hfirst.capabilities (hshares _ htail.leaf_mem)

/-- The right to share is asked of nobody: it is only where no one has a token to share
that every token that vouches for another carries it. -/
theorem delegationGuarded_iff (hlaws : LawfulTokens libraries now userId domain)
    (hother : ∃ otherKey, verifyDidKeyMatch libraries
      (didOfKey libraries (libraries.verifyingKey otherKey)) rootUcanPub ≠ .ok ()) :
    DelegationGuarded libraries now userId rootUcanPub domain ↔
      ∀ signingKey, ¬ HoldsConnectToken libraries now userId rootUcanPub domain signingKey := by
  obtain ⟨otherKey, hother⟩ := hother
  constructor
  · exact fun hguarded signingKey hholds =>
      not_delegationGuarded_of_holds hlaws hother hholds hguarded
  · intro hnone token presenterUcanPub leaf chain _ hleaf _ hchain parent hparent
    cases hchain with
    | root _ => cases hparent
    | delegated hlink htail =>
        obtain ⟨signingKey, hholds⟩ := holdsConnectToken_of_link hlaws hleaf hlink htail
        exact absurd hholds (hnone signingKey)

end Introductions

/-! Tokens that are written out: a parent, a star, and who has issued the token to
whom. They are for connecting to `V`, and every key begins with the letter `k`. -/

namespace TextTokens

def segment (text : List Char) : List Char :=
  (text.reverse.takeWhile fun char => char ≠ '☆').reverse

def parentText (text : List Char) : List Char :=
  ((text.reverse.dropWhile fun char => char ≠ '☆').drop 1).reverse

def issuerName (text : List Char) : List Char :=
  (segment text).takeWhile fun char => char ≠ '→'

def audienceName (text : List Char) : List Char :=
  ((segment text).dropWhile fun char => char ≠ '→').drop 1

def didOf (name : List Char) : String :=
  if name = ['✱'] then "*" else didOfKey (tabledLibraries []) (textBytes (String.ofList name))

def nameOf (did : String) : List Char :=
  if did = "*" then ['✱'] else (bytesText ((textBytes did).drop 11)).toList

def textOf (parent : List Char) (issuer audience : String) : List Char :=
  parent ++ '☆' :: (nameOf issuer ++ '→' :: nameOf audience)

def describe (text : List Char) : Ucan :=
  let parent := String.ofList (parentText text)
  let isRoot := parentText text = []
  { issuer := didOf (issuerName text)
    audience := didOf (audienceName text)
    capabilities :=
      if isRoot ∧ audienceName text ≠ ['✱'] then
        [connectCapability "livnote" "V", shareCapability "livnote" "V"]
      else [connectCapability "livnote" "V"]
    proofs := if isRoot then none else some [parent]
    facts := if isRoot then none else some [("proof", .string parent)]
    signedData := String.ofList text }

def parentOf (request : UcanRequest) : List Char :=
  match request.facts with
  | [(_, .string parent)] => parent.toList
  | _ => []

def crate : UcanCrate :=
  { tryFrom := fun text =>
      if '☆' ∈ text.toList then .ok (describe text.toList) else .error "not a token"
    validate := fun ucan _ =>
      if (issuerName ucan.signedData.toList).head? = some 'k' then .ok ()
      else .error "not signed"
    toCid := fun ucan => .ok ucan.signedData
    build := fun _ => .ok ()
    sign := fun request => .ok (describe (textOf (parentOf request) request.issuer
      request.audience))
    encode := fun ucan => .ok ucan.signedData }

def libraries : UcanLibraries :=
  { crate, encodings := plainEncodings, verifyingKey := fun key => 107 :: key }

section Parts

variable {parent : List Char} {key : Bytes}

theorem ne_of_mem_bytesText {mark char : Char} (hmark : 256 ≤ mark.toNat)
    (hchar : char ∈ (bytesText key).toList) : char ≠ mark := by
  rw [bytesText, String.toList_ofList, List.mem_map] at hchar
  obtain ⟨byte, -, rfl⟩ := hchar
  intro heq
  have hsmall := byte.toNat_lt
  rw [← heq, toNat_charOfByte] at hmark
  omega

theorem nameOf_didOfKey : nameOf (didOfKey libraries key) = (bytesText key).toList := by
  have hbytes : textBytes (didOfKey libraries key) =
      textBytes didKeyPrefix ++ (ed25519MagicBytes ++ key) := by
    rw [didOfKey, textBytes, String.toList_append, List.map_append]
    exact congrArg _ (textBytes_bytesText _)
  rw [nameOf, if_neg (didOfKey_ne_star key), hbytes, ← List.append_assoc]
  exact congrArg (fun bytes => (bytesText bytes).toList) (List.drop_left' rfl)

theorem didOf_bytesText : didOf (bytesText key).toList = didOfKey libraries key := by
  have hname : (bytesText key).toList ≠ ['✱'] := by
    intro heq
    have hmem : '✱' ∈ (bytesText key).toList := by simp [heq]
    exact ne_of_mem_bytesText (by decide) hmem rfl
  rw [didOf, if_neg hname, String.ofList_toList, textBytes_bytesText]
  rfl

def PlainName (name : List Char) : Prop := ∀ char ∈ name, char ≠ '☆' ∧ char ≠ '→'

theorem plainName_bytesText : PlainName (bytesText key).toList :=
  fun _ hchar => ⟨ne_of_mem_bytesText (by decide) hchar, ne_of_mem_bytesText (by decide) hchar⟩

variable {issuerDid audienceDid : String}
variable (hissuer : PlainName (nameOf issuerDid)) (haudience : PlainName (nameOf audienceDid))

include hissuer haudience

theorem mark_free : ∀ char ∈ (nameOf issuerDid ++ '→' :: nameOf audienceDid).reverse,
    (decide (char ≠ '☆')) = true := by
  intro char hchar
  rw [List.mem_reverse, List.mem_append, List.mem_cons] at hchar
  rw [decide_eq_true_eq]
  rcases hchar with hleft | rfl | hright
  · exact (hissuer char hleft).1
  · decide
  · exact (haudience char hright).1

theorem segment_textOf : segment (textOf parent issuerDid audienceDid) =
    nameOf issuerDid ++ '→' :: nameOf audienceDid := by
  rw [segment, textOf, List.reverse_append, List.reverse_cons, List.append_assoc,
    List.takeWhile_append_of_pos (mark_free hissuer haudience)]
  simp

theorem parentText_textOf : parentText (textOf parent issuerDid audienceDid) = parent := by
  rw [parentText, textOf, List.reverse_append, List.reverse_cons, List.append_assoc,
    List.dropWhile_append_of_pos (mark_free hissuer haudience)]
  simp

theorem issuerName_textOf :
    issuerName (textOf parent issuerDid audienceDid) = nameOf issuerDid := by
  rw [issuerName, segment_textOf hissuer haudience, List.takeWhile_append_of_pos]
  · simp
  · exact fun char hchar => decide_eq_true (hissuer char hchar).2

theorem audienceName_textOf :
    audienceName (textOf parent issuerDid audienceDid) = nameOf audienceDid := by
  rw [audienceName, segment_textOf hissuer haudience, List.dropWhile_append_of_pos]
  · simp
  · exact fun char hchar => decide_eq_true (hissuer char hchar).2

end Parts

variable {text : String}

theorem tryFrom_eq_ok {ucan : Ucan} :
    parseToken libraries text = .ok ucan ↔
      '☆' ∈ text.toList ∧ ucan = describe text.toList := by
  by_cases hmark : '☆' ∈ text.toList
  · simp [parseToken, libraries, crate, hmark, eq_comm]
  · simp [parseToken, libraries, crate, hmark]

theorem validate_eq_ok {now : Int} {text : List Char} :
    crate.validate (describe text) now = .ok () ↔ (issuerName text).head? = some 'k' := by
  simp only [crate, describe, String.toList_ofList]
  split
  · next hhead => exact iff_of_true rfl hhead
  · next hhead => exact iff_of_false (fun heq => nomatch heq) hhead

theorem signed {now : Int} {ucan : Ucan} (hvalid : validateStructure libraries now text = .ok ucan) :
    ∃ signingKey, ucan.issuer = didOfKey libraries (libraries.verifyingKey signingKey) := by
  obtain ⟨hparsed, hvalid⟩ := validateStructure_eq_ok_iff.mp hvalid
  obtain ⟨-, rfl⟩ := tryFrom_eq_ok.mp hparsed
  have hhead : (issuerName text.toList).head? = some 'k' := validate_eq_ok.mp hvalid
  obtain ⟨rest, hname⟩ := List.head?_eq_some_iff.mp hhead
  refine ⟨textBytes (String.ofList rest), ?_⟩
  change didOf (issuerName text.toList) = _
  rw [hname, didOf, if_neg (by simp)]
  simp [textBytes, didOfKey, libraries, tabledLibraries]

theorem parentText_length {text : List Char} (hmark : '☆' ∈ text) :
    (parentText text).length < text.length := by
  have hpos : 0 < (text.reverse.dropWhile fun char => char ≠ '☆').length := by
    rw [List.length_pos_iff, ne_eq, List.dropWhile_eq_nil_iff]
    exact fun hall => by simpa using hall '☆' (List.mem_reverse.mpr hmark)
  have hle := (List.dropWhile_suffix (l := text.reverse) fun char => char ≠ '☆').length_le
  simp only [parentText, List.length_reverse, List.length_drop] at hle ⊢
  omega

theorem nested {token : String} {ucan : Ucan} (hparsed : parseToken libraries token = .ok ucan)
    (htext : embeddedProof? ucan = some text) : text.length < token.length := by
  obtain ⟨hmark, rfl⟩ := tryFrom_eq_ok.mp hparsed
  by_cases hroot : parentText token.toList = []
  · simp [embeddedProof?, describe, hroot] at htext
  · simp [embeddedProof?, describe, hroot, Value.get] at htext
    rw [← htext]
    simpa [String.length] using parentText_length hmark

def introductionText (parentToken : String) (signingKey audience : Bytes) : List Char :=
  textOf parentToken.toList (didOfKey libraries (107 :: signingKey))
    (didOfKey libraries (107 :: audience))

theorem introduces {now : Int} {signingKey audience : Bytes} {parentToken : String}
    {parent : Ucan} (hparsed : parseToken libraries parentToken = .ok parent) :
    Introduces libraries (introductionRequest libraries now "V" "livnote" signingKey
      (libraries.verifyingKey audience) parent parentToken) parentToken
        (describe (introductionText parentToken signingKey audience))
        (String.ofList (introductionText parentToken signingKey audience)) := by
  have hname : ∀ key, nameOf (didOfKey libraries (107 :: key)) =
      (bytesText (107 :: key)).toList := fun _ => nameOf_didOfKey
  have hplain : ∀ key, PlainName (nameOf (didOfKey libraries (107 :: key))) := fun key =>
    hname key ▸ plainName_bytesText
  have hdid : ∀ key, didOf (nameOf (didOfKey libraries (107 :: key))) =
      didOfKey libraries (107 :: key) := fun key =>
    (congrArg didOf (hname key)).trans didOf_bytesText
  obtain ⟨hmark, -⟩ := tryFrom_eq_ok.mp hparsed
  have hroot : parentToken.toList ≠ [] := List.ne_nil_of_mem hmark
  have hparent : parentText (introductionText parentToken signingKey audience) =
      parentToken.toList := parentText_textOf (hplain signingKey) (hplain audience)
  have hissuer : issuerName (introductionText parentToken signingKey audience) =
      nameOf (didOfKey libraries (107 :: signingKey)) :=
    issuerName_textOf (hplain signingKey) (hplain audience)
  have haudience : audienceName (introductionText parentToken signingKey audience) =
      nameOf (didOfKey libraries (107 :: audience)) :=
    audienceName_textOf (hplain signingKey) (hplain audience)
  refine ⟨⟨rfl, rfl, rfl, ?_, ⟨_, rfl⟩, ?_, ?_, ?_, fun _ _ _ => ?_⟩, ?_,
    ⟨parentToken, ?_, ?_⟩, ?_⟩
  · have hmarked : '☆' ∈ introductionText parentToken signingKey audience := by
      simp [introductionText, textOf]
    simp [libraries, crate, hmarked]
  · change didOf (issuerName (introductionText parentToken signingKey audience)) = _
    rw [hissuer, hdid]
    rfl
  · change didOf (audienceName (introductionText parentToken signingKey audience)) = _
    rw [haudience, hdid]
    rfl
  · simp [describe, hparent, hroot, introductionRequest]
  · refine validate_eq_ok.mpr ?_
    rw [hissuer, hname, bytesText, String.toList_ofList]
    rfl
  · simp [describe, hparent, hroot, introductionRequest]
  · rw [CryptoUtils.getUcanCid, hparsed]
    obtain ⟨-, rfl⟩ := tryFrom_eq_ok.mp hparsed
    simp [bind, Except.bind, cidOf, libraries, crate, describe]
  · simp [describe, hparent, hroot]
  · simp [introductionText, textOf, String.length]

theorem lawful : LawfulTokens libraries 0 "V" "livnote" where
  encodings := lawful_plainEncodings
  keys _ := List.cons_ne_nil _ _
  signed _ _ := signed
  nested _ _ _ := nested
  introduces _ _ _ _ hparsed := ⟨_, _, introduces hparsed⟩

def fromP : String := "☆kV→kP"

def fromQ : String := "☆kV→kP☆kP→kQ"

def fromR : String := "☆kV→kP☆kP→kQ☆kQ→kR"

theorem validates (hmark : '☆' ∈ text.toList) (hissuer : (issuerName text.toList).head? = some 'k') :
    validateStructure libraries 0 text = .ok (describe text.toList) :=
  validateStructure_eq_ok_iff.mpr ⟨tryFrom_eq_ok.mpr ⟨hmark, rfl⟩, validate_eq_ok.mpr hissuer⟩

end TextTokens

open TextTokens in
theorem introduction_accepted_textTokens :
    generateDelegatedUserConnectionToken libraries 0 (textBytes "P") "V" "kQ" "livnote" fromP =
        .ok fromQ ∧
      (validateConnectToken libraries 0 fromQ "kQ" "kV" "V" "livnote" = .ok true ↔
        (describe fromP.toList).audience = didOfKey libraries (textBytes "kP") ∨
          verifyDidKeyMatch libraries (didOfKey libraries (textBytes "kP")) "kV" = .ok ()) := by
  have hparent : validateStructure libraries 0 fromP = .ok (describe fromP.toList) :=
    validates (by decide) (by decide)
  have hintroduces := @introduces 0 (textBytes "P") (textBytes "Q") _ _
    (parsed_of_validateStructure hparent)
  have htext : String.ofList (introductionText fromP (textBytes "P") (textBytes "Q")) = fromQ := by
    decide +kernel
  rw [htext] at hintroduces
  exact introduction_accepted_iff hintroduces lawful_plainEncodings (List.cons_ne_nil _ _)
    hparent (by decide +kernel)

open TextTokens in
/-- Everyone can use the token that `V` gives out, and what is made of it is refused. -/
theorem introduction_refused_oneTime :
    validateConnectToken libraries 0 "☆kV→✱" "kP" "kV" "V" "livnote" = .ok true ∧
      generateDelegatedUserConnectionToken libraries 0 (textBytes "P") "V" "kQ" "livnote"
          "☆kV→✱" = .ok "☆kV→✱☆kP→kQ" ∧
        validateConnectToken libraries 0 "☆kV→✱☆kP→kQ" "kQ" "kV" "V" "livnote" ≠ .ok true := by
  decide +kernel

open TextTokens in
theorem delegationGuarded_iff_textTokens :
    DelegationGuarded libraries 0 "V" "kV" "livnote" ↔
      ∀ signingKey, ¬ HoldsConnectToken libraries 0 "V" "kV" "livnote" signingKey :=
  delegationGuarded_iff lawful ⟨textBytes "P", by decide +kernel⟩

open TextTokens in
/-- `Q` has only the right to connect, and introduces `R`. -/
theorem not_delegationGuarded_textTokens :
    validateConnectToken libraries 0 fromR "kR" "kV" "V" "livnote" = .ok true ∧
      Embeds libraries 0 (describe fromR.toList) (describe fromQ.toList) ∧
        ¬ CarriesUse (shareResource "livnote" "V") (describe fromQ.toList) ∧
          ¬ DelegationGuarded libraries 0 "V" "kV" "livnote" := by
  have haccepted : validateConnectToken libraries 0 fromR "kR" "kV" "V" "livnote" = .ok true := by
    decide +kernel
  have hleaf : validateStructure libraries 0 fromR = .ok (describe fromR.toList) :=
    validates (by decide) (by decide)
  have hparent : validateStructure libraries 0 fromQ = .ok (describe fromQ.toList) :=
    validates (by decide) (by decide)
  have hembedded : embeddedProof? (describe fromR.toList) = some fromQ := by decide +kernel
  have hshare : ¬ CarriesUse (shareResource "livnote" "V") (describe fromQ.toList) :=
    introduction_not_share (by decide +kernel)
  refine ⟨haccepted, ⟨⟨fromQ, fromQ, hembedded, hparent, by decide +kernel, ?_⟩,
    by decide +kernel⟩, hshare, fun hguarded => ?_⟩
  · have hproofs : (describe fromR.toList).proofs = some [fromQ] := by decide +kernel
    simp [hproofs]
  obtain ⟨leaf, hvalid, hcases⟩ := validateConnectToken_eq_ok_iff.mp haccepted
  obtain rfl := Except.ok.inj (hleaf.symm.trans hvalid)
  have honce : isOneTimeConnectToken (describe fromR.toList) "livnote" = false := by
    decide +kernel
  rcases hcases with ⟨htrue, -⟩ | ⟨-, -, -, chain, hchain, -⟩
  · cases honce.symm.trans htrue
  have hshares := hguarded fromR "kR" _ chain haccepted hleaf honce hchain
  cases hchain with
  | root hroot =>
      unfold RootedIn at hroot
      exact absurd hroot (by decide +kernel)
  | delegated hlink htail =>
      obtain ⟨text, _, htext, hvalid, _⟩ := hlink.embeds.embedded
      obtain rfl := Option.some.inj (hembedded.symm.trans htext)
      obtain rfl := Except.ok.inj (hparent.symm.trans hvalid)
      exact hshare (hshares _ htail.leaf_mem)

end Osvauld.CryptoUtils
