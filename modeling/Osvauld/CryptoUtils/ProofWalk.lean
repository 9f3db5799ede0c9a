import Osvauld.CryptoUtils.ConnectChains
import Osvauld.Data.Base64

namespace Osvauld.CryptoUtils

open Osvauld.Core Data

/-! The walk through embedded proofs, one invocation after the other. -/

mutual

def valueTexts : Value → List String
  | .string text => [text]
  | .array items => itemTexts items
  | .object fields => fieldTexts fields
  | _ => []

def itemTexts : List Value → List String
  | [] => []
  | item :: items => valueTexts item ++ itemTexts items

def fieldTexts : List (String × Value) → List String
  | [] => []
  | (_, value) :: fields => valueTexts value ++ fieldTexts fields

end

variable {text : String}

theorem mem_fieldTexts {fields : List (String × Value)} {field : String × Value}
    (hfield : field ∈ fields) (htext : text ∈ valueTexts field.2) : text ∈ fieldTexts fields := by
  induction fields with
  | nil => cases hfield
  | cons first fields ih =>
      rw [fieldTexts, List.mem_append]
      rcases List.mem_cons.mp hfield with rfl | hrest
      · exact .inl htext
      · exact .inr (ih hrest)

theorem mem_valueTexts_of_get {value item : Value} {key : String} (hget : value.get key = some item)
    (htext : text ∈ valueTexts item) : text ∈ valueTexts value := by
  cases value with
  | object fields =>
      rw [Value.get, Option.map_eq_some_iff] at hget
      obtain ⟨field, hfound, rfl⟩ := hget
      exact mem_fieldTexts (List.mem_of_find?_eq_some hfound) htext
  | _ => cases hget

def factsOf (claims : Value) : Option (List (String × Value)) :=
  match claims.get "fct" with
  | some (.object facts) => some facts
  | _ => none

/-- A token is a row of texts with dots between them. Its facts are in the JSON behind
the second of these, and no text of that JSON is longer than what it is decoded from. -/
structure ReadsPayload (crate : UcanCrate) (decodePayload : String → Except String Value) :
    Prop where
  payload : ∀ token ucan, crate.tryFrom token = .ok ucan →
    ∃ header payload rest claims, token = header ++ "." ++ payload ++ "." ++ rest ∧
      decodePayload payload = .ok claims ∧ ucan.facts = factsOf claims
  text_length_le : ∀ payload claims, decodePayload payload = .ok claims →
    ∀ text ∈ valueTexts claims, text.length ≤ payload.length

theorem embeddedProof?_mem {ucan : Ucan} {claims : Value} (hfacts : ucan.facts = factsOf claims)
    (hembedded : embeddedProof? ucan = some text) : text ∈ valueTexts claims := by
  unfold embeddedProof? at hembedded
  rw [hfacts] at hembedded
  unfold factsOf at hembedded
  cases hfct : claims.get "fct" with
  | none => simp [hfct] at hembedded
  | some fact =>
      cases fact with
      | object facts =>
          simp only [hfct] at hembedded
          split at hembedded
          · next proof hproof =>
              obtain rfl := Option.some.inj hembedded
              apply mem_valueTexts_of_get hfct
              exact mem_valueTexts_of_get hproof (by simp [valueTexts])
          · cases hembedded
      | _ => simp [hfct] at hembedded

theorem ReadsPayload.embedded_length_lt {crate : UcanCrate}
    {decodePayload : String → Except String Value} (hreads : ReadsPayload crate decodePayload)
    {token : String} {ucan : Ucan} (hucan : crate.tryFrom token = .ok ucan)
    (hembedded : embeddedProof? ucan = some text) : text.length < token.length := by
  obtain ⟨header, payload, rest, claims, rfl, hclaims, hfacts⟩ := hreads.payload token ucan hucan
  have hle := hreads.text_length_le payload claims hclaims text
    (embeddedProof?_mem hfacts hembedded)
  have hdot : ".".length = 1 := rfl
  simp only [String.length_append]
  omega

structure ProofCall where
  proofToken : String
  expectedIssuerDid : Option String

section Walk

variable (libraries : UcanLibraries) (now : Int)
variable (targetUserId targetUserUcanPub domain : String)

def proofStep (call : ProofCall) : Except UcanError (Option ProofCall) := do
  let proofUcan ← validateStructure libraries now call.proofToken
  if call.expectedIssuerDid.any fun expected => proofUcan.audience ≠ expected then
    throw .invalidIssuer
  checkCapability proofUcan (domain ++ ":user-connect:" ++ targetUserId) "use"
  if (verifyDidKeyMatch libraries proofUcan.issuer targetUserUcanPub).isOk then
    return none
  match embeddedProof? proofUcan with
  | none => throw (.proofChainInvalid "Chain doesn't reach root")
  | some nestedProof =>
      let nestedProofCid ← getUcanCid libraries nestedProof
      if proofUcan.proofs.any fun cids => nestedProofCid ∉ cids then
        throw (.proofChainInvalid "CID mismatch")
      return some { proofToken := nestedProof, expectedIssuerDid := some proofUcan.issuer }

def Recurses (call nested : ProofCall) : Prop :=
  proofStep libraries now targetUserId targetUserUcanPub domain call = .ok (some nested)

def Finishes (call : ProofCall) : Prop :=
  ∀ nested, ¬ Recurses libraries now targetUserId targetUserUcanPub domain call nested

variable {libraries now targetUserId targetUserUcanPub domain}

variable {call : ProofCall}

theorem validateEmbeddedProofChain_eq_step {fuel : Nat} :
    validateEmbeddedProofChain libraries now targetUserId targetUserUcanPub domain (fuel + 1)
        call.proofToken call.expectedIssuerDid =
      match proofStep libraries now targetUserId targetUserUcanPub domain call with
      | .error error => .error error
      | .ok none => .ok ()
      | .ok (some nested) =>
          validateEmbeddedProofChain libraries now targetUserId targetUserUcanPub domain fuel
            nested.proofToken nested.expectedIssuerDid := by
  conv_lhs => unfold validateEmbeddedProofChain
  unfold proofStep
  simp only [bind, Except.bind]
  cases hucan : validateStructure libraries now call.proofToken with
  | error error => rfl
  | ok proofUcan =>
      by_cases hissuer : call.expectedIssuerDid.any fun expected => proofUcan.audience ≠ expected
      · simp only [hissuer, if_true]
        rfl
      simp only [hissuer, Bool.false_eq_true, if_false]
      cases hcapability : checkCapability proofUcan
          (domain ++ ":user-connect:" ++ targetUserId) "use" with
      | error error => rfl
      | ok checked =>
          by_cases hroot : (verifyDidKeyMatch libraries proofUcan.issuer targetUserUcanPub).isOk
          · simp only [hroot, if_true]
            rfl
          simp only [hroot, Bool.false_eq_true, if_false]
          cases hembedded : embeddedProof? proofUcan with
          | none => rfl
          | some nestedProof =>
              dsimp only
              cases hcid : getUcanCid libraries nestedProof with
              | error error => rfl
              | ok nestedProofCid =>
                  by_cases hlisted : proofUcan.proofs.any fun cids => nestedProofCid ∉ cids
                  · simp only [hlisted, if_true]
                    rfl
                  · simp only [hlisted, Bool.false_eq_true, if_false]
                    rfl

theorem exists_embedded_of_recurses {nested : ProofCall}
    (hrecurses : Recurses libraries now targetUserId targetUserUcanPub domain call nested) :
    ∃ proofUcan, validateStructure libraries now call.proofToken = .ok proofUcan ∧
      embeddedProof? proofUcan = some nested.proofToken := by
  unfold Recurses proofStep at hrecurses
  rw [bind_eq_ok] at hrecurses
  obtain ⟨proofUcan, hucan, hrest⟩ := hrecurses
  simp only [unless_eq_ok, bind_eq_ok] at hrest
  obtain ⟨-, -, -, hrest⟩ := hrest
  split at hrest
  · cases hrest
  split at hrest
  · cases hrest
  · next nestedProof hembedded =>
      simp only [bind_eq_ok, unless_eq_ok] at hrest
      obtain ⟨nestedProofCid, -, -, hnested⟩ := hrest
      cases hnested
      exact ⟨proofUcan, hucan, hembedded⟩

theorem tryFrom_of_validateStructure {token : String} {ucan : Ucan}
    (hvalid : validateStructure libraries now token = .ok ucan) :
    libraries.crate.tryFrom token = .ok ucan := by
  unfold validateStructure parseToken at hvalid
  rw [bind_eq_ok] at hvalid
  obtain ⟨parsed, hparsed, hvalidated⟩ := hvalid
  split at hparsed
  · cases hparsed
  · next found hfound =>
      split at hvalidated
      · cases hvalidated
      · cases hparsed
        cases hvalidated
        exact hfound

variable {decodePayload : String → Except String Value}
variable (hreads : ReadsPayload libraries.crate decodePayload)

include hreads

theorem Recurses.length_lt {nested : ProofCall}
    (hrecurses : Recurses libraries now targetUserId targetUserUcanPub domain call nested) :
    nested.proofToken.length < call.proofToken.length := by
  obtain ⟨proofUcan, hucan, hembedded⟩ := exists_embedded_of_recurses hrecurses
  exact hreads.embedded_length_lt (tryFrom_of_validateStructure hucan) hembedded

omit hreads in
theorem validateEmbeddedProofChain_of_covered {calls : List ProofCall}
    (hcalls : DelegationChain
      (Recurses libraries now targetUserId targetUserUcanPub domain)
      (Finishes libraries now targetUserId targetUserUcanPub domain) call calls) {fuel : Nat}
    (hfuel : calls.length ≤ fuel) :
    validateEmbeddedProofChain libraries now targetUserId targetUserUcanPub domain fuel
        call.proofToken call.expectedIssuerDid =
      validateEmbeddedProofChain libraries now targetUserId targetUserUcanPub domain
        calls.length call.proofToken call.expectedIssuerDid := by
  induction hcalls generalizing fuel with
  | root hfinishes =>
      obtain ⟨fuel, rfl⟩ := Nat.exists_eq_add_of_le' hfuel
      rw [List.length_singleton, validateEmbeddedProofChain_eq_step]
      conv_rhs => rw [← Nat.zero_add 1, validateEmbeddedProofChain_eq_step]
      split
      · rfl
      · rfl
      · next nested hnested => exact absurd hnested (hfinishes nested)
  | delegated hrecurses _ ih =>
      obtain ⟨fuel, rfl⟩ := Nat.exists_eq_add_of_le' hfuel
      rw [List.length_cons, ← Nat.add_assoc, validateEmbeddedProofChain_eq_step,
        validateEmbeddedProofChain_eq_step, hrecurses]
      exact ih (by omega)

/-- Every invocation leads to finitely many others, each with a shorter token than the
one before, and what it returns does not depend on the fuel that covers them. -/
theorem embedded_proof_walk_ends (call : ProofCall) :
    ∃ calls, DelegationChain
        (Recurses libraries now targetUserId targetUserUcanPub domain)
        (Finishes libraries now targetUserId targetUserUcanPub domain) call calls ∧
      calls.length ≤ call.proofToken.length + 1 ∧
      (calls.Pairwise fun outer nested =>
        nested.proofToken.length < outer.proofToken.length) ∧
      ∀ fuel, calls.length ≤ fuel →
        validateEmbeddedProofChain libraries now targetUserId targetUserUcanPub domain fuel
            call.proofToken call.expectedIssuerDid =
          validateEmbeddedProofChain libraries now targetUserId targetUserUcanPub domain
            calls.length call.proofToken call.expectedIssuerDid := by
  have hdescent : ∀ outer nested : ProofCall,
      Recurses libraries now targetUserId targetUserUcanPub domain outer nested →
        nested.proofToken.length < outer.proofToken.length :=
    fun _ _ hrecurses => hrecurses.length_lt hreads
  have hnext : ∀ outer : ProofCall,
      Finishes libraries now targetUserId targetUserUcanPub domain outer ∨
        ∃ nested, Recurses libraries now targetUserId targetUserUcanPub domain outer nested ∧
          nested.proofToken.length < outer.proofToken.length := by
    intro outer
    by_cases hnested : ∃ nested,
        Recurses libraries now targetUserId targetUserUcanPub domain outer nested
    · obtain ⟨nested, hrecurses⟩ := hnested
      exact .inr ⟨nested, hrecurses, hdescent _ _ hrecurses⟩
    · exact .inl fun nested hrecurses => hnested ⟨nested, hrecurses⟩
  obtain ⟨calls, hcalls, hlength⟩ := DelegationChain.exists_of_descent hnext call
  exact ⟨calls, hcalls, hlength, hcalls.pairwise_measure hdescent,
    fun _ hfuel => validateEmbeddedProofChain_of_covered hcalls hfuel⟩

end Walk

def tokenSegment (text : String) : String :=
  .ofList (((Base64.encodeChars (textBytes text)).filter fun char => char ≠ '=').map fun char =>
    if char = '+' then '-' else if char = '/' then '_' else char)

theorem digit_ne_padding {sextet : Nat} (hsextet : sextet < 64) : Base64.digit sextet ≠ '=' := by
  intro hpadding
  have hread := Base64.sextet?_digit hsextet
  rw [hpadding, Base64.sextet?_padding] at hread
  cases hread

theorem length_le_encodeChars (bytes : Bytes) :
    bytes.length ≤ ((Base64.encodeChars bytes).filter fun char => char ≠ '=').length := by
  have hbound : ∀ byte : UInt8, byte.toNat < 256 := fun byte => byte.toNat_lt
  fun_induction Base64.encodeChars bytes with
  | case1 => simp
  | case2 first =>
      have hfirst := hbound first
      have hhigh := @digit_ne_padding (first.toNat / 4) (by omega)
      simp [hhigh]
  | case3 first second =>
      have hfirst := hbound first
      have hsecond := hbound second
      have hhigh := @digit_ne_padding (first.toNat / 4) (by omega)
      have hmiddle := @digit_ne_padding (first.toNat % 4 * 16 + second.toNat / 16) (by omega)
      simp [hhigh, hmiddle]
  | case4 first second third rest ih =>
      have hfirst := hbound first
      have hsecond := hbound second
      have hthird := hbound third
      have hhigh := @digit_ne_padding (first.toNat / 4) (by omega)
      have hmiddle := @digit_ne_padding (first.toNat % 4 * 16 + second.toNat / 16) (by omega)
      have hlow := @digit_ne_padding (second.toNat % 16 * 4 + third.toNat / 64) (by omega)
      have hlast := @digit_ne_padding (third.toNat % 64) (by omega)
      simp only [ne_eq, decide_not] at ih
      simp [hhigh, hmiddle, hlow, hlast]
      omega

theorem length_le_tokenSegment (text : String) : text.length ≤ (tokenSegment text).length := by
  have hbytes := length_le_encodeChars (textBytes text)
  rw [textBytes, List.length_map, String.length_toList] at hbytes
  rw [tokenSegment, String.length_ofList, List.length_map]
  exact hbytes

def signedToken (payload : String) : String :=
  tokenSegment "\x7b\"alg\":\"EdDSA\",\"typ\":\"JWT\"\x7d" ++ "." ++ tokenSegment payload ++
    "." ++ tokenSegment "signature"

def ucanVersion : String := "0.10.0-canary"

def payloadText (issuer audience more : String) : String :=
  "\x7b\"ucv\":\"" ++ ucanVersion ++ "\",\"iss\":\"" ++ issuer ++ "\",\"aud\":\"" ++ audience ++
    "\",\"exp\":null,\"cap\":\x7b\"livnote:user-connect:V\":\x7b\"use\":[\x7b\x7d]\x7d\x7d" ++
      more ++ "\x7d"

def payloadClaims (issuer audience : String) (more : List (String × Value)) : Value :=
  .object ([("ucv", .string ucanVersion), ("iss", .string issuer),
    ("aud", .string audience), ("exp", .null),
    ("cap", .object [("livnote:user-connect:V",
      .object [("use", .array [.object []])])])] ++ more)

theorem length_le_joined (start version issuerName issuer audienceName audience fields more
    finish : String) :
    let text := start ++ version ++ issuerName ++ issuer ++ audienceName ++ audience ++ fields ++
      more ++ finish
    version.length ≤ text.length ∧ issuer.length ≤ text.length ∧
      audience.length ≤ text.length ∧ more.length ≤ text.length := by
  simp only [String.length_append]
  omega

theorem forall_payloadClaims {issuer audience moreText : String} {more : List (String × Value)}
    (hmore : ∀ text ∈ fieldTexts more, text.length ≤ moreText.length) :
    ∀ text ∈ valueTexts (payloadClaims issuer audience more),
      text.length ≤ (tokenSegment (payloadText issuer audience moreText)).length := by
  intro text htext
  apply Nat.le_trans _ (length_le_tokenSegment _)
  obtain ⟨hversion, hissuer, haudience, hlength⟩ := length_le_joined _ _ _ _ _ _ _ _ _
  simp only [payloadClaims, valueTexts, List.cons_append, List.nil_append, fieldTexts, itemTexts,
    List.mem_cons] at htext
  rcases htext with rfl | rfl | rfl | htext
  · exact hversion
  · exact hissuer
  · exact haudience
  · exact (hmore text htext).trans hlength

theorem length_le_pair (start first between second finish : String) :
    let text := start ++ first ++ between ++ second ++ finish
    first.length ≤ text.length ∧ second.length ≤ text.length := by
  simp only [String.length_append]
  omega

def grantText : String :=
  payloadText "did:key:z6MkeXBLjYiSvqnhFb6D7sHm8yKm4jV45wwBFRaatf1cfZ76"
    "did:key:z6Mkeb6dsrBTX95vPgLiZAcgRr6XJthFm1czoqFEx34DQtRo" ""

def grantToken : String := signedToken grantText

def grantClaims : Value :=
  payloadClaims "did:key:z6MkeXBLjYiSvqnhFb6D7sHm8yKm4jV45wwBFRaatf1cfZ76"
    "did:key:z6Mkeb6dsrBTX95vPgLiZAcgRr6XJthFm1czoqFEx34DQtRo" []

def grantCid : String := "bafkr4i"

def introductionMore : String :=
  ",\"fct\":\x7b\"proof\":\"" ++ grantToken ++ "\"\x7d,\"prf\":[\"" ++ grantCid ++ "\"]"

def introductionText : String :=
  payloadText "did:key:z6Mkeb6dsrBTX95vPgLiZAcgRr6XJthFm1czoqFEx34DQtRo"
    "did:key:z6Mkef1w29eU7SP9XmbDzTwbiisHZ3uTS5JpNEuu1R6pADkW" introductionMore

def introductionClaims : Value :=
  payloadClaims "did:key:z6Mkeb6dsrBTX95vPgLiZAcgRr6XJthFm1czoqFEx34DQtRo"
    "did:key:z6Mkef1w29eU7SP9XmbDzTwbiisHZ3uTS5JpNEuu1R6pADkW"
    [("fct", .object [("proof", .string grantToken)]), ("prf", .array [.string grantCid])]

def introductionToken : String := signedToken introductionText

def decodeKnownPayload (payload : String) : Except String Value :=
  if payload = tokenSegment grantText then .ok grantClaims
  else if payload = tokenSegment introductionText then .ok introductionClaims
  else .error "Invalid symbol"

def walkTokens : List (String × Ucan) :=
  [(grantToken,
      { issuer := "did:key:z6MkeXBLjYiSvqnhFb6D7sHm8yKm4jV45wwBFRaatf1cfZ76"
        audience := "did:key:z6Mkeb6dsrBTX95vPgLiZAcgRr6XJthFm1czoqFEx34DQtRo"
        capabilities := [connectCapability "livnote" "V"], facts := factsOf grantClaims
        signedData := grantCid }),
    (introductionToken,
      { issuer := "did:key:z6Mkeb6dsrBTX95vPgLiZAcgRr6XJthFm1czoqFEx34DQtRo"
        audience := "did:key:z6Mkef1w29eU7SP9XmbDzTwbiisHZ3uTS5JpNEuu1R6pADkW"
        capabilities := [connectCapability "livnote" "V"], proofs := some [grantCid]
        facts := factsOf introductionClaims, signedData := "bafkr4j" })]

theorem mem_of_tabledCrate_tryFrom {tokens : List (String × Ucan)} {token : String} {ucan : Ucan}
    (htoken : (tabledCrate tokens).tryFrom token = .ok ucan) : (token, ucan) ∈ tokens := by
  simp only [tabledCrate] at htoken
  split at htoken
  · next entry hentry =>
      obtain rfl := Except.ok.inj htoken
      have htext := List.find?_some hentry
      rw [decide_eq_true_eq] at htext
      exact htext ▸ List.mem_of_find?_eq_some hentry
  · cases htoken

theorem length_lt_signedToken (payload : String) :
    (tokenSegment payload).length < (signedToken payload).length := by
  have hdot : ".".length = 1 := rfl
  simp only [signedToken, String.length_append]
  omega

theorem decodeKnownPayload_grant :
    decodeKnownPayload (tokenSegment grantText) = .ok grantClaims :=
  if_pos rfl

theorem length_le_introductionMore :
    grantToken.length ≤ introductionMore.length ∧ grantCid.length ≤ introductionMore.length :=
  length_le_pair _ _ _ _ _

theorem grantToken_le : grantToken.length ≤ (tokenSegment introductionText).length := by
  obtain ⟨-, -, -, hmore⟩ := length_le_joined _ _ _ _ _ _ _ introductionMore _
  exact (length_le_introductionMore.1.trans hmore).trans (length_le_tokenSegment _)

theorem decodeKnownPayload_introduction :
    decodeKnownPayload (tokenSegment introductionText) = .ok introductionClaims := by
  have hne : tokenSegment introductionText ≠ tokenSegment grantText := by
    intro heq
    have hgrant := grantToken_le
    rw [heq] at hgrant
    exact absurd (length_lt_signedToken grantText) (Nat.not_lt.mpr hgrant)
  unfold decodeKnownPayload
  rw [if_neg hne, if_pos rfl]

theorem readsPayload_walkTokens :
    ReadsPayload (tabledLibraries walkTokens).crate decodeKnownPayload where
  payload token ucan htoken := by
    have hmem := mem_of_tabledCrate_tryFrom htoken
    unfold walkTokens at hmem
    rcases List.mem_cons.mp hmem with heq | hmem
    · obtain ⟨rfl, rfl⟩ := Prod.mk.inj heq
      exact ⟨_, _, _, _, rfl, decodeKnownPayload_grant, rfl⟩
    · obtain ⟨rfl, rfl⟩ := Prod.mk.inj (List.mem_singleton.mp hmem)
      exact ⟨_, _, _, _, rfl, decodeKnownPayload_introduction, rfl⟩
  text_length_le payload claims hclaims := by
    unfold decodeKnownPayload at hclaims
    split at hclaims
    · next hpayload =>
        obtain rfl := Except.ok.inj hclaims
        rw [hpayload]
        apply forall_payloadClaims
        simp [fieldTexts]
    · split at hclaims
      · next hpayload =>
          obtain rfl := Except.ok.inj hclaims
          rw [hpayload]
          apply forall_payloadClaims
          intro text htext
          simp only [fieldTexts, valueTexts, itemTexts, List.append_nil, List.mem_append,
            List.mem_singleton] at htext
          rcases htext with rfl | rfl
          · exact length_le_introductionMore.1
          · exact length_le_introductionMore.2
      · cases hclaims

def introductionCall : ProofCall :=
  { proofToken := introductionToken, expectedIssuerDid := none }

theorem embedded_proof_walk_ends_introduction :
    ∃ calls, DelegationChain
        (Recurses (tabledLibraries walkTokens) 0 "V" "V" "livnote")
        (Finishes (tabledLibraries walkTokens) 0 "V" "V" "livnote") introductionCall calls ∧
      calls.length ≤ introductionCall.proofToken.length + 1 ∧
      (calls.Pairwise fun outer nested =>
        nested.proofToken.length < outer.proofToken.length) ∧
      ∀ fuel, calls.length ≤ fuel →
        validateEmbeddedProofChain (tabledLibraries walkTokens) 0 "V" "V" "livnote" fuel
            introductionCall.proofToken introductionCall.expectedIssuerDid =
          validateEmbeddedProofChain (tabledLibraries walkTokens) 0 "V" "V" "livnote"
            calls.length introductionCall.proofToken introductionCall.expectedIssuerDid :=
  embedded_proof_walk_ends readsPayload_walkTokens introductionCall

end Osvauld.CryptoUtils
