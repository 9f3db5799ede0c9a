import Mathlib.Data.Rat.Defs
import Osvauld.TypescriptPort.Documents

namespace Osvauld.TypescriptPort

open Osvauld.Core Data

/-! UCAN tokens, and `SharingManager`. -/

inductive Capability
  | read
  | write
  | share
  | delete
deriving DecidableEq

inductive ResourceType
  | document
  | folder
  | all
deriving DecidableEq

structure Resource where
  type : ResourceType
  id : Option String
deriving DecidableEq

structure Attestation where
  resource : Resource
  capabilities : List Capability
deriving DecidableEq

structure UcanHeader where
  alg : String
  typ : String
deriving DecidableEq

/-- `sub` and `fct` are never set, and nothing reads them. -/
structure UcanPayload where
  iss : String
  aud : String
  exp : ℚ
  nbf : Option ℚ
  att : List Attestation
  prf : List String
deriving DecidableEq

structure TokenLibraries extends OsvauldCrypto where
  stringifyHeader : UcanHeader → String
  stringifyPayload : UcanPayload → String
  parseHeader : String → Except String UcanHeader
  parsePayload : String → Except String UcanPayload

def sextetBytes : List Nat → Bytes
  | a :: b :: c :: d :: rest =>
      Base64.highByte a b :: Base64.middleByte b c :: Base64.lowByte c d :: sextetBytes rest
  | [a, b, c] => [Base64.highByte a b, Base64.middleByte b c]
  | [a, b] => [Base64.highByte a b]
  | _ => []

def unpadded (chars : List Char) : List Char :=
  if chars.length % 4 = 0 then
    if chars.drop (chars.length - 2) = ['=', '='] then chars.take (chars.length - 2)
    else if chars.getLast? = some '=' then chars.dropLast
    else chars
  else chars

def atob (text : String) : Except String Bytes :=
  let chars := unpadded
    (text.toList.filter fun char => char ∉ [' ', '\t', '\n', '\x0c', '\r'])
  match chars.mapM Base64.sextet? with
  | some sextets =>
      if sextets.length % 4 = 1 then .error "The string is not correctly encoded."
      else .ok (sextetBytes sextets)
  | none => .error "The string is not correctly encoded."

def base64urlEncode (data : Bytes) : String :=
  .ofList (((Base64.encode data).toList.filter fun char => char ≠ '=').map fun char =>
    if char = '+' then '-' else if char = '/' then '_' else char)

def base64urlDecode (text : String) : Except String Bytes :=
  let base64 := text.toList.map fun char =>
    if char = '-' then '+' else if char = '_' then '/' else char
  atob (.ofList (base64 ++ List.replicate ((4 - base64.length % 4) % 4) '='))

def sextets : Bytes → List Nat
  | [] => []
  | [first] => [first.toNat / 4, first.toNat % 4 * 16]
  | [first, second] =>
      [first.toNat / 4, first.toNat % 4 * 16 + second.toNat / 16, second.toNat % 16 * 4]
  | first :: second :: third :: rest =>
      first.toNat / 4 :: (first.toNat % 4 * 16 + second.toNat / 16) ::
        (second.toNat % 16 * 4 + third.toNat / 64) :: third.toNat % 64 :: sextets rest

def padding (length : Nat) : List Char := List.replicate ((4 - length % 4) % 4) '='

theorem encodeChars_eq (bytes : Bytes) :
    Base64.encodeChars bytes =
      (sextets bytes).map Base64.digit ++ padding (sextets bytes).length := by
  fun_induction sextets bytes with
  | case1 => rfl
  | case2 first => rfl
  | case3 first second => rfl
  | case4 first second third rest ih =>
      have hlength : ∀ length, padding (length + 1 + 1 + 1 + 1) = padding length := by
        intro length
        rw [padding, padding, show (length + 1 + 1 + 1 + 1) % 4 = length % 4 by omega]
      simp [Base64.encodeChars, ih, hlength]

theorem sextets_lt {bytes : Bytes} {sextet : Nat} (hsextet : sextet ∈ sextets bytes) :
    sextet < 64 := by
  fun_induction sextets bytes with
  | case1 => cases hsextet
  | case2 first =>
      have := first.toNat_lt
      simp only [List.mem_cons, List.not_mem_nil, or_false] at hsextet
      omega
  | case3 first second =>
      have := first.toNat_lt
      have := second.toNat_lt
      simp only [List.mem_cons, List.not_mem_nil, or_false] at hsextet
      omega
  | case4 first second third rest ih =>
      have := first.toNat_lt
      have := second.toNat_lt
      have := third.toNat_lt
      simp only [List.mem_cons] at hsextet
      rcases hsextet with hhead | hhead | hhead | hhead | hrest
      · omega
      · omega
      · omega
      · omega
      · exact ih hrest

theorem length_sextets (bytes : Bytes) : (sextets bytes).length % 4 ≠ 1 := by
  fun_induction sextets bytes with
  | case1 => decide
  | case2 first => simp
  | case3 first second => simp
  | case4 first second third rest ih =>
      simp only [List.length_cons]
      omega

theorem sextetBytes_sextets (bytes : Bytes) : sextetBytes (sextets bytes) = bytes := by
  fun_induction sextets bytes with
  | case1 => rfl
  | case2 first =>
      have hbyte := Base64.highByte_split first (Nat.zero_lt_succ 15)
      rw [Nat.add_zero] at hbyte
      rw [sextetBytes, hbyte]
  | case3 first second =>
      have hsecond : second.toNat / 16 < 16 := by
        have := second.toNat_lt
        omega
      have hbyte := Base64.middleByte_split second (first.toNat % 4) (Nat.zero_lt_succ 3)
      rw [Nat.add_zero] at hbyte
      rw [sextetBytes, Base64.highByte_split first hsecond, hbyte]
  | case4 first second third rest ih =>
      have hsecond : second.toNat / 16 < 16 := by
        have := second.toNat_lt
        omega
      have hthird : third.toNat / 64 < 4 := by
        have := third.toNat_lt
        omega
      rw [sextetBytes, Base64.highByte_split first hsecond,
        Base64.middleByte_split second (first.toNat % 4) hthird, Base64.lowByte_split, ih]

theorem digit_plain {sextet : Nat} (hsextet : sextet < 64) :
    Base64.digit sextet ∉ ['=', ' ', '\t', '\n', '\x0c', '\r', '-', '_', '.'] := by
  have hall : ∀ index : Fin 64,
      Base64.digit index ∉ ['=', ' ', '\t', '\n', '\x0c', '\r', '-', '_', '.'] := by
    decide +kernel
  exact hall ⟨sextet, hsextet⟩

theorem unpadded_append {chars : List Char} (hchars : '=' ∉ chars)
    (hlength : chars.length % 4 ≠ 1) : unpadded (chars ++ padding chars.length) = chars := by
  have hdrop : ∀ (count : Nat) (rest : List Char), chars.drop count ≠ '=' :: rest := by
    intro count rest hdrop
    exact hchars (List.mem_of_mem_drop (hdrop ▸ List.mem_cons_self))
  have hmod : chars.length % 4 = 0 ∨ chars.length % 4 = 2 ∨ chars.length % 4 = 3 := by omega
  rcases hmod with hzero | htwo | hthree
  · have hlast : chars.getLast? ≠ some '=' := fun hlast => hchars (List.mem_of_getLast? hlast)
    simp [unpadded, padding, hzero, hdrop, hlast]
  · have hwhole : (chars.length + 2) % 4 = 0 := by omega
    simp [unpadded, padding, htwo, hwhole]
  · have hwhole : (chars.length + 1) % 4 = 0 := by omega
    have hone : (chars ++ ['=']).drop (chars.length - 1) ≠ ['=', '='] := by
      rw [List.drop_append_of_le_length (Nat.sub_le _ _)]
      intro heq
      have hsame : chars.drop (chars.length - 1) ++ ['='] = ['='] ++ ['='] := heq
      exact hdrop _ _ (List.append_inj_left' hsame rfl)
    simp [unpadded, padding, hthree, hwhole, hone]

theorem mapM_sextet_digit {indices : List Nat} (hindices : ∀ index ∈ indices, index < 64) :
    (indices.map Base64.digit).mapM Base64.sextet? = some indices := by
  induction indices with
  | nil => rfl
  | cons index rest ih =>
      obtain ⟨hindex, hrest⟩ := List.forall_mem_cons.mp hindices
      rw [List.map_cons, List.mapM_cons, Base64.sextet?_digit hindex, ih hrest]
      rfl

theorem atob_digits (bytes : Bytes) :
    atob (.ofList ((sextets bytes).map Base64.digit ++ padding (sextets bytes).length)) =
      .ok bytes := by
  have hplain : ∀ char ∈ (sextets bytes).map Base64.digit,
      char ∉ ['=', ' ', '\t', '\n', '\x0c', '\r', '-', '_', '.'] := by
    intro char hchar
    obtain ⟨index, hindex, rfl⟩ := List.mem_map.mp hchar
    exact digit_plain (sextets_lt hindex)
  have hfilter : ((sextets bytes).map Base64.digit ++ padding (sextets bytes).length).filter
      (fun char => char ∉ [' ', '\t', '\n', '\x0c', '\r']) =
        (sextets bytes).map Base64.digit ++ padding (sextets bytes).length := by
    refine List.filter_eq_self.mpr fun char hchar => decide_eq_true ?_
    rcases List.mem_append.mp hchar with hdigit | hpad
    · exact fun hspace => hplain char hdigit (by grind)
    · rw [List.eq_of_mem_replicate hpad]
      decide
  have hunpadded := @unpadded_append ((sextets bytes).map Base64.digit)
    (fun hmem => hplain '=' hmem (by decide))
    (by rw [List.length_map]; exact length_sextets bytes)
  rw [List.length_map] at hunpadded
  rw [atob, String.toList_ofList, hfilter, hunpadded, mapM_sextet_digit fun _ => sextets_lt]
  simp [length_sextets, sextetBytes_sextets]

def urlChar (char : Char) : Char := if char = '+' then '-' else if char = '/' then '_' else char

theorem toList_base64urlEncode (bytes : Bytes) :
    (base64urlEncode bytes).toList = (sextets bytes).map fun index => urlChar (Base64.digit index) := by
  have hdigits : ((sextets bytes).map Base64.digit).filter (fun char => char ≠ '=') =
      (sextets bytes).map Base64.digit := by
    refine List.filter_eq_self.mpr fun char hchar => decide_eq_true ?_
    obtain ⟨index, hindex, rfl⟩ := List.mem_map.mp hchar
    exact fun heq => digit_plain (sextets_lt hindex) (heq ▸ List.mem_cons_self)
  have hpadding : (padding (sextets bytes).length).filter (fun char => char ≠ '=') = [] := by
    refine List.filter_eq_nil_iff.mpr fun char hchar => ?_
    rw [List.eq_of_mem_replicate hchar]
    decide
  rw [base64urlEncode, Base64.encode, String.toList_ofList, String.toList_ofList, encodeChars_eq,
    List.filter_append, hdigits, hpadding, List.append_nil, List.map_map]
  rfl

theorem plain_urlChar {index : Nat} (hindex : index < 64) :
    (if urlChar (Base64.digit index) = '-' then '+'
      else if urlChar (Base64.digit index) = '_' then '/'
      else urlChar (Base64.digit index)) = Base64.digit index ∧
    urlChar (Base64.digit index) ≠ '.' := by
  have hall : ∀ index : Fin 64,
      (if urlChar (Base64.digit index) = '-' then '+'
        else if urlChar (Base64.digit index) = '_' then '/'
        else urlChar (Base64.digit index)) = Base64.digit index ∧
      urlChar (Base64.digit index) ≠ '.' := by
    decide +kernel
  exact hall ⟨index, hindex⟩

theorem base64urlDecode_encode (bytes : Bytes) :
    base64urlDecode (base64urlEncode bytes) = .ok bytes := by
  have hdigits : ((base64urlEncode bytes).toList.map fun char =>
      if char = '-' then '+' else if char = '_' then '/' else char) =
        (sextets bytes).map Base64.digit := by
    rw [toList_base64urlEncode, List.map_map]
    exact List.map_congr_left fun index hindex => (plain_urlChar (sextets_lt hindex)).1
  have hatob := atob_digits bytes
  unfold base64urlDecode
  rw [hdigits]
  dsimp only
  rw [List.length_map]
  exact hatob

theorem dot_not_mem_base64urlEncode (bytes : Bytes) : '.' ∉ (base64urlEncode bytes).toList := by
  rw [toList_base64urlEncode]
  intro hdot
  obtain ⟨index, hindex, heq⟩ := List.mem_map.mp hdot
  exact (plain_urlChar (sextets_lt hindex)).2 heq

theorem splitOn_token (first second third : Bytes) :
    ((base64urlEncode first ++ "." ++ base64urlEncode second ++ "." ++
      base64urlEncode third).toList.splitOn '.').map String.ofList =
        [base64urlEncode first, base64urlEncode second, base64urlEncode third] := by
  have htoken : (base64urlEncode first ++ "." ++ base64urlEncode second ++ "." ++
      base64urlEncode third).toList = (base64urlEncode first).toList ++ '.' ::
        ((base64urlEncode second).toList ++ '.' :: (base64urlEncode third).toList) := by
    simp [String.toList_append]
  rw [htoken, List.splitOn_append_cons_self_of_not_mem (dot_not_mem_base64urlEncode first),
    List.splitOn_append_cons_self_of_not_mem (dot_not_mem_base64urlEncode second),
    List.splitOn_eq_singleton (dot_not_mem_base64urlEncode third)]
  simp

theorem base64urlEncode_ne_empty {bytes : Bytes} (hbytes : bytes ≠ []) :
    base64urlEncode bytes ≠ "" := by
  intro hempty
  have hlist := toList_base64urlEncode bytes
  rw [hempty, String.toList_empty] at hlist
  have hsextets := sextetBytes_sextets bytes
  rw [List.map_eq_nil_iff.mp hlist.symm] at hsextets
  exact hbytes hsextets.symm

section Token

variable (libraries : TokenLibraries)

structure UcanOptions where
  expiresIn : Option Int
  notBefore : Option Int
  proofs : List String

def createUCAN (now : Int) (issuerPrivateKey issuerPublicKey audiencePublicKey : Bytes)
    (attestations : List Attestation) (options : UcanOptions) : String :=
  let exp :=
    match options.expiresIn.filter fun expiresIn => expiresIn ≠ 0 with
    | some expiresIn => now + expiresIn
    | none => now + 24 * 60 * 60 * 1000
  let payload : UcanPayload :=
    { iss := base64urlEncode issuerPublicKey
      aud := base64urlEncode audiencePublicKey
      exp := (exp / 1000 : Int)
      nbf := options.notBefore.map fun notBefore => ((notBefore / 1000 : Int) : ℚ)
      att := attestations
      prf := options.proofs }
  let headerEncoded :=
    base64urlEncode (encodeText (libraries.stringifyHeader { alg := "EdDSA", typ := "JWT" }))
  let payloadEncoded := base64urlEncode (encodeText (libraries.stringifyPayload payload))
  let signingInput := headerEncoded ++ "." ++ payloadEncoded
  let signature := libraries.sign (encodeText signingInput) issuerPrivateKey
  signingInput ++ "." ++ base64urlEncode signature

def verifyUCAN (now : Nat) (token : String) : Except String UcanPayload :=
  match (token.toList.splitOn '.').map String.ofList with
  | [headerEncoded, payloadEncoded, signatureEncoded] =>
      if headerEncoded = "" ∨ payloadEncoded = "" ∨ signatureEncoded = "" then
        .error "Invalid token format - missing parts"
      else do
        let header ← base64urlDecode headerEncoded >>= fun bytes =>
          libraries.parseHeader (libraries.decodeText bytes)
        let payload ← base64urlDecode payloadEncoded >>= fun bytes =>
          libraries.parsePayload (libraries.decodeText bytes)
        let signature ← base64urlDecode signatureEncoded
        if header.alg ≠ "EdDSA" then
          .error "Unsupported algorithm"
        else if payload.exp < now then
          .error "Token expired"
        else if payload.nbf.any fun nbf => (now : ℚ) < nbf then
          .error "Token not yet valid"
        else do
          let signingInput := headerEncoded ++ "." ++ payloadEncoded
          let issuerPublicKey ← base64urlDecode payload.iss
          if libraries.verify signature (encodeText signingInput) issuerPublicKey then .ok payload
          else .error "Invalid signature"
  | _ => .error "Invalid token format"

theorem verifyUCAN_signed {now : Nat} {headerBytes payloadBytes signature issuerPublicKey : Bytes}
    {header : UcanHeader} {payload : UcanPayload}
    (hnonempty : headerBytes ≠ [] ∧ payloadBytes ≠ [] ∧ signature ≠ [])
    (hheader : libraries.parseHeader (libraries.decodeText headerBytes) = .ok header)
    (hpayload : libraries.parsePayload (libraries.decodeText payloadBytes) = .ok payload)
    (halg : header.alg = "EdDSA") (hexp : ¬ payload.exp < now)
    (hnbf : ¬ payload.nbf.any fun nbf => (now : ℚ) < nbf)
    (hissuer : base64urlDecode payload.iss = .ok issuerPublicKey)
    (hverify : libraries.verify signature (encodeText (base64urlEncode headerBytes ++ "." ++
      base64urlEncode payloadBytes)) issuerPublicKey) :
    verifyUCAN libraries now (base64urlEncode headerBytes ++ "." ++ base64urlEncode payloadBytes ++
      "." ++ base64urlEncode signature) = .ok payload := by
  obtain ⟨hfirst, hsecond, hthird⟩ := hnonempty
  have hparts : ¬ (base64urlEncode headerBytes = "" ∨ base64urlEncode payloadBytes = "" ∨
      base64urlEncode signature = "") := by
    simp [base64urlEncode_ne_empty hfirst, base64urlEncode_ne_empty hsecond,
      base64urlEncode_ne_empty hthird]
  rw [verifyUCAN, splitOn_token]
  simp only [if_neg hparts, base64urlDecode_encode, bind, Except.bind, hheader, hpayload, halg, ne_eq,
    not_true_eq_false, if_false, if_neg hexp, if_neg hnbf, hissuer, if_pos hverify]

end Token

def hasCapability (payload : UcanPayload) (resource : Resource) (capability : Capability) :
    Bool :=
  payload.att.any fun att =>
    (att.resource.type = .all ∨
      (att.resource.type = resource.type ∧
        (att.resource.id = none ∨ att.resource.id = resource.id))) ∧
      capability ∈ att.capabilities

structure ShareLink where
  id : String
  documentId : String
  token : String
  capabilities : List Capability
  expiresAt : Int
  createdBy : String
  createdAt : Int
deriving DecidableEq

instance : Entity ShareLink where
  tableName := "shareLinks"
  id := ShareLink.id
  assign stored data := { data with id := stored.id }
  id_assign _ _ := rfl

structure ShareRequest where
  documentId : String
  recipientPublicKey : String
  capabilities : List Capability
  expiresIn : Option Int

namespace SharingManager

abbrev ShareProgram (Result : Type) := Program (Table ShareLink) PortError Result

variable (libraries : TokenLibraries)

def parsePublicKey (key : String) : Except PortError Bytes :=
  match base64urlDecode key with
  | .ok bytes => .ok bytes
  | .error message => .error (.error message)

def createShareLink (id : String) (now : Int) (request : ShareRequest)
    (issuerPrivateKey issuerPublicKey : Bytes) : ShareProgram ShareLink := do
  let recipientPublicKey ← Program.ofExcept (parsePublicKey request.recipientPublicKey)
  let expiresIn :=
    (request.expiresIn.filter fun expiresIn => expiresIn ≠ 0).getD (7 * 24 * 60 * 60 * 1000)
  let token := createUCAN libraries now issuerPrivateKey issuerPublicKey recipientPublicKey
    [⟨⟨.document, some request.documentId⟩, request.capabilities⟩]
    { expiresIn := some expiresIn, notBefore := none, proofs := [] }
  BaseRepository.create
    { id
      documentId := request.documentId
      token
      capabilities := request.capabilities
      expiresAt := now + expiresIn
      createdBy := base64urlEncode issuerPublicKey
      createdAt := now }

def revokeShareLink (shareLinkId : String) : ShareProgram Unit :=
  BaseRepository.delete shareLinkId

/-- The share links play no part. -/
def verifyAccess (now : Nat) (token documentId : String) (requiredCapability : Capability) :
    Bool :=
  match verifyUCAN libraries now token with
  | .error _ => false
  | .ok payload => hasCapability payload ⟨.document, some documentId⟩ requiredCapability

end SharingManager

end Osvauld.TypescriptPort
