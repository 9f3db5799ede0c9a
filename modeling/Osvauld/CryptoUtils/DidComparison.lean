import Osvauld.CryptoUtils.UcanUtils
import Osvauld.Data.Base58
import Osvauld.Data.Base64

namespace Osvauld.CryptoUtils

open Osvauld.Core Data

/-! DIDs as the texts that are made for keys, and as the texts that are compared with
keys. -/

structure CanonicalBase58 (encodings : Encodings) : Prop where
  decode_eq_ok_iff : ∀ text bytes, encodings.bs58Decode text = .ok bytes ↔
    text = encodings.bs58Encode bytes

namespace CanonicalBase58

variable {encodings : Encodings} (canonical : CanonicalBase58 encodings)

include canonical

theorem decode_encode (bytes : Bytes) :
    encodings.bs58Decode (encodings.bs58Encode bytes) = .ok bytes :=
  (canonical.decode_eq_ok_iff _ _).mpr rfl

theorem encode_inj {first second : Bytes}
    (heq : encodings.bs58Encode first = encodings.bs58Encode second) : first = second := by
  have hfirst := canonical.decode_encode first
  rw [heq, canonical.decode_encode second] at hfirst
  exact (Except.ok.inj hfirst).symm

end CanonicalBase58

section Compare

variable (libraries : UcanLibraries)

def taggedDid (tag key : Bytes) : String :=
  didKeyPrefix ++ libraries.encodings.bs58Encode (tag ++ key)

/-- Where a DID is the key behind some tag, the tag is the one of Ed25519 keys if and
only if the key has bytes. -/
def TagFitsKey (did keyB64 : String) : Prop :=
  ∀ tag key : Bytes, tag.length = 2 → did = taggedDid libraries tag key →
    libraries.encodings.base64Decode keyB64 = .ok key →
      (tag = ed25519MagicBytes ↔ key ≠ [])

variable {libraries} (canonical : CanonicalBase58 libraries.encodings)
variable {did keyB64 : String}

theorem pubKeyB64ToDid_eq_ok_iff :
    pubKeyB64ToDid libraries keyB64 = .ok did ↔
      ∃ key, libraries.encodings.base64Decode keyB64 = .ok key ∧
        did = taggedDid libraries ed25519MagicBytes key := by
  unfold pubKeyB64ToDid
  cases hkey : libraries.encodings.base64Decode keyB64 with
  | error message => simp
  | ok key => simp [didOfKey, taggedDid, eq_comm]

theorem exists_of_isPrefixOf {front text : String}
    (hfront : front.toList.isPrefixOf text.toList = true) :
    text = front ++ String.ofList (text.toList.drop front.length) := by
  rw [List.isPrefixOf_iff_prefix] at hfront
  obtain ⟨rest, hrest⟩ := hfront
  apply String.toList_inj.mp
  rw [String.toList_append, String.toList_ofList, ← hrest, ← String.length_toList,
    List.drop_left]

theorem verifyDidKeyMatch_eq_ok :
    verifyDidKeyMatch libraries did keyB64 = .ok () ↔
      ∃ key, keyFromDid libraries did = .ok key ∧
        libraries.encodings.base64Decode keyB64 = .ok key := by
  unfold verifyDidKeyMatch
  cases hfound : keyFromDid libraries did with
  | error error => simp
  | ok found =>
      cases hkey : libraries.encodings.base64Decode keyB64 with
      | error message => simp
      | ok key =>
          by_cases heq : found = key
          · simp [heq]
          · simp [heq, eq_comm]

include canonical

theorem keyFromDid_eq_ok_iff {key : Bytes} :
    keyFromDid libraries did = .ok key ↔
      key ≠ [] ∧ ∃ tag : Bytes, tag.length = 2 ∧ did = taggedDid libraries tag key := by
  constructor
  · intro hkey
    unfold keyFromDid at hkey
    split at hkey
    · next hprefix =>
        split at hkey
        · cases hkey
        · next decoded hdecoded =>
            split at hkey
            · cases hkey
            · next hlong =>
                obtain rfl := Except.ok.inj hkey
                have htext := (canonical.decode_eq_ok_iff _ _).mp hdecoded
                have htag : (decoded.take 2).length = 2 := by
                  rw [List.length_take]
                  omega
                refine ⟨List.ne_nil_of_length_pos ?_, decoded.take 2, htag, ?_⟩
                · rw [List.length_drop]
                  omega
                · rw [taggedDid, List.take_append_drop, ← htext]
                  exact exists_of_isPrefixOf hprefix
    · cases hkey
  · rintro ⟨hne, tag, htag, rfl⟩
    have hpos := List.length_pos_of_ne_nil hne
    have hlong : ¬ (tag ++ key).length ≤ 2 := by
      rw [List.length_append]
      omega
    unfold keyFromDid taggedDid
    rw [if_pos (by simp [String.toList_append])]
    simp only [String.toList_append, ← String.length_toList]
    rw [List.drop_left, String.ofList_toList, canonical.decode_encode]
    simp only [if_neg hlong]
    rw [← htag, List.drop_left]

theorem verifyDidKeyMatch_eq_ok_iff :
    verifyDidKeyMatch libraries did keyB64 = .ok () ↔
      ∃ key tag : Bytes, libraries.encodings.base64Decode keyB64 = .ok key ∧ key ≠ [] ∧
        tag.length = 2 ∧ did = taggedDid libraries tag key := by
  rw [verifyDidKeyMatch_eq_ok]
  constructor
  · rintro ⟨key, hfound, hkey⟩
    obtain ⟨hne, tag, htag, hdid⟩ := (keyFromDid_eq_ok_iff canonical).mp hfound
    exact ⟨key, tag, hkey, hne, htag, hdid⟩
  · rintro ⟨key, tag, hkey, hne, htag, hdid⟩
    exact ⟨key, (keyFromDid_eq_ok_iff canonical).mpr ⟨hne, tag, htag, hdid⟩, hkey⟩

theorem taggedDid_inj {tag otherTag key : Bytes} (htag : tag.length = otherTag.length)
    (heq : taggedDid libraries tag key = taggedDid libraries otherTag key) :
    tag = otherTag := by
  unfold taggedDid at heq
  have hencoded := canonical.encode_inj ((String.append_right_inj _).mp heq)
  exact (List.append_inj hencoded htag).1

/-- What is compared with a key is what is made for it, up to the tag. -/
theorem verifyDidKeyMatch_iff_pubKeyB64ToDid :
    (verifyDidKeyMatch libraries did keyB64 = .ok () ↔
        pubKeyB64ToDid libraries keyB64 = .ok did) ↔
      TagFitsKey libraries did keyB64 := by
  rw [verifyDidKeyMatch_eq_ok_iff canonical, pubKeyB64ToDid_eq_ok_iff]
  constructor
  · intro hsame tag key htag hdid hkey
    constructor
    · rintro rfl
      obtain ⟨other, -, hother, hne, -, -⟩ := hsame.mpr ⟨key, hkey, hdid⟩
      obtain rfl := Except.ok.inj (hkey.symm.trans hother)
      exact hne
    · intro hne
      obtain ⟨other, hother, hmade⟩ := hsame.mp ⟨key, tag, hkey, hne, htag, hdid⟩
      obtain rfl := Except.ok.inj (hkey.symm.trans hother)
      exact taggedDid_inj canonical htag (hdid.symm.trans hmade)
  · intro hfits
    constructor
    · rintro ⟨key, tag, hkey, hne, htag, hdid⟩
      obtain rfl := (hfits tag key htag hdid hkey).mpr hne
      exact ⟨key, hkey, hdid⟩
    · rintro ⟨key, hkey, hdid⟩
      exact ⟨key, ed25519MagicBytes, hkey, (hfits _ key rfl hdid hkey).mp rfl, rfl, hdid⟩

theorem accepted_dids_eq {other : String} (hdid : TagFitsKey libraries did keyB64)
    (hother : TagFitsKey libraries other keyB64)
    (haccepted : verifyDidKeyMatch libraries did keyB64 = .ok ())
    (hotherAccepted : verifyDidKeyMatch libraries other keyB64 = .ok ()) : did = other := by
  obtain ⟨key, tag, hkey, hne, htag, rfl⟩ :=
    (verifyDidKeyMatch_eq_ok_iff canonical).mp haccepted
  obtain ⟨otherKey, otherTag, hotherKey, -, hotherTag, rfl⟩ :=
    (verifyDidKeyMatch_eq_ok_iff canonical).mp hotherAccepted
  obtain rfl := Except.ok.inj (hkey.symm.trans hotherKey)
  rw [(hdid tag key htag rfl hkey).mpr hne, (hother otherTag key hotherTag rfl hkey).mpr hne]

end Compare

def standardEncodings : Encodings :=
  { bs58Decode := Base58.decode
    bs58Encode := Base58.encode
    base64Decode := Base64.decode
    base64Encode := Base64.encode }

theorem canonicalBase58_standard : CanonicalBase58 standardEncodings where
  decode_eq_ok_iff _ _ := Base58.decode_eq_ok_iff

def standardLibraries : UcanLibraries :=
  { tabledLibraries [] with encodings := standardEncodings }

def x25519Tag : Bytes := [0xec, 0x01]

def someKey : Bytes := List.replicate 32 7

def someKeyB64 : String := Base64.encode someKey

theorem verifyDidKeyMatch_iff_pubKeyB64ToDid_someKey :
    (verifyDidKeyMatch standardLibraries
          (taggedDid standardLibraries ed25519MagicBytes someKey) someKeyB64 = .ok () ↔
        pubKeyB64ToDid standardLibraries someKeyB64 =
          .ok (taggedDid standardLibraries ed25519MagicBytes someKey)) ↔
      TagFitsKey standardLibraries
        (taggedDid standardLibraries ed25519MagicBytes someKey) someKeyB64 :=
  verifyDidKeyMatch_iff_pubKeyB64ToDid canonicalBase58_standard

theorem did_of_other_key_type_accepted :
    ¬ (verifyDidKeyMatch standardLibraries (taggedDid standardLibraries x25519Tag someKey)
          someKeyB64 = .ok () ↔
        pubKeyB64ToDid standardLibraries someKeyB64 =
          .ok (taggedDid standardLibraries x25519Tag someKey)) := by
  have hkey : standardLibraries.encodings.base64Decode someKeyB64 = .ok someKey :=
    Base64.decode_encode someKey
  have haccepted : verifyDidKeyMatch standardLibraries
      (taggedDid standardLibraries x25519Tag someKey) someKeyB64 = .ok () :=
    (verifyDidKeyMatch_eq_ok_iff canonicalBase58_standard).mpr
      ⟨someKey, x25519Tag, hkey, by decide, rfl, rfl⟩
  intro hsame
  obtain ⟨key, hmade, hdid⟩ := pubKeyB64ToDid_eq_ok_iff.mp (hsame.mp haccepted)
  obtain rfl := Except.ok.inj (hkey.symm.trans hmade)
  have hlength : x25519Tag.length = ed25519MagicBytes.length := rfl
  exact absurd (taggedDid_inj canonicalBase58_standard hlength hdid) (by decide)

end Osvauld.CryptoUtils
