import Mathlib.Data.List.TakeWhile
import Mathlib.Data.Nat.Digits.Lemmas

namespace Osvauld.Data.Base58

/-! Base58: the digits of a number in one base are written in another, and a zero in
front stays a zero in front. -/

/-- The first digit is the highest. -/
def rebase (source target : Nat) (digits : List Nat) : List Nat :=
  (digits.takeWhile fun digit => digit = 0) ++
    (Nat.digits target (Nat.ofDigits source digits.reverse)).reverse

def alphabet : List Char :=
  "123456789ABCDEFGHJKLMNPQRSTUVWXYZabcdefghijkmnopqrstuvwxyz".toList

def digitChar (digit : Nat) : Char :=
  alphabet.getD digit '1'

def digit? (char : Char) : Option Nat :=
  let index := alphabet.findIdx fun other => other = char
  if index < alphabet.length then some index else none

def encode (bytes : List UInt8) : String :=
  String.ofList ((rebase 256 58 (bytes.map UInt8.toNat)).map digitChar)

def decode (text : String) : Except String (List UInt8) :=
  match text.toList.mapM digit? with
  | some digits => .ok ((rebase 58 256 digits).map UInt8.ofNat)
  | none => .error "not a base58 text"

section Rebase

variable {source target : Nat} {digits : List Nat}

def Leading (digits : List Nat) : Prop :=
  ∀ hne : digits ≠ [], digits.head hne ≠ 0

theorem leading_digits (base number : Nat) : Leading (Nat.digits base number).reverse := by
  intro hne
  rw [List.head_reverse]
  apply Nat.getLast_digit_ne_zero
  intro hzero
  simp [hzero] at hne

theorem leading_dropWhile : Leading (digits.dropWhile fun digit => digit = 0) := by
  intro hne
  have hhead := List.head_dropWhile_not (fun digit => decide (digit = 0)) hne
  simpa using hhead

theorem exists_zeros (digits : List Nat) :
    ∃ zeros rest, Leading rest ∧ digits = List.replicate zeros 0 ++ rest := by
  let isZero : Nat → Bool := fun digit => digit = 0
  have hzeros : digits.takeWhile isZero =
      List.replicate (digits.takeWhile isZero).length 0 := by
    apply List.eq_replicate_of_mem
    intro digit hdigit
    simpa [isZero] using List.mem_takeWhile_imp hdigit
  refine ⟨(digits.takeWhile isZero).length, digits.dropWhile isZero, leading_dropWhile, ?_⟩
  rw [← hzeros, List.takeWhile_append_dropWhile]

theorem takeWhile_zeros_append {zeros : Nat} (hleading : Leading digits) :
    (List.replicate zeros 0 ++ digits).takeWhile (fun digit => digit = 0) =
      List.replicate zeros 0 := by
  rw [List.takeWhile_append_of_pos (by simp)]
  cases digits with
  | nil => simp
  | cons digit rest =>
      have hdigit : digit ≠ 0 := hleading (List.cons_ne_nil _ _)
      simp [hdigit]

theorem rebase_zeros_append {zeros : Nat} (hleading : Leading digits) :
    rebase source target (List.replicate zeros 0 ++ digits) =
      List.replicate zeros 0 ++
        (Nat.digits target (Nat.ofDigits source digits.reverse)).reverse := by
  rw [rebase, takeWhile_zeros_append hleading, List.reverse_append, List.reverse_replicate,
    Nat.ofDigits_append_replicate_zero]

theorem rebase_lt (htarget : 1 < target) :
    ∀ digit ∈ rebase source target digits, digit < target := by
  intro digit hdigit
  rw [rebase, List.mem_append, List.mem_reverse] at hdigit
  rcases hdigit with hzero | hdigit
  · have heq : digit = 0 := by simpa using List.mem_takeWhile_imp hzero
    omega
  · exact Nat.digits_lt_base htarget hdigit

theorem rebase_rebase (hsource : 1 < source)
    (hdigits : ∀ digit ∈ digits, digit < source) :
    rebase target source (rebase source target digits) = digits := by
  obtain ⟨zeros, rest, hleading, rfl⟩ := exists_zeros digits
  have hrest : Nat.digits source (Nat.ofDigits source rest.reverse) = rest.reverse := by
    apply Nat.digits_ofDigits source hsource
    · intro digit hdigit
      exact hdigits digit (List.mem_append_right _ (List.mem_reverse.mp hdigit))
    · intro hne
      rw [List.getLast_reverse]
      exact hleading _
  rw [rebase_zeros_append hleading, rebase_zeros_append (leading_digits _ _),
    List.reverse_reverse, Nat.ofDigits_digits, hrest, List.reverse_reverse]

end Rebase

theorem digit?_digitChar {digit : Nat} (hdigit : digit < 58) :
    digit? (digitChar digit) = some digit := by
  have hall : ∀ index : Fin 58, digit? (digitChar index) = some index.val := by
    decide +kernel
  exact hall ⟨digit, hdigit⟩

theorem digit?_eq_some {char : Char} {digit : Nat} (hchar : digit? char = some digit) :
    digit < 58 ∧ digitChar digit = char := by
  simp only [digit?] at hchar
  split at hchar
  · next hindex =>
      obtain rfl := Option.some.inj hchar
      have hfound := List.findIdx_getElem (w := hindex)
      refine ⟨hindex, ?_⟩
      rw [digitChar, List.getD_eq_getElem?_getD, List.getElem?_eq_getElem hindex, Option.getD_some]
      simpa using hfound
  · cases hchar

theorem mapM_digit?_eq_some_iff {chars : List Char} {digits : List Nat} :
    chars.mapM digit? = some digits ↔
      (∀ digit ∈ digits, digit < 58) ∧ chars = digits.map digitChar := by
  induction chars generalizing digits with
  | nil => cases digits <;> simp
  | cons char chars ih =>
      cases digits with
      | nil => simp [Option.bind_eq_some_iff]
      | cons digit digits =>
          simp only [List.mapM_cons, Option.bind_eq_bind, Option.bind_eq_some_iff, ih,
            List.forall_mem_cons, List.map_cons, List.cons.injEq, Option.pure_def,
            Option.some.injEq]
          constructor
          · rintro ⟨_, hchar, _, ⟨hdigits, hchars⟩, rfl, rfl⟩
            obtain ⟨hdigit, heq⟩ := digit?_eq_some hchar
            exact ⟨⟨hdigit, hdigits⟩, heq.symm, hchars⟩
          · rintro ⟨⟨hdigit, hdigits⟩, rfl, hchars⟩
            exact ⟨digit, digit?_digitChar hdigit, digits, ⟨hdigits, hchars⟩, rfl, rfl⟩

theorem rebase_bytes (bytes : List UInt8) :
    rebase 58 256 (rebase 256 58 (bytes.map UInt8.toNat)) = bytes.map UInt8.toNat := by
  apply rebase_rebase (by omega)
  simp only [List.forall_mem_map]
  intro byte _
  exact byte.toNat_lt

theorem decode_eq_ok_iff {text : String} {bytes : List UInt8} :
    decode text = .ok bytes ↔ text = encode bytes := by
  unfold decode
  constructor
  · intro hdecode
    split at hdecode
    · next digits hdigits =>
        obtain ⟨hlt, hchars⟩ := mapM_digit?_eq_some_iff.mp hdigits
        obtain rfl := Except.ok.inj hdecode
        have hbytes : (rebase 58 256 digits).map (UInt8.toNat ∘ UInt8.ofNat) =
            rebase 58 256 digits := by
          conv_rhs => rw [← List.map_id (rebase 58 256 digits)]
          apply List.map_congr_left
          intro digit hdigit
          exact UInt8.toNat_ofNat_of_lt' (rebase_lt (Nat.one_lt_ofNat) digit hdigit)
        rw [encode, List.map_map, hbytes, rebase_rebase (by omega) hlt, ← hchars,
          String.ofList_toList]
    · cases hdecode
  · rintro rfl
    have hdigits : (encode bytes).toList.mapM digit? =
        some (rebase 256 58 (bytes.map UInt8.toNat)) := by
      rw [mapM_digit?_eq_some_iff, encode, String.toList_ofList]
      exact ⟨rebase_lt (by omega), rfl⟩
    have hbytes : (bytes.map UInt8.toNat).map UInt8.ofNat = bytes := by
      simp [Function.comp_def]
    simp only [hdigits, rebase_bytes, hbytes]

example : encode [0xed, 0x01, 7] = "2NcDC" := by decide +kernel

end Osvauld.Data.Base58
