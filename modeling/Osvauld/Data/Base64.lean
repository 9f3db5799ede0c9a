import Mathlib.Data.Nat.Basic
import Mathlib.Data.List.Basic

namespace Osvauld.Data.Base64

/-! Base64 with the standard alphabet and padding. -/

def alphabet : List Char :=
  "ABCDEFGHIJKLMNOPQRSTUVWXYZabcdefghijklmnopqrstuvwxyz0123456789+/".toList

def digit (sextet : Nat) : Char :=
  alphabet.getD sextet '='

def sextet? (char : Char) : Option Nat :=
  let index := alphabet.findIdx fun other => other = char
  if index < alphabet.length then some index else none

def encodeChars : List UInt8 → List Char
  | [] => []
  | [first] =>
      [digit (first.toNat / 4), digit (first.toNat % 4 * 16), '=', '=']
  | [first, second] =>
      [digit (first.toNat / 4), digit (first.toNat % 4 * 16 + second.toNat / 16),
        digit (second.toNat % 16 * 4), '=']
  | first :: second :: third :: rest =>
      digit (first.toNat / 4) :: digit (first.toNat % 4 * 16 + second.toNat / 16) ::
        digit (second.toNat % 16 * 4 + third.toNat / 64) ::
          digit (third.toNat % 64) :: encodeChars rest

def highByte (a b : Nat) : UInt8 := .ofNat (a * 4 + b / 16)

def middleByte (b c : Nat) : UInt8 := .ofNat (b % 16 * 16 + c / 4)

def lowByte (c d : Nat) : UInt8 := .ofNat (c % 4 * 64 + d)

/-- The bytes of one group of four characters; the last group may be padded,
and what the padding cuts off is zero. -/
def decodeGroup (first second third fourth : Char) (last : Bool) :
    Option (List UInt8) :=
  match sextet? first, sextet? second, sextet? third, sextet? fourth with
  | some a, some b, some c, some d => some [highByte a b, middleByte b c, lowByte c d]
  | some a, some b, some c, none =>
      if last ∧ fourth = '=' ∧ c % 4 = 0 then some [highByte a b, middleByte b c]
      else none
  | some a, some b, none, none =>
      if last ∧ third = '=' ∧ fourth = '=' ∧ b % 16 = 0 then some [highByte a b]
      else none
  | _, _, _, _ => none

def decodeChars : List Char → Option (List UInt8)
  | [] => some []
  | first :: second :: third :: fourth :: rest =>
      match decodeGroup first second third fourth rest.isEmpty, decodeChars rest with
      | some bytes, some others => some (bytes ++ others)
      | _, _ => none
  | _ => none

def encode (bytes : List UInt8) : String :=
  String.ofList (encodeChars bytes)

def decode (text : String) : Except String (List UInt8) :=
  match decodeChars text.toList with
  | some bytes => .ok bytes
  | none => .error "not a base64 text"

theorem sextet?_digit {sextet : Nat} (hsextet : sextet < 64) :
    sextet? (digit sextet) = some sextet := by
  have hall : ∀ index : Fin 64, sextet? (digit index) = some index.val := by
    decide +kernel
  exact hall ⟨sextet, hsextet⟩

@[simp] theorem sextet?_padding : sextet? '=' = none := by
  decide +kernel

section Bytes

variable (first second third : UInt8)

theorem ofNat_eq_byte {value : Nat} {byte : UInt8} (hvalue : value = byte.toNat) :
    UInt8.ofNat value = byte := by
  rw [hvalue, UInt8.ofNat_toNat]

variable {below : Nat}

theorem highByte_split (hbelow : below < 16) :
    highByte (first.toNat / 4) (first.toNat % 4 * 16 + below) = first := by
  apply ofNat_eq_byte
  omega

theorem middleByte_split (above : Nat) (hbelow : below < 4) :
    middleByte (above * 16 + second.toNat / 16) (second.toNat % 16 * 4 + below) =
      second := by
  have hsecond := second.toNat_lt
  apply ofNat_eq_byte
  omega

@[simp] theorem lowByte_split (above : Nat) :
    lowByte (above * 4 + third.toNat / 64) (third.toNat % 64) = third := by
  have hthird := third.toNat_lt
  apply ofNat_eq_byte
  omega

theorem sextet?_high : sextet? (digit (first.toNat / 4)) = some (first.toNat / 4) := by
  have hfirst := first.toNat_lt
  exact sextet?_digit (by omega)

theorem sextet?_middle (hbelow : below < 16) :
    sextet? (digit (first.toNat % 4 * 16 + below)) =
      some (first.toNat % 4 * 16 + below) :=
  sextet?_digit (by omega)

theorem sextet?_low (hbelow : below < 4) :
    sextet? (digit (second.toNat % 16 * 4 + below)) =
      some (second.toNat % 16 * 4 + below) :=
  sextet?_digit (by omega)

end Bytes

theorem decodeChars_encodeChars (bytes : List UInt8) :
    decodeChars (encodeChars bytes) = some bytes := by
  fun_induction encodeChars bytes with
  | case1 => rfl
  | case2 first =>
      have hmiddle := sextet?_middle first (Nat.zero_lt_succ 15)
      have hbyte := highByte_split first (Nat.zero_lt_succ 15)
      rw [Nat.add_zero] at hmiddle hbyte
      simp [decodeChars, decodeGroup, sextet?_high, hmiddle, hbyte]
  | case3 first second =>
      have hsecond : second.toNat / 16 < 16 := by
        have := second.toNat_lt
        omega
      have hlow := sextet?_low second (Nat.zero_lt_succ 3)
      have hbyte := middleByte_split second (first.toNat % 4) (Nat.zero_lt_succ 3)
      rw [Nat.add_zero] at hlow hbyte
      simp [decodeChars, decodeGroup, sextet?_high, sextet?_middle first hsecond, hlow,
        highByte_split first hsecond, hbyte]
  | case4 first second third rest ih =>
      have hsecond : second.toNat / 16 < 16 := by
        have := second.toNat_lt
        omega
      have hthird : third.toNat / 64 < 4 := by
        have := third.toNat_lt
        omega
      have hlast : sextet? (digit (third.toNat % 64)) = some (third.toNat % 64) :=
        sextet?_digit (by omega)
      simp [decodeChars, decodeGroup, sextet?_high, sextet?_middle first hsecond,
        sextet?_low second hthird, hlast, highByte_split first hsecond,
        middleByte_split second (first.toNat % 4) hthird, ih]

theorem decode_encode (bytes : List UInt8) : decode (encode bytes) = .ok bytes := by
  simp [decode, encode, decodeChars_encodeChars]

@[simp] theorem decode_empty : decode "" = .ok [] := rfl

example : encode [77, 97] = "TWE=" := by decide +kernel

end Osvauld.Data.Base64
