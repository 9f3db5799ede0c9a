import Mathlib.Algebra.Group.Int.Defs
import Mathlib.Algebra.Group.Nat.Defs
import Mathlib.Data.List.Basic

namespace Osvauld.Core

abbrev Bytes := List UInt8

/-! JSON values and texts as the sources see them through `serde_json`. -/

inductive Value where
  | null
  | bool (value : Bool)
  | number (value : Int)
  | real (text : String)
  | string (value : String)
  | array (items : List Value)
  | object (fields : List (String × Value))

namespace Value

def get (value : Value) (key : String) : Option Value :=
  match value with
  | .object fields =>
      (fields.find? fun field => field.1 = key).map fun field => field.2
  | _ => none

def asArray (value : Value) : Option (List Value) :=
  match value with
  | .array items => some items
  | _ => none

def asU64 (value : Value) : Option Nat :=
  match value with
  | .number n => if 0 ≤ n ∧ n < 2 ^ 64 then some n.toNat else none
  | _ => none

def ofBytes (bytes : Bytes) : Value :=
  .array (bytes.map fun byte => .number byte.toNat)

def asBytes (value : Value) : Option Bytes :=
  value.asArray.map fun items =>
    items.filterMap fun item => item.asU64.map UInt8.ofNat

def asI64 (value : Value) : Option Int :=
  match value with
  | .number n => if -(2 ^ 63) ≤ n ∧ n < 2 ^ 63 then some n else none
  | _ => none

theorem asU64_ofByte (byte : UInt8) :
    (asU64 (.number byte.toNat)).map UInt8.ofNat = some byte := by
  have hlt : (byte.toNat : Int) < 18446744073709551616 := by
    have := byte.toNat_lt
    omega
  simp [asU64, hlt]

@[simp] theorem asBytes_ofBytes (bytes : Bytes) :
    (ofBytes bytes).asBytes = some bytes := by
  have hsome : ((fun item => (asU64 item).map UInt8.ofNat) ∘
      fun byte : UInt8 => Value.number byte.toNat) = some :=
    funext fun byte => by rw [Function.comp_apply, asU64_ofByte]
  simp only [ofBytes, asBytes, asArray, Option.map_some, List.filterMap_map]
  rw [hsome, List.filterMap_some]

def insertField (fields : List (String × Value)) (key : String) (value : Value) :
    List (String × Value) :=
  if fields.any fun field => field.1 = key then
    fields.map fun field => if field.1 = key then (key, value) else field
  else fields ++ [(key, value)]

def insert (value : Value) (key : String) (item : Value) : Value :=
  match value with
  | .object fields => .object (insertField fields key item)
  | other => other

end Value

/-- A text, up to what parsing it as JSON gives: the text of a value, or one
that does not parse. -/
inductive JsonText where
  | encoded (value : Value)
  | malformed (text : String)

namespace JsonText

def parse (text : JsonText) : Except String Value :=
  match text with
  | .encoded value => .ok value
  | .malformed text => .error text

def parseObject (text : JsonText) : Except String (List (String × Value)) :=
  match text with
  | .encoded (.object fields) => .ok fields
  | .encoded _ => .error "invalid type, expected a map"
  | .malformed text => .error text

end JsonText

end Osvauld.Core
