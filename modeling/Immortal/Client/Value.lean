import Immortal.Bitcoin.Script
import Immortal.Txn.Checks

/-!
# `Immortal.Client.Value` — JSON documents, hexadecimal text and client errors

The requester client (`immortal-client`) checks adversarial JSON: a Swap Contract, its leg verifiers and
the exit packages are `serde_json::Value`s, read member by member with `get(..).and_then(as_str)` and
compared as values. This module is that data layer, under the client's own helper names.
-/

namespace Immortal.Client

open Txn

/-! ## Errors -/

/-- `SwapClientError`: a stable code and a text for the operator. -/
structure ClientError where
  code : String
  message : String
deriving DecidableEq, Repr

/-- The result of a client check. -/
abbrev Checked (α : Type) := Except ClientError α

/-- `if condition { return Err(SwapClientError::new(code, message)) }`. -/
def refuseIf (condition : Bool) (code message : String) : Checked Unit :=
  if condition then .error ⟨code, message⟩ else .ok ()

/-- `option.ok_or_else(|| SwapClientError::new(code, message))`. -/
def orRefuse {α : Type} (value : Option α) (code message : String) : Checked α :=
  match value with
  | some value => .ok value
  | none => .error ⟨code, message⟩

@[simp] theorem refuseIf_eq_ok {condition : Bool} {code message : String} {u : Unit} :
    refuseIf condition code message = .ok u ↔ condition = false := by
  cases condition <;> simp [refuseIf]

@[simp] theorem orRefuse_eq_ok {α : Type} {value : Option α} {code message : String} {result : α} :
    orRefuse value code message = .ok result ↔ value = some result := by
  cases value <;> simp [orRefuse]

/-! ## Bytes and text -/

/-- `str::as_bytes`. -/
def utf8 (text : String) : Bytes := text.toUTF8.data.toList

/-- `b'0'..=b'9' | b'a'..=b'f'`. -/
def isLowerHexByte (byte : UInt8) : Bool :=
  (48 ≤ byte.toNat && byte.toNat ≤ 57) || (97 ≤ byte.toNat && byte.toNat ≤ 102)

def requireLowerHex32 (value label : String) : Checked Unit :=
  if (utf8 value).length = 64 ∧ (utf8 value).all isLowerHexByte = true then .ok ()
  else .error ⟨"swp_contract_terms_mismatch", label ++ " must be 64 lowercase hexadecimal characters"⟩

def requireLowerHex (value label : String) : Checked Unit :=
  if value ≠ "" ∧ (utf8 value).length % 2 = 0 ∧ (utf8 value).all isLowerHexByte = true then .ok ()
  else .error ⟨"swp_exit_package_unusable", label ++ " must be nonempty lowercase hexadecimal bytes"⟩

def hexDigit (byte : UInt8) : Checked UInt8 :=
  if 48 ≤ byte.toNat ∧ byte.toNat ≤ 57 then .ok (byte - 48)
  else if 97 ≤ byte.toNat ∧ byte.toNat ≤ 102 then .ok (byte - 97 + 10)
  else .error ⟨"swp_contract_terms_mismatch", "hexadecimal value is invalid"⟩

/-- The `chunks_exact(2)` loop of `decode_hex`: a trailing odd byte is dropped. -/
def decodeHexPairs : Bytes → Checked Bytes
  | high :: low :: rest => do
    let high ← hexDigit high
    let low ← hexDigit low
    let rest ← decodeHexPairs rest
    return (high <<< 4 ||| low) :: rest
  | _ => .ok []

def decodeHex (value label : String) : Checked Bytes := do
  requireLowerHex value label
  decodeHexPairs (utf8 value)

def lowerHex (bytes : Bytes) : String :=
  String.ofList (bytes.flatMap fun byte => [Nat.digitChar (byte.toNat / 16), Nat.digitChar (byte.toNat % 16)])

theorem digitChar_inj : ∀ m < 16, ∀ n < 16, Nat.digitChar m = Nat.digitChar n → m = n := by
  decide

/-- **Hexadecimal text determines the bytes.** -/
theorem lowerHex_inj {bytes bytes' : Bytes} (h : lowerHex bytes = lowerHex bytes') : bytes = bytes' := by
  have hchars := congrArg String.toList h
  simp only [lowerHex, String.toList_ofList] at hchars
  clear h
  induction bytes generalizing bytes' with
  | nil =>
    cases bytes' with
    | nil => rfl
    | cons byte' rest' => simp at hchars
  | cons byte rest ih =>
    cases bytes' with
    | nil => simp at hchars
    | cons byte' rest' =>
      simp only [List.flatMap_cons, List.cons_append, List.cons.injEq] at hchars
      obtain ⟨hhigh, hlow, hrest⟩ := hchars
      have hb : byte.toNat < 256 := byte.toNat_lt
      have hb' : byte'.toNat < 256 := byte'.toNat_lt
      have hdiv := digitChar_inj _ (by omega) _ (by omega) hhigh
      have hmod := digitChar_inj _ (by omega) _ (by omega) hlow
      have hbyte : byte = byte' := UInt8.toNat_inj.mp (by omega)
      rw [hbyte, ih hrest]

/-! ## Documents -/

/-- `serde_json::Value`. A number is an integer or the text of a float; an object lists its members in key
    order, as a `BTreeMap` iterates them. -/
inductive Value where
  | null
  | bool (value : Bool)
  | integer (value : Int)
  | float (text : String)
  | string (value : String)
  | array (items : List Value)
  | object (members : List (String × Value))

/-- `serde_json::Map<String, Value>`. -/
abbrev Members := List (String × Value)

mutual

/-- Equality of two documents, as `PartialEq` for `serde_json::Value` walks them. -/
def Value.same : Value → Value → Bool
  | .null, .null => true
  | .bool a, .bool b => a == b
  | .integer a, .integer b => a == b
  | .float a, .float b => a == b
  | .string a, .string b => a == b
  | .array a, .array b => Value.sameItems a b
  | .object a, .object b => Value.sameMembers a b
  | _, _ => false

def Value.sameItems : List Value → List Value → Bool
  | [], [] => true
  | a :: as, b :: bs => Value.same a b && Value.sameItems as bs
  | _, _ => false

def Value.sameMembers : List (String × Value) → List (String × Value) → Bool
  | [], [] => true
  | (n, a) :: as, (m, b) :: bs => n == m && (Value.same a b && Value.sameMembers as bs)
  | _, _ => false

end

mutual

theorem Value.same_iff : ∀ v w : Value, Value.same v w = true ↔ v = w
  | .null, w => by cases w <;> simp [Value.same]
  | .bool a, w => by cases w <;> simp [Value.same]
  | .integer a, w => by cases w <;> simp [Value.same]
  | .float a, w => by cases w <;> simp [Value.same]
  | .string a, w => by cases w <;> simp [Value.same]
  | .array a, w => by cases w <;> simp [Value.same, Value.sameItems_iff a]
  | .object a, w => by cases w <;> simp [Value.same, Value.sameMembers_iff a]

theorem Value.sameItems_iff : ∀ v w : List Value, Value.sameItems v w = true ↔ v = w
  | [], w => by cases w <;> simp [Value.sameItems]
  | a :: as, w => by cases w <;> simp [Value.sameItems, Value.same_iff a, Value.sameItems_iff as]

theorem Value.sameMembers_iff : ∀ v w : List (String × Value), Value.sameMembers v w = true ↔ v = w
  | [], w => by cases w <;> simp [Value.sameMembers]
  | (n, a) :: as, w => by
    cases w with
    | nil => simp [Value.sameMembers]
    | cons b bs => simp [Value.sameMembers, Value.same_iff a, Value.sameMembers_iff as, Prod.ext_iff, and_assoc]

end

instance : DecidableEq Value := fun v w => decidable_of_iff _ (Value.same_iff v w)

/-- `Map::get`. -/
def Members.get (members : Members) (name : String) : Option Value := members.lookup name

/-- `Map::contains_key`. -/
def Members.contains (members : Members) (name : String) : Bool := (members.get name).isSome

/-- `Map::remove`. -/
def Members.remove (members : Members) (name : String) : Members := members.filter fun member => member.1 != name

def Value.asStr : Value → Option String
  | .string value => some value
  | _ => none

def Value.asArray : Value → Option (List Value)
  | .array items => some items
  | _ => none

def Value.asObject : Value → Option Members
  | .object members => some members
  | _ => none

/-- `Value::as_u64`: a nonnegative integer that fits. -/
def Value.asU64 : Value → Option Nat
  | .integer value => if 0 ≤ value ∧ value < 2 ^ 64 then some value.toNat else none
  | _ => none

/-- `Value::get` with a member name: absent on anything but an object. -/
def Value.get (value : Value) (name : String) : Option Value := value.asObject.bind (·.get name)

/-- `.get(name).and_then(Value::as_str)`. -/
def Value.text (value : Value) (name : String) : Option String := (value.get name).bind Value.asStr

/-- `.get(name).and_then(Value::as_str)` on a map. -/
def Members.text (members : Members) (name : String) : Option String := (members.get name).bind Value.asStr

/-- `.get(name).and_then(Value::as_array)`. -/
def Members.items (members : Members) (name : String) : Option (List Value) := (members.get name).bind Value.asArray

/-- `.get(name).unwrap_or(&Value::Null)`. -/
def Members.orNull (members : Members) (name : String) : Value := (members.get name).getD .null

def object (value : Value) (subject : String) : Checked Members :=
  orRefuse value.asObject "swp_contract_terms_mismatch" (subject ++ " must be an object")

def requireString (members : Members) (name : String) (expected : Option String) (code : String) :
    Checked String := do
  let value ← orRefuse (members.text name) code (name ++ " must be a string")
  refuseIf (expected.any (value != ·)) code (name ++ " has an unexpected value")
  return value

@[simp] theorem object_eq_ok {value : Value} {subject : String} {members : Members} :
    object value subject = .ok members ↔ value = .object members := by
  cases value <;> simp [object, Value.asObject]

theorem requireString_eq_ok {members : Members} {name code value : String} :
    requireString members name none code = .ok value ↔ members.text name = some value := by
  simp [requireString, bind_eq_ok, pure, Except.pure]

/-- The number a run of decimal digits writes. -/
def decimalValue (digits : Bytes) : Nat := digits.foldl (fun value digit => value * 10 + (digit.toNat - 48)) 0

/-- `canonical_amount`: a decimal `u64` without leading zeros. -/
def canonicalAmount (value : String) : Checked Nat := do
  let digits := utf8 value
  refuseIf
    (digits.isEmpty || !digits.all (fun digit => 48 ≤ digit.toNat && digit.toNat ≤ 57) ||
      (1 < digits.length && digits.head? = some 48))
    "swp_invalid_amount" "amount is not a canonical decimal string"
  refuseIf (2 ^ 64 ≤ decimalValue digits) "swp_invalid_amount" "amount exceeds u64"
  return decimalValue digits

/-! ## Canonical form -/

/-- The escapes of `serde_json::to_string`, which works on the bytes of a string. -/
def escapeByte (byte : UInt8) : Bytes :=
  if byte = 34 then [92, 34]
  else if byte = 92 then [92, 92]
  else if byte = 8 then [92, 98]
  else if byte = 9 then [92, 116]
  else if byte = 10 then [92, 110]
  else if byte = 12 then [92, 102]
  else if byte = 13 then [92, 114]
  else if byte.toNat < 32 then [92, 117, 48, 48] ++ utf8 (lowerHex [byte])
  else [byte]

/-- `serde_json::to_string` on a string. -/
def quoted (text : String) : Bytes := [34] ++ (utf8 text).flatMap escapeByte ++ [34]

/-- Orders UTF-8 bytes as their UTF-16 encodings: the characters from U+E000 to U+FFFF (lead bytes `0xee` and
    `0xef`) come after those written with surrogates (lead bytes from `0xf0` on). -/
def utf16Rank (byte : UInt8) : Nat := if byte = 0xee ∨ byte = 0xef then byte.toNat + 16 else byte.toNat

/-- `left.encode_utf16().cmp(right.encode_utf16())` is not greater. -/
def utf16Le (left right : String) : Prop := (utf8 left).map utf16Rank ≤ (utf8 right).map utf16Rank

instance : DecidableRel utf16Le := fun left right =>
  inferInstanceAs (Decidable ((utf8 left).map utf16Rank ≤ (utf8 right).map utf16Rank))

mutual

/-- `write_canonical_json`: no white space, members in UTF-16 order, integers only. -/
def canonicalJson : Value → Checked Bytes
  | .null => .ok (utf8 "null")
  | .bool true => .ok (utf8 "true")
  | .bool false => .ok (utf8 "false")
  | .string value => .ok (quoted value)
  | .integer value => .ok (utf8 (toString value))
  | .float _ =>
    .error ⟨"swp_contract_digest_mismatch", "contract digest input contains a non-integer JSON number"⟩
  | .array items => do
    let items ← canonicalItems items
    return [91] ++ List.intercalate [44] items ++ [93]
  | .object members => do
    let members ← canonicalMembers members
    -- the members are written after sorting; the only error is the same for each of them
    let sorted := members.insertionSort fun left right => utf16Le left.1 right.1
    let written := sorted.map fun member => quoted member.1 ++ [58] ++ member.2
    return [123] ++ List.intercalate [44] written ++ [125]

def canonicalItems : List Value → Checked (List Bytes)
  | [] => .ok []
  | item :: items => do
    let item ← canonicalJson item
    let items ← canonicalItems items
    return item :: items

def canonicalMembers : List (String × Value) → Checked (List (String × Bytes))
  | [] => .ok []
  | (name, value) :: members => do
    let value ← canonicalJson value
    let members ← canonicalMembers members
    return (name, value) :: members

end

end Immortal.Client
