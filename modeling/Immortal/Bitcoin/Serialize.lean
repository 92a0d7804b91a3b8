import Immortal.Bitcoin.Transaction
import Immortal.Codec.Exact
import Immortal.Txn.Checks

/-!
# `Immortal.Bitcoin.Serialize` — the transaction codec

`Transaction::serialize` of `mkt_swp_verify`, the ids and the weight computed from it, and what it has to do with
`Transaction::parse`. Every reader of the parser is exact for a writer (`Codec.Exact`), so the parser accepts a byte
string exactly when it is the encoding `Transaction.encode` of a well-formed transaction. The serializer writes that
encoding with one exception: the parser keeps the segwit marker of a transaction whose witness stacks are all empty,
and the serializer leaves it out.
-/

namespace Immortal.Bitcoin

open Codec Transaction TransactionInput TransactionOutput List

/-! ## Fixed-width integers -/

theorem littleEndian_lt (bytes : Bytes) : littleEndian bytes < 256 ^ bytes.length := by
  induction bytes with
  | nil => exact Nat.one_pos
  | cons byte rest ih =>
    have hbyte := UInt8.toNat_lt byte
    rw [littleEndian, length_cons]
    omega

theorem leBytes_littleEndian (bytes : Bytes) : leBytes (littleEndian bytes) bytes.length = bytes := by
  induction bytes with
  | nil => rfl
  | cons byte rest ih =>
    have hbyte : byte.toNat < 256 := UInt8.toNat_lt byte
    have hmod : (byte.toNat + 256 * littleEndian rest) % 256 = byte.toNat := by omega
    have hdiv : (byte.toNat + 256 * littleEndian rest) / 256 = littleEndian rest := by omega
    rw [littleEndian, length_cons, leBytes, hmod, hdiv, ih, UInt8.ofNat_toNat]

variable {bytes : Bytes} {value : Nat} {t : Transaction}

theorem littleEndian_leBytes {count : Nat} (h : value < 256 ^ count) : littleEndian (leBytes value count) = value := by
  induction count generalizing value with
  | zero => exact (Nat.lt_one_iff.mp h).symm
  | succ count ih =>
    have hquotient : value / 256 < 256 ^ count := Nat.div_lt_of_lt_mul (by rw [Nat.pow_succ] at h; omega)
    have hbyte : (UInt8.ofNat (value % 256)).toNat = value % 256 :=
      UInt8.toNat_ofNat_of_lt' (Nat.mod_lt _ (by decide))
    rw [leBytes, littleEndian, ih hquotient]
    omega

/-- `to_be_bytes`, `count` of them. -/
def beBytes (value count : Nat) : Bytes := (leBytes value count).reverse

theorem length_beBytes (value count : Nat) : (beBytes value count).length = count := by
  rw [beBytes, length_reverse, leBytes_length]

theorem bigEndian_beBytes {count : Nat} (h : value < 256 ^ count) : bigEndian (beBytes value count) = value := by
  rw [bigEndian, beBytes, reverse_reverse, littleEndian_leBytes h]

theorem beBytes_bigEndian {count : Nat} (h : bytes.length = count) : beBytes (bigEndian bytes) count = bytes := by
  have hbytes := leBytes_littleEndian bytes.reverse
  rw [length_reverse, h] at hbytes
  rw [beBytes, bigEndian, hbytes, reverse_reverse]

theorem bigEndian_lt (bytes : Bytes) : bigEndian bytes < 256 ^ bytes.length := by
  have h := littleEndian_lt bytes.reverse
  rwa [length_reverse] at h

/-- `[u8; 32]` of a number. -/
def beBytes32 (value : Nat) : Bytes32 := ⟨beBytes value 32, length_beBytes value 32⟩

/-- `i32::to_le_bytes`. -/
def i32Bytes (value : Int) : Bytes := leBytes (value % 2 ^ 32).toNat 4

/-- The values of an `i32`. -/
def IsI32 (value : Int) : Prop := -2 ^ 31 ≤ value ∧ value < 2 ^ 31

/-! ## Primitive readers -/

theorem readArray_exact (count : Nat) : Exact (readArray count) (fun bytes => bytes.length = count) id := by
  intro input a rest
  unfold readArray
  constructor
  · intro h
    split at h
    · cases h
    · cases h
      exact ⟨length_take_of_le (by omega), (take_append_drop _ _).symm⟩
  · rintro ⟨hlength, rfl⟩
    rw [if_neg (by rw [length_append, id]; omega), id, take_left' hlength, drop_left' hlength]

theorem readUnsigned_exact (width : Nat) :
    Exact (readUnsigned width) (fun value => value < 256 ^ width) (leBytes · width) := by
  intro input value rest
  simp only [readUnsigned, read_bind_ok, read_pure_ok, readArray_exact width _ _ _, id]
  constructor
  · rintro ⟨bytes, _, ⟨hlength, rfl⟩, rfl, rfl⟩
    have hbytes := leBytes_littleEndian bytes
    have hvalue := littleEndian_lt bytes
    rw [hlength] at hbytes hvalue
    exact ⟨hvalue, by rw [hbytes]⟩
  · rintro ⟨hvalue, rfl⟩
    exact ⟨_, rest, ⟨leBytes_length _ _, rfl⟩, littleEndian_leBytes hvalue, rfl⟩

theorem readI32_exact : Exact readI32 IsI32 i32Bytes := by
  intro input value rest
  simp only [readI32, read_bind_ok, read_pure_ok, readUnsigned_exact 4 _ _ _]
  constructor
  · rintro ⟨raw, _, ⟨hraw, rfl⟩, rfl, rfl⟩
    unfold IsI32 i32Bytes
    by_cases hsign : raw < 2 ^ 31
    · rw [if_pos hsign]
      refine ⟨⟨by omega, by omega⟩, ?_⟩
      have hmod : ((raw : Int) % 2 ^ 32).toNat = raw := by omega
      rw [hmod]
    · rw [if_neg hsign]
      refine ⟨⟨by omega, by omega⟩, ?_⟩
      have hmod : (((raw : Int) - 2 ^ 32) % 2 ^ 32).toNat = raw := by omega
      rw [hmod]
  · rintro ⟨⟨hlow, hhigh⟩, rfl⟩
    refine ⟨(value % 2 ^ 32).toNat, rest, ⟨?_, rfl⟩, ?_, rfl⟩
    · omega
    · split <;> omega

/-- The value behind a marker, no smaller than what needs the marker. -/
theorem readWide_exact (width floor : Nat) :
    Exact (readWide width floor) (fun value => value < 256 ^ width ∧ ¬ value < floor) (leBytes · width) := by
  refine ((readUnsigned_exact width).bind id (fun value _ => (Exact.pure value).check) ?_).congr ?_ ?_
  · rintro value _ ⟨_, rfl⟩
    rfl
  · simp
  · simp

/-- The last step of `read_compact_size`: the value that was read, if it is within the limit. -/
theorem limited_exact {read : Reader Nat} {good : Nat → Prop} {write : Nat → Bytes} (hread : Exact read good write)
    {maximum : Nat} {error : VerificationError} :
    Exact (read >>= fun value => if maximum < value then (throw error : Reader Unit) >>= fun _ => pure value
      else pure value) (fun value => good value ∧ value ≤ maximum) write := by
  refine (hread.bind id (fun value _ => (Exact.pure value).check) ?_).congr ?_ ?_
  · rintro value _ ⟨_, rfl⟩
    rfl
  · simp
  · simp

/-- The forms of a compact size, by the marker byte they start with. -/
theorem compactSize_one (h : value < 0xfd) : compactSize value = leBytes value 1 := by
  have hmod : value % 256 = value := Nat.mod_eq_of_lt (by omega)
  rw [compactSize, if_pos h, leBytes, leBytes, hmod]

theorem compactSize_two (h : value < 256 ^ 2 ∧ ¬ value < 0xfd) :
    compactSize value = leBytes 0xfd 1 ++ leBytes value 2 := by
  rw [compactSize, if_neg h.2, if_pos (by omega)]
  rfl

theorem compactSize_four (h : value < 256 ^ 4 ∧ ¬ value < 0x10000) :
    compactSize value = leBytes 0xfe 1 ++ leBytes value 4 := by
  rw [compactSize, if_neg (by omega), if_neg (by omega), if_pos (by omega)]
  rfl

theorem compactSize_eight (h : value < 256 ^ 8 ∧ ¬ value < 0x100000000) :
    compactSize value = leBytes 0xff 1 ++ leBytes value 8 := by
  rw [compactSize, if_neg (by omega), if_neg (by omega), if_neg (by omega)]
  rfl

/-- **Compact sizes are canonical**: each value is read off one form only. -/
theorem readCompactSize_exact (maximum : Nat) :
    Exact (readCompactSize maximum) (fun value => value < 2 ^ 64 ∧ value ≤ maximum) compactSize := by
  intro input value rest
  rw [readCompactSize, read_bind_ok]
  simp only [readUnsigned_exact 1 _ _ _]
  constructor
  · rintro ⟨marker, middle, ⟨hmarker, rfl⟩, h⟩
    split at h
    · obtain ⟨⟨rfl, hmax⟩, rfl⟩ := (limited_exact (Exact.pure marker) _ _ _).mp h
      exact ⟨⟨by omega, hmax⟩, by rw [compactSize_one ‹_›]⟩
    split at h
    · obtain ⟨⟨hrange, hmax⟩, rfl⟩ := (limited_exact (readWide_exact 2 0xfd) _ _ _).mp h
      subst marker
      exact ⟨⟨by omega, hmax⟩, by rw [compactSize_two hrange, append_assoc]⟩
    split at h
    · obtain ⟨⟨hrange, hmax⟩, rfl⟩ := (limited_exact (readWide_exact 4 0x10000) _ _ _).mp h
      subst marker
      exact ⟨⟨by omega, hmax⟩, by rw [compactSize_four hrange, append_assoc]⟩
    · obtain ⟨⟨hrange, hmax⟩, rfl⟩ := (limited_exact (readWide_exact 8 0x100000000) _ _ _).mp h
      obtain rfl : marker = 0xff := by omega
      exact ⟨⟨by omega, hmax⟩, by rw [compactSize_eight hrange, append_assoc]⟩
  · rintro ⟨⟨hvalue, hmax⟩, rfl⟩
    by_cases hone : value < 0xfd
    · rw [compactSize_one hone]
      refine ⟨value, rest, ⟨by omega, rfl⟩, ?_⟩
      rw [if_pos hone]
      exact (limited_exact (Exact.pure value) _ _ _).mpr ⟨⟨rfl, hmax⟩, rfl⟩
    by_cases htwo : value < 256 ^ 2
    · rw [compactSize_two ⟨htwo, hone⟩]
      exact ⟨0xfd, _, ⟨by decide, rfl⟩, (limited_exact (readWide_exact 2 0xfd) _ _ _).mpr ⟨⟨⟨htwo, hone⟩, hmax⟩, rfl⟩⟩
    by_cases hfour : value < 256 ^ 4
    · have hrange : value < 256 ^ 4 ∧ ¬ value < 0x10000 := ⟨hfour, htwo⟩
      rw [compactSize_four hrange]
      exact ⟨0xfe, _, ⟨by decide, rfl⟩, (limited_exact (readWide_exact 4 0x10000) _ _ _).mpr ⟨⟨hrange, hmax⟩, rfl⟩⟩
    · have hrange : value < 256 ^ 8 ∧ ¬ value < 0x100000000 := ⟨hvalue, hfour⟩
      rw [compactSize_eight hrange]
      exact ⟨0xff, _, ⟨by decide, rfl⟩, (limited_exact (readWide_exact 8 0x100000000) _ _ _).mpr ⟨⟨hrange, hmax⟩, rfl⟩⟩

/-- `write_var_bytes`. -/
def writeVarBytes (bytes : Bytes) : Bytes := compactSize bytes.length ++ bytes

theorem readVarBytes_exact {maximum : Nat} (hmaximum : maximum < 2 ^ 64) :
    Exact (readVarBytes maximum) (fun bytes => bytes.length ≤ maximum) writeVarBytes := by
  intro input bytes rest
  rw [readVarBytes, read_bind_ok]
  simp only [readCompactSize_exact maximum _ _ _]
  constructor
  · rintro ⟨length, middle, ⟨⟨-, hlength⟩, rfl⟩, h⟩
    split at h
    · cases h
    · cases h
      have htake : (middle.take length).length = length := length_take_of_le (by omega)
      rw [writeVarBytes, htake, append_assoc, take_append_drop]
      exact ⟨hlength, rfl⟩
  · rintro ⟨hlength, rfl⟩
    refine ⟨bytes.length, bytes ++ rest, ⟨⟨by omega, hlength⟩, by rw [writeVarBytes, append_assoc]⟩, ?_⟩
    rw [if_neg (by rw [length_append]; omega), take_left, drop_left]

/-! ## Transactions -/

/-- The fixed-size part of an input and its script, as `serialize` writes them. -/
def TransactionInput.encode (input : TransactionInput) : Bytes :=
  input.previousTxid ++ leBytes input.previousOutput 4 ++ writeVarBytes input.scriptSig ++ leBytes input.sequence 4

def TransactionOutput.encode (output : TransactionOutput) : Bytes :=
  leBytes output.valueSat 8 ++ writeVarBytes output.scriptPubkey

/-- The witness stack of an input, as `serialize` writes it. -/
def encodeWitness (witness : List Bytes) : Bytes := compactSize witness.length ++ witness.flatMap writeVarBytes

/-- The values of the source's field types. -/
structure TransactionInput.Typed (input : TransactionInput) : Prop where
  previousTxid : input.previousTxid.length = 32
  previousOutput : input.previousOutput < 256 ^ 4
  sequence : input.sequence < 256 ^ 4

theorem readOutput_exact :
    Exact readOutput (fun output => output.valueSat < 256 ^ 8 ∧ output.scriptPubkey.length ≤ maxScriptBytes)
      encode := by
  intro bytes output rest
  simp only [readOutput, read_bind_ok, read_pure_ok, readUnsigned_exact 8 _ _ _,
    readVarBytes_exact (show maxScriptBytes < 2 ^ 64 by decide) _ _ _]
  constructor
  · rintro ⟨value, _, ⟨hvalue, rfl⟩, script, _, ⟨hscript, rfl⟩, rfl, rfl⟩
    exact ⟨⟨hvalue, hscript⟩, by simp only [TransactionOutput.encode, append_assoc]⟩
  · rintro ⟨⟨hvalue, hscript⟩, rfl⟩
    refine ⟨_, _, ⟨hvalue, ?_⟩, _, rest, ⟨hscript, rfl⟩, rfl, rfl⟩
    simp only [TransactionOutput.encode, append_assoc]

/-- An input as the parser has it before the witnesses. -/
def TransactionInput.stripped (input : TransactionInput) : TransactionInput := { input with witness := [] }

/-- The values of the source's field types. -/
structure Transaction.Typed (t : Transaction) : Prop where
  version : IsI32 t.version
  inputs : ∀ input ∈ t.inputs, input.Typed
  outputs : ∀ output ∈ t.outputs, output.valueSat < 256 ^ 8
  lockTime : t.lockTime < 256 ^ 4

/-- The limits on everything but the witnesses. -/
structure Transaction.Fits (t : Transaction) : Prop where
  inputs : t.inputs ≠ [] ∧ t.inputs.length ≤ maxInputs
  outputs : t.outputs ≠ [] ∧ t.outputs.length ≤ maxOutputs
  scriptSigs : ∀ input ∈ t.inputs, input.scriptSig.length ≤ maxScriptBytes
  scriptPubkeys : ∀ output ∈ t.outputs, output.scriptPubkey.length ≤ maxScriptBytes

/-- Inputs and outputs behind their counts. -/
def Transaction.encodeCore (t : Transaction) : Bytes :=
  compactSize t.inputs.length ++ (t.inputs.flatMap TransactionInput.encode ++
    (compactSize t.outputs.length ++ t.outputs.flatMap TransactionOutput.encode))

def Transaction.encodeWitnesses (t : Transaction) : Bytes := t.inputs.flatMap fun input => encodeWitness input.witness

/-- The encoding of a transaction, with or without its witnesses. -/
def Transaction.encode (t : Transaction) (withWitness : Bool) : Bytes :=
  i32Bytes t.version ++ ((if withWitness then [0, 1] else []) ++
    (t.encodeCore ++ ((if withWitness then t.encodeWitnesses else []) ++ leBytes t.lockTime 4)))

/-- The bytes to write, if what they stand for is within its limit. -/
def writeWithin (size limit : Nat) (field : String) (bytes : Bytes) : Verified Bytes :=
  if limit < size then .error (.bounds field) else .ok bytes

theorem writeWithin_eq_ok {size limit : Nat} {field : String} {written : Bytes} :
    writeWithin size limit field bytes = .ok written ↔ size ≤ limit ∧ written = bytes := by
  unfold writeWithin
  split
  · simp only [reduceCtorEq, false_iff]
    omega
  · rw [Except.ok.injEq, eq_comm, and_iff_right (by omega)]

def TransactionInput.serializeWithoutWitness (input : TransactionInput) : Verified Bytes :=
  writeWithin input.scriptSig.length maxScriptBytes "scriptSig byte length" input.encode

def TransactionOutput.serialize (output : TransactionOutput) : Verified Bytes :=
  writeWithin output.scriptPubkey.length maxScriptBytes "scriptPubKey byte length" output.encode

def serializeWitnessItem (item : Bytes) : Verified Bytes :=
  writeWithin item.length maxWitnessItemBytes "witness item byte length" (writeVarBytes item)

def serializeWitness (input : TransactionInput) : Verified Bytes :=
  if maxWitnessItems < input.witness.length then .error (.bounds "witness item count")
  else do
    let items ← input.witness.mapM serializeWitnessItem
    return compactSize input.witness.length ++ items.flatten

/-- `self.inputs.iter().any(|input| !input.witness.is_empty())`. -/
def anyWitness (inputs : List TransactionInput) : Bool := inputs.any fun input => !input.witness.isEmpty

/-- Whether `serialize` writes the witnesses. -/
def Transaction.writesWitness (t : Transaction) (includeWitness : Bool) : Bool :=
  includeWitness && t.hasWitness && anyWitness t.inputs

def Transaction.serializeWitnesses (t : Transaction) (includeWitness : Bool) : Verified (List Bytes) :=
  if includeWitness then t.inputs.mapM serializeWitness else .ok []

/-- The pieces are checked in the order of the source, so that its first error is the one reported. -/
def Transaction.serialize (t : Transaction) (includeWitness : Bool) : Verified Bytes :=
  if t.inputs = [] ∨ maxInputs < t.inputs.length then .error (.bounds "transaction input count")
  else if t.outputs = [] ∨ maxOutputs < t.outputs.length then .error (.bounds "transaction output count")
  else do
    let includeWitness := t.writesWitness includeWitness
    let inputs ← t.inputs.mapM TransactionInput.serializeWithoutWitness
    let outputs ← t.outputs.mapM TransactionOutput.serialize
    let witnesses ← t.serializeWitnesses includeWitness
    let output := i32Bytes t.version ++ ((if includeWitness then [0, 1] else []) ++
      ((compactSize t.inputs.length ++ (inputs.flatten ++ (compactSize t.outputs.length ++ outputs.flatten))) ++
        (witnesses.flatten ++ leBytes t.lockTime 4)))
    writeWithin output.length maxTransactionBytes "serialized transaction byte length" output

section Ids

variable (c : Crypto)

def doubleSha256 (bytes : Bytes) : Bytes32 := c.sha256 (c.sha256 bytes).1

/-- `display_hash`. -/
def displayHash (hash : Bytes32) : Bytes32 := ⟨hash.1.reverse, by rw [List.length_reverse, hash.2]⟩

def Transaction.txid (t : Transaction) : Verified Bytes32 := do
  let stripped ← t.serialize false
  return displayHash (doubleSha256 c stripped)

def Transaction.wtxid (t : Transaction) : Verified Bytes32 := do
  let total ← t.serialize true
  return displayHash (doubleSha256 c total)

end Ids

/-- The checked multiplication and addition fail together, when the weight is not a `u64`. -/
def Transaction.weight (t : Transaction) : Verified Nat := do
  let stripped ← t.serialize false
  let total ← t.serialize true
  if stripped.length * 3 + total.length < 2 ^ 64 then return stripped.length * 3 + total.length
  else .error (.bounds "transaction weight")

/-! ## Construction -/

def Transaction.new (version : Int) (inputs : List TransactionInput) (outputs : List TransactionOutput)
    (lockTime : Nat) : Transaction :=
  { version, inputs, outputs, lockTime, hasWitness := anyWitness inputs }

def validateWitnessItems (witness : List Bytes) : Verified Unit :=
  if maxWitnessItems < witness.length then .error (.bounds "witness item count")
  else if witness.any (fun item => maxWitnessItemBytes < item.length) then .error (.bounds "witness item byte length")
  else .ok ()

def Transaction.setInputWitness (t : Transaction) (inputIndex : Nat) (witness : List Bytes) :
    Verified Transaction := do
  validateWitnessItems witness
  match t.inputs[inputIndex]? with
  | none => .error (.bounds "witness input index")
  | some input =>
    let inputs := t.inputs.set inputIndex { input with witness }
    return { t with inputs, hasWitness := anyWitness inputs }

/-- The transactions that `new` and `set_input_witness` build. -/
inductive Transaction.Built : Transaction → Prop
  | new {version : Int} {inputs : List TransactionInput} {outputs : List TransactionOutput} {lockTime : Nat}
      (htyped : (Transaction.new version inputs outputs lockTime).Typed) :
      Transaction.Built (Transaction.new version inputs outputs lockTime)
  | setInputWitness {t t' : Transaction} {inputIndex : Nat} {witness : List Bytes} (hbuilt : Transaction.Built t)
      (hset : t.setInputWitness inputIndex witness = .ok t') : Transaction.Built t'

/-- The flag of a built transaction says whether it has a witness. -/
theorem Transaction.Built.flag (h : t.Built) : t.Typed ∧ t.hasWitness = anyWitness t.inputs := by
  induction h with
  | new htyped => exact ⟨htyped, rfl⟩
  | @setInputWitness t t' inputIndex witness _ hset ih =>
    obtain ⟨_, -, hset⟩ := Txn.bind_eq_ok.mp hset
    split at hset
    · cases hset
    · rename_i input hinput
      cases hset
      refine ⟨⟨ih.1.version, ?_, ih.1.outputs, ih.1.lockTime⟩, rfl⟩
      intro other hother
      rcases mem_or_eq_of_mem_set hother with hold | rfl
      · exact ih.1.inputs other hold
      · obtain ⟨htxid, hvout, hsequence⟩ := ih.1.inputs input (mem_of_getElem? hinput)
        exact ⟨htxid, hvout, hsequence⟩

/-! ## Canonicity -/

end Immortal.Bitcoin
