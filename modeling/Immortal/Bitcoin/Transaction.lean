import Immortal.Bitcoin.Taproot

/-!
# `Immortal.Bitcoin.Transaction` — bounded transaction parsing

`Transaction::parse` of `immortal-core`'s `mkt_swp_verify` reads attacker-chosen bytes through a cursor with
fixed limits. The cursor is the list of bytes still to be read, so a reader is a state function on it.
-/

namespace Immortal.Bitcoin

/-! ## Reader -/

/-- The cursor `Reader`: what is left to read. -/
abbrev Reader := StateT Bytes (Except VerificationError)

/-- `read_array`. -/
def readArray (count : Nat) : Reader Bytes := fun bytes =>
  if bytes.length < count then .error (.encoding "truncated transaction")
  else .ok (bytes.take count, bytes.drop count)

/-- `read_u8`, `read_u16`, `read_u32` and `read_u64`, by their width in bytes. -/
def readUnsigned (width : Nat) : Reader Nat := do
  let bytes ← readArray width
  return littleEndian bytes

/-- `read_i32`. -/
def readI32 : Reader Int := do
  let value ← readUnsigned 4
  return if value < 2 ^ 31 then (value : Int) else (value : Int) - 2 ^ 32

/-- The value after a compact-size marker: a wider encoding than needed is refused. -/
def readWide (width floor : Nat) : Reader Nat := do
  let value ← readUnsigned width
  if value < floor then throw (.encoding "noncanonical compact size")
  return value

def readCompactSize (maximum : Nat) : Reader Nat := do
  let marker ← readUnsigned 1
  let value ←
    if marker < 0xfd then pure marker
    else if marker = 0xfd then readWide 2 0xfd
    else if marker = 0xfe then readWide 4 0x10000
    else readWide 8 0x100000000
  if maximum < value then throw (.bounds "compact size configured limit")
  return value

def readVarBytes (maximum : Nat) : Reader Bytes := do
  let length ← readCompactSize maximum
  fun bytes =>
    if bytes.length < length then .error (.encoding "truncated transaction bytes")
    else .ok (bytes.take length, bytes.drop length)

/-- `for _ in 0..count`, collecting. -/
def readMany {α : Type} (item : Reader α) : Nat → Reader (List α)
  | 0 => pure []
  | count + 1 => do
    let first ← item
    let rest ← readMany item count
    return first :: rest

/-! ## Transactions -/

def maxTransactionBytes : Nat := 1000000

def maxInputs : Nat := 4096

def maxOutputs : Nat := 4096

def maxWitnessItems : Nat := 1024

def maxWitnessItemBytes : Nat := 80000

structure TransactionInput where
  previousTxid : Bytes
  previousOutput : Nat
  scriptSig : Bytes
  sequence : Nat
  witness : List Bytes
deriving DecidableEq, Repr

structure TransactionOutput where
  valueSat : Nat
  scriptPubkey : Bytes
deriving DecidableEq, Repr

structure Transaction where
  version : Int
  inputs : List TransactionInput
  outputs : List TransactionOutput
  lockTime : Nat
  hasWitness : Bool
deriving DecidableEq, Repr

def readInput : Reader TransactionInput := do
  let previousTxid ← readArray 32
  let previousOutput ← readUnsigned 4
  let scriptSig ← readVarBytes maxScriptBytes
  let sequence ← readUnsigned 4
  return { previousTxid, previousOutput, scriptSig, sequence, witness := [] }

def readOutput : Reader TransactionOutput := do
  let valueSat ← readUnsigned 8
  let scriptPubkey ← readVarBytes maxScriptBytes
  return { valueSat, scriptPubkey }

/-- The witness of one input. -/
def readWitness : Reader (List Bytes) := do
  let count ← readCompactSize maxWitnessItems
  readMany (readVarBytes maxWitnessItemBytes) count

/-- The witnesses of the inputs, in their order. -/
def readWitnesses : List TransactionInput → Reader (List TransactionInput)
  | [] => pure []
  | input :: inputs => do
    let witness ← readWitness
    let inputs ← readWitnesses inputs
    return { input with witness } :: inputs

/-- The segwit marker and flag: a zero where the input count would stand, and a nonzero byte after it. -/
def readWitnessFlag : Reader Bool := do
  match ← get with
  | 0 :: flag :: rest =>
    if flag = 0 then return false
    set rest
    if flag ≠ 1 then throw (.unsupported "transaction witness flag")
    return true
  | _ => return false

def readTransaction : Reader Transaction := do
  let version ← readI32
  let hasWitness ← readWitnessFlag
  let inputCount ← readCompactSize maxInputs
  if inputCount = 0 then throw (.invalid "transaction has no inputs")
  let inputs ← readMany readInput inputCount
  let outputCount ← readCompactSize maxOutputs
  if outputCount = 0 then throw (.invalid "transaction has no outputs")
  let outputs ← readMany readOutput outputCount
  let inputs ← if hasWitness then readWitnesses inputs else pure inputs
  let lockTime ← readUnsigned 4
  return { version, inputs, outputs, lockTime, hasWitness }

def Transaction.parse (bytes : Bytes) : Verified Transaction :=
  if bytes.isEmpty ∨ maxTransactionBytes < bytes.length then .error (.bounds "transaction byte length")
  else
    match readTransaction bytes with
    | .error error => .error error
    | .ok (transaction, []) => .ok transaction
    | .ok (_, _ :: _) => .error (.encoding "transaction trailing bytes")

end Immortal.Bitcoin
