import Mathlib

/-!
# `Immortal.Bitcoin.Script` — swap scripts and their leaves

The script layer of `immortal-core`'s `mkt_swp_verify`: a swap leaf is parsed into pushes and opcodes of a
fixed allow-list, and an exact hashlock, CLTV or CSV shape is read off the instructions. The requester
client and the provider each wrap these parsers in their own error type, so the shape matcher and the
script-number reader are stated once with the caller's errors as arguments.
-/

namespace Immortal

abbrev Bytes := List UInt8

/-- `[u8; 32]`. -/
abbrev Bytes32 := { bytes : Bytes // bytes.length = 32 }

/-- `<[u8; 32]>::try_from`. -/
def Bytes32.ofBytes (bytes : Bytes) : Option Bytes32 :=
  if h : bytes.length = 32 then some ⟨bytes, h⟩ else none

theorem Bytes32.ofBytes_eq_some {bytes : Bytes} {array : Bytes32} :
    Bytes32.ofBytes bytes = some array ↔ array.1 = bytes := by
  unfold Bytes32.ofBytes
  split
  · simp only [Option.some.injEq]
    exact ⟨fun heq => heq ▸ rfl, fun heq => Subtype.ext heq.symm⟩
  · rename_i h
    simp only [reduceCtorEq, false_iff]
    intro heq
    exact h (heq ▸ array.2)

/-- The value of a little-endian byte string. -/
def littleEndian : Bytes → Nat
  | [] => 0
  | byte :: rest => byte.toNat + 256 * littleEndian rest

namespace Bitcoin

/-- `VerificationError`. -/
inductive VerificationError where
  | bounds (message : String)
  | encoding (message : String)
  | invalid (message : String)
  | unsupported (message : String)
  | crypto (message : String)
deriving DecidableEq, Repr

/-- `Display for VerificationError`. -/
def VerificationError.text : VerificationError → String
  | .bounds message => "bounds: " ++ message
  | .encoding message => "encoding: " ++ message
  | .invalid message => "invalid: " ++ message
  | .unsupported message => "unsupported: " ++ message
  | .crypto message => "crypto: " ++ message

abbrev Verified (α : Type) := Except VerificationError α

/-! ## Instructions -/

def maxScriptBytes : Nat := 10000

inductive ScriptInstruction where
  | opcode (code : UInt8)
  | push (data : Bytes)
deriving DecidableEq, Repr

/-- The opcodes a swap script may use. -/
def allowedOpcode (code : UInt8) : Bool :=
  code == 0x00 || (0x51 ≤ code.toNat && code.toNat ≤ 0x60) ||
    code ∈ [0x63, 0x64, 0x67, 0x68, 0x69, 0x75, 0x76, 0x82, 0x87, 0x88, 0xa8, 0xa9, 0xb1, 0xb2, 0xac, 0xad]

/-- `read_script_length`: the length and what follows it. -/
def readScriptLength (script : Bytes) (byteCount : Nat) : Verified (Nat × Bytes) :=
  if script.length < byteCount then .error (.encoding "truncated script length")
  else .ok (littleEndian (script.take byteCount), script.drop byteCount)

/-- The push of `length` bytes at the head of `script`. -/
def readPush (length : Nat) (script : Bytes) : Verified (ScriptInstruction × Bytes) :=
  if script.length < length then .error (.encoding "truncated script push")
  else .ok (.push (script.take length), script.drop length)

/-- One pass of the parser's loop: the instruction that starts with `code`, and the rest of the script. -/
def readInstruction (code : UInt8) (script : Bytes) : Verified (ScriptInstruction × Bytes) := do
  if 1 ≤ code.toNat ∧ code.toNat ≤ 75 then
    readPush code.toNat script
  else if code = 0x4c then
    let (length, script) ← readScriptLength script 1
    readPush length script
  else if code = 0x4d then
    let (length, script) ← readScriptLength script 2
    readPush length script
  else if code = 0x4e then
    let (length, script) ← readScriptLength script 4
    readPush length script
  else if allowedOpcode code then
    return (.opcode code, script)
  else
    .error (.unsupported "swap script opcode")

/-- The loop of `parse_swap_script` from its `count`-th instruction on. A pass consumes at least its opcode,
    so the script's length is enough `fuel`. -/
def parseInstructions : Nat → Bytes → Nat → Verified (List ScriptInstruction)
  | _, [], _ => .ok []
  | 0, _ :: _, _ => .error (.bounds "swap script byte length")
  | fuel + 1, code :: script, count => do
    let (instruction, script) ← readInstruction code script
    if 256 < count + 1 then .error (.bounds "swap script instruction count")
    else
      let instructions ← parseInstructions fuel script (count + 1)
      return instruction :: instructions

def parseSwapScript (script : Bytes) : Verified (List ScriptInstruction) :=
  if script = [] ∨ maxScriptBytes < script.length then .error (.bounds "swap script byte length")
  else parseInstructions script.length script 0

/-! ## Leaves -/

/-- Why a script number is refused. -/
inductive ScriptNumberFault where
  | form
  | notMinimal
  | range
deriving DecidableEq, Repr

/-- A nonnegative, minimally encoded script number of at most five bytes that fits a `u32`. -/
def scriptNumber (bytes : Bytes) : Except ScriptNumberFault Nat :=
  match bytes.reverse with
  | [] => .error .form
  | last :: before =>
    if 5 < bytes.length ∨ last &&& 0x80 ≠ 0 then .error .form
    else if last &&& 0x7f = 0 ∧ before.head?.all (fun byte => byte &&& 0x80 == 0) then .error .notMinimal
    else if 2 ^ 32 ≤ littleEndian bytes then .error .range
    else .ok (littleEndian bytes)

inductive LeafCondition where
  | hashlock (paymentHash : Bytes32)
  | cltv (lock : Nat)
  | csv (lock : Nat)
deriving DecidableEq, Repr

/-- The exact instruction shapes of a hashlock, a CLTV and a CSV leaf, with the signing key they end in.
    `number` reads the timelock and `refused` is the error for every other shape. -/
def matchLeaf {ε : Type} (number : Bytes → Except ε Nat) (refused : ε) (instructions : List ScriptInstruction) :
    Except ε (Bytes32 × LeafCondition) :=
  match instructions with
  | [.opcode a, .push size, .opcode b, .opcode c, .push hash, .opcode d, .push key, .opcode e] =>
    match Bytes32.ofBytes hash, Bytes32.ofBytes key with
    | some hash, some key =>
      if [a, b, c, d, e] = [0x82, 0x88, 0xa8, 0x88, 0xac] ∧ size = [32] then .ok (key, .hashlock hash)
      else .error refused
    | _, _ => .error refused
  | [.push value, .opcode lock, .opcode drop, .push key, .opcode check] =>
    match Bytes32.ofBytes key with
    | some key =>
      if [lock, drop, check] = [0xb1, 0x75, 0xac] then (number value).map fun lock => (key, .cltv lock)
      else if [lock, drop, check] = [0xb2, 0x75, 0xac] then (number value).map fun lock => (key, .csv lock)
      else .error refused
    | none => .error refused
  | _ => .error refused

end Bitcoin

end Immortal
