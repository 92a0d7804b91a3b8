import Immortal.Bitcoin.Serialize

/-!
# `Immortal.Bitcoin.SignatureMessage` — what a Taproot signature commits to

`taproot_script_spend_signature_message` and `taproot_key_spend_signature_message` of `mkt_swp_verify`. The source
writes the two messages out separately; they are one layout, with the spend type in it and the leaf behind it for the
script path. Everything of variable length is behind a hash or a length, so equal messages come from equal spends, as
long as the spends do not exhibit a collision of the hash: every field before a hash has a fixed width, and the hashed
lists are concatenations of self-delimiting parts (`Codec.Exact.flatMap_inj`).
-/

namespace Immortal.Bitcoin

open Codec TransactionOutput List

/-! ## Validation -/

def parseScriptNumber (bytes : Bytes) : Verified Nat :=
  match scriptNumber bytes with
  | .ok value => .ok value
  | .error .form => .error (.invalid "swap timelock script number")
  | .error .notMinimal => .error (.encoding "noncanonical swap timelock script number")
  | .error .range => .error (.bounds "swap timelock value")

section Messages

variable (c : Crypto)

def parseSwapLeafScript (script : Bytes) : Verified (Bytes32 × LeafCondition) := do
  let instructions ← parseSwapScript script
  let leaf ← matchLeaf parseScriptNumber
    (.unsupported "swap leaf is not an exact hashlock, CLTV, or CSV path") instructions
  if c.isXOnly leaf.1 then return leaf else .error (.crypto "swap leaf signing key")

def taprootOutputKeyFromScriptPubkey (scriptPubkey : Bytes) : Verified Bytes32 :=
  match scriptPubkey with
  | 0x51 :: 0x20 :: outputKey =>
    match Bytes32.ofBytes outputKey with
    | none => .error (.encoding "Taproot output key length")
    | some key => if c.isXOnly key then .ok key else .error (.crypto "Taproot output key")
  | _ => .error (.invalid "prevout is not a v1 Taproot output")

/-- The checks with which both validations begin: counts, the input and its own scriptSig. -/
def validateSpendCounts (transaction : Transaction) (prevouts : List TransactionOutput) (inputIndex : Nat) :
    Verified Unit :=
  if transaction.inputs = [] ∨ maxInputs < transaction.inputs.length ∨
      transaction.inputs.length ≠ prevouts.length then .error (.invalid "Taproot prevout count")
  else if transaction.outputs = [] ∨ maxOutputs < transaction.outputs.length then
    .error (.bounds "Taproot transaction output count")
  else
    match transaction.inputs[inputIndex]? with
    | none => .error (.bounds "Taproot input index")
    | some input => if input.scriptSig ≠ [] then .error (.invalid "Taproot scriptSig must be empty") else .ok ()

/-- The checks of the spent outputs: their script lengths, and the output key of the one that is signed for. There
    are as many of them as inputs, so the index is in range. -/
def validatePrevouts (prevouts : List TransactionOutput) (inputIndex : Nat) : Verified Bytes32 :=
  if prevouts.any (fun prevout => maxScriptBytes < prevout.scriptPubkey.length) then
    .error (.bounds "Taproot prevout scriptPubKey length")
  else
    match prevouts[inputIndex]? with
    | none => .error (.bounds "Taproot input index")
    | some prevout => taprootOutputKeyFromScriptPubkey c prevout.scriptPubkey

def validateTaprootSpendInputs (transaction : Transaction) (prevouts : List TransactionOutput) (inputIndex : Nat)
    (script controlBlock : Bytes) : Verified Unit := do
  validateSpendCounts transaction prevouts inputIndex
  if transaction.inputs.any (fun input => maxScriptBytes < input.scriptSig.length) then
    .error (.bounds "Taproot scriptSig byte length")
  else
    let outputKey ← validatePrevouts c prevouts inputIndex
    if controlBlock.head?.map (· &&& 0xfe) ≠ some 0xc0 then .error (.unsupported "Taproot leaf version")
    else
      let _ ← parseSwapLeafScript c script
      verifyControlBlock c outputKey script controlBlock

/-- On the key path every scriptSig has to be empty. -/
def validateTaprootKeySpendInputs (transaction : Transaction) (prevouts : List TransactionOutput) (inputIndex : Nat) :
    Verified Unit := do
  validateSpendCounts transaction prevouts inputIndex
  if transaction.inputs.any (fun input => input.scriptSig ≠ []) then
    .error (.invalid "Taproot scriptSig must be empty")
  else
    let _ ← validatePrevouts c prevouts inputIndex
    return ()

/-! ## Messages -/

def serializedPrevouts (inputs : List (TransactionInput × TransactionOutput)) : Bytes :=
  inputs.flatMap fun input => input.1.previousTxid ++ leBytes input.1.previousOutput 4

def serializedAmounts (inputs : List (TransactionInput × TransactionOutput)) : Bytes :=
  inputs.flatMap fun input => leBytes input.2.valueSat 8

def serializedScriptPubkeys (inputs : List (TransactionInput × TransactionOutput)) : Bytes :=
  inputs.flatMap fun input => writeVarBytes input.2.scriptPubkey

def serializedSequences (inputs : List (TransactionInput × TransactionOutput)) : Bytes :=
  inputs.flatMap fun input => leBytes input.1.sequence 4

/-- The part the two messages share: epoch, sighash type, the five hashes, the spend type and the input index. -/
def commonMessage (transaction : Transaction) (inputs : List (TransactionInput × TransactionOutput)) (outputs : Bytes)
    (spendType : UInt8) (inputIndex : Nat) : Bytes :=
  [0, 0] ++ (i32Bytes transaction.version ++ (leBytes transaction.lockTime 4 ++
    ((c.sha256 (serializedPrevouts inputs)).1 ++ ((c.sha256 (serializedAmounts inputs)).1 ++
    ((c.sha256 (serializedScriptPubkeys inputs)).1 ++ ((c.sha256 (serializedSequences inputs)).1 ++
    ((c.sha256 outputs).1 ++ ([spendType] ++ leBytes inputIndex 4))))))))

/-- `u32::try_from(input_index)`. -/
def inputIndexU32 (inputIndex : Nat) : Verified Nat :=
  if inputIndex < 2 ^ 32 then .ok inputIndex else .error (.bounds "Taproot input index")

def taprootScriptSpendSignatureMessage (transaction : Transaction) (prevouts : List TransactionOutput)
    (inputIndex : Nat) (script controlBlock : Bytes) : Verified Bytes := do
  validateTaprootSpendInputs c transaction prevouts inputIndex script controlBlock
  let inputIndex ← inputIndexU32 inputIndex
  let outputs ← transaction.outputs.mapM TransactionOutput.serialize
  let leaf ← tapleafHash c 0xc0 script
  return commonMessage c transaction (transaction.inputs.zip prevouts) outputs.flatten 2 inputIndex ++
    (leaf.1 ++ ([0] ++ leBytes 0xffffffff 4))

def taprootKeySpendSignatureMessage (transaction : Transaction) (prevouts : List TransactionOutput)
    (inputIndex : Nat) : Verified Bytes := do
  validateTaprootKeySpendInputs c transaction prevouts inputIndex
  let inputIndex ← inputIndexU32 inputIndex
  let outputs ← transaction.outputs.mapM TransactionOutput.serialize
  return commonMessage c transaction (transaction.inputs.zip prevouts) outputs.flatten 0 inputIndex

end Messages

/-! ## Agreement -/

/-- A spend to be signed: one input of a transaction and the outputs all inputs spend, in the source's types. -/
structure Spend where
  transaction : Transaction
  prevouts : List TransactionOutput
  inputIndex : Nat
  typed : transaction.Typed
  prevoutsTyped : ∀ prevout ∈ prevouts, prevout.valueSat < 256 ^ 8

namespace Spend

/-- The inputs with the outputs they spend. -/
def inputs (s : Spend) : List (TransactionInput × TransactionOutput) := s.transaction.inputs.zip s.prevouts

/-- The lists that a signature message hashes. -/
def hashed (s : Spend) : List Bytes :=
  [serializedPrevouts s.inputs, serializedAmounts s.inputs, serializedScriptPubkeys s.inputs,
    serializedSequences s.inputs, s.transaction.outputs.flatMap TransactionOutput.encode]

/-- What a message says of a spend that passed validation. -/
structure Valid (s : Spend) : Prop where
  counts : s.transaction.inputs.length = s.prevouts.length
  index : s.inputIndex < 256 ^ 4
  prevoutScripts : ∀ prevout ∈ s.prevouts, prevout.scriptPubkey.length ≤ maxScriptBytes
  outputScripts : ∀ output ∈ s.transaction.outputs, output.scriptPubkey.length ≤ maxScriptBytes

/-- The two spends are the same in everything a signature should commit to. -/
structure Agrees (s s' : Spend) : Prop where
  version : s.transaction.version = s'.transaction.version
  lockTime : s.transaction.lockTime = s'.transaction.lockTime
  outpoints : s.transaction.inputs.map (fun input => (input.previousTxid, input.previousOutput)) =
    s'.transaction.inputs.map fun input => (input.previousTxid, input.previousOutput)
  sequences : s.transaction.inputs.map (·.sequence) = s'.transaction.inputs.map (·.sequence)
  prevouts : s.prevouts = s'.prevouts
  outputs : s.transaction.outputs = s'.transaction.outputs
  inputIndex : s.inputIndex = s'.inputIndex

end Spend

/-- The reader of an outpoint. -/
def readOutpoint : Reader (Bytes × Nat) := do
  let txid ← readArray 32
  let output ← readUnsigned 4
  return (txid, output)

theorem readOutpoint_exact :
    Exact readOutpoint (fun outpoint => outpoint.1.length = 32 ∧ outpoint.2 < 256 ^ 4)
      (fun outpoint => outpoint.1 ++ leBytes outpoint.2 4) := by
  refine ((readArray_exact 32).bind Prod.fst
    (fun txid _ => (readUnsigned_exact 4).bind Prod.snd (fun output _ => Exact.pure (txid, output)) ?_) ?_).congr ?_ ?_
  · rintro output _ rfl
    rfl
  · rintro txid _ ⟨_, h⟩
    rw [h]
  · simp
  · simp

theorem leBytes_ne_nil (value count : Nat) : leBytes value (count + 1) ≠ [] := cons_ne_nil _ _

theorem writeVarBytes_ne_nil (bytes : Bytes) : writeVarBytes bytes ≠ [] := by
  unfold writeVarBytes compactSize
  split
  · exact cons_ne_nil _ _
  split
  · exact cons_ne_nil _ _
  split
  · exact cons_ne_nil _ _
  · exact cons_ne_nil _ _

section Hashed

variable {s s' : Spend}

/-- A hashed list determines the parts that it lists. -/
theorem parts_eq {α : Type} {read : Reader α} {good : α → Prop} {write : α → Bytes} (hread : Exact read good write)
    (hne : ∀ a, good a → write a ≠ []) (part : TransactionInput × TransactionOutput → α)
    (hgood : ∀ {s : Spend}, s.Valid → ∀ input ∈ s.inputs, good (part input)) (hs : s.Valid) (hs' : s'.Valid)
    (h : s.inputs.flatMap (fun input => write (part input)) = s'.inputs.flatMap fun input => write (part input)) :
    s.inputs.map part = s'.inputs.map part := by
  apply hread.flatMap_inj hne
  · exact forall_mem_map.mpr (hgood hs)
  · exact forall_mem_map.mpr (hgood hs')
  · rw [flatMap_map, flatMap_map]
    exact h

theorem outpoints_eq (hs : s.Valid) (hs' : s'.Valid) (h : serializedPrevouts s.inputs = serializedPrevouts s'.inputs) :
    s.inputs.map (fun input => (input.1.previousTxid, input.1.previousOutput)) =
      s'.inputs.map fun input => (input.1.previousTxid, input.1.previousOutput) := by
  apply parts_eq readOutpoint_exact _ (fun input => (input.1.previousTxid, input.1.previousOutput)) _ hs hs' h
  · rintro outpoint - hnil
    exact leBytes_ne_nil _ _ (append_eq_nil_iff.mp hnil).2
  · intro s _ input hinput
    have htyped := s.typed.inputs input.1 (of_mem_zip hinput).1
    exact ⟨htyped.previousTxid, htyped.previousOutput⟩

theorem amounts_eq (hs : s.Valid) (hs' : s'.Valid) (h : serializedAmounts s.inputs = serializedAmounts s'.inputs) :
    s.inputs.map (·.2.valueSat) = s'.inputs.map (·.2.valueSat) := by
  apply parts_eq (readUnsigned_exact 8) (fun _ _ => leBytes_ne_nil _ _) (·.2.valueSat) _ hs hs' h
  intro s _ input hinput
  exact s.prevoutsTyped input.2 (of_mem_zip hinput).2

theorem scriptPubkeys_eq (hs : s.Valid) (hs' : s'.Valid)
    (h : serializedScriptPubkeys s.inputs = serializedScriptPubkeys s'.inputs) :
    s.inputs.map (·.2.scriptPubkey) = s'.inputs.map (·.2.scriptPubkey) := by
  apply parts_eq (readVarBytes_exact (show maxScriptBytes < 2 ^ 64 by decide)) (fun _ _ => writeVarBytes_ne_nil _)
    (·.2.scriptPubkey) _ hs hs' h
  intro s hs input hinput
  exact hs.prevoutScripts input.2 (of_mem_zip hinput).2

theorem sequences_eq (hs : s.Valid) (hs' : s'.Valid)
    (h : serializedSequences s.inputs = serializedSequences s'.inputs) :
    s.inputs.map (·.1.sequence) = s'.inputs.map (·.1.sequence) := by
  apply parts_eq (readUnsigned_exact 4) (fun _ _ => leBytes_ne_nil _ _) (·.1.sequence) _ hs hs' h
  intro s _ input hinput
  exact (s.typed.inputs input.1 (of_mem_zip hinput).1).sequence

theorem outputs_eq (hs : s.Valid) (hs' : s'.Valid)
    (h : s.transaction.outputs.flatMap encode =
      s'.transaction.outputs.flatMap encode) :
    s.transaction.outputs = s'.transaction.outputs := by
  refine readOutput_exact.flatMap_inj ?_ ?_ ?_ h
  · intro output _ hnil
    exact leBytes_ne_nil _ _ (append_eq_nil_iff.mp hnil).1
  · exact fun output houtput => ⟨s.typed.outputs output houtput, hs.outputScripts output houtput⟩
  · exact fun output houtput => ⟨s'.typed.outputs output houtput, hs'.outputScripts output houtput⟩

theorem Spend.Valid.inputs_fst (hs : s.Valid) : s.inputs.map Prod.fst = s.transaction.inputs :=
  map_fst_zip hs.counts.le

theorem Spend.Valid.inputs_snd (hs : s.Valid) : s.inputs.map Prod.snd = s.prevouts := map_snd_zip hs.counts.ge

variable {prevouts : List TransactionOutput}

/-- Outputs with equal amounts and equal scripts. -/
theorem prevouts_ext {prevouts' : List TransactionOutput}
    (hamounts : prevouts.map (·.valueSat) = prevouts'.map (·.valueSat))
    (hscripts : prevouts.map (·.scriptPubkey) = prevouts'.map (·.scriptPubkey)) : prevouts = prevouts' := by
  have hzip : ∀ outputs : List TransactionOutput,
      zipWith mk (outputs.map (·.valueSat)) (outputs.map (·.scriptPubkey)) = outputs := by
    intro outputs
    rw [zipWith_map, zipWith_self]
    exact map_id outputs
  rw [← hzip prevouts, hamounts, hscripts, hzip]

/-- **The layout determines the spend.** Every field before a hash has a fixed width, and no hash collides. -/
theorem commonMessage_inj {c : Crypto} {spendType spendType' : UInt8} {rest rest' : Bytes} (hs : s.Valid)
    (hs' : s'.Valid) (hinj : Set.InjOn c.sha256 { m | m ∈ s.hashed ++ s'.hashed })
    (h : commonMessage c s.transaction s.inputs (s.transaction.outputs.flatMap encode) spendType
        s.inputIndex ++ rest =
      commonMessage c s'.transaction s'.inputs (s'.transaction.outputs.flatMap encode) spendType'
        s'.inputIndex ++ rest') :
    s.Agrees s' ∧ spendType = spendType' ∧ rest = rest' := by
  have hhash : ∀ {m m' tail tail' : Bytes}, m ∈ s.hashed → m' ∈ s'.hashed →
      (c.sha256 m).1 ++ tail = (c.sha256 m').1 ++ tail' → m = m' ∧ tail = tail' := by
    intro m m' tail tail' hm hm' heq
    obtain ⟨hdigest, htail⟩ := (readArray_exact 32).unique (c.sha256 m).2 (c.sha256 m').2 heq
    exact ⟨hinj (mem_append_left _ hm) (mem_append_right _ hm') (Subtype.ext hdigest), htail⟩
  simp only [commonMessage, append_assoc] at h
  replace h := append_cancel_left h
  obtain ⟨hversion, h⟩ := readI32_exact.unique s.typed.version s'.typed.version h
  obtain ⟨hlock, h⟩ := (readUnsigned_exact 4).unique s.typed.lockTime s'.typed.lockTime h
  obtain ⟨hprevouts, h⟩ := hhash (by simp [Spend.hashed]) (by simp [Spend.hashed]) h
  obtain ⟨hamounts, h⟩ := hhash (by simp [Spend.hashed]) (by simp [Spend.hashed]) h
  obtain ⟨hscripts, h⟩ := hhash (by simp [Spend.hashed]) (by simp [Spend.hashed]) h
  obtain ⟨hsequences, h⟩ := hhash (by simp [Spend.hashed]) (by simp [Spend.hashed]) h
  obtain ⟨houtputs, h⟩ := hhash (by simp [Spend.hashed]) (by simp [Spend.hashed]) h
  simp only [cons_append, cons.injEq] at h
  obtain ⟨hindex, hrest⟩ := (readUnsigned_exact 4).unique hs.index hs'.index h.2
  have hpairs := outpoints_eq hs hs' hprevouts
  have hsequence := sequences_eq hs hs' hsequences
  have hamount := amounts_eq hs hs' hamounts
  have hscript := scriptPubkeys_eq hs hs' hscripts
  refine ⟨⟨hversion, hlock, ?_, ?_, prevouts_ext ?_ ?_, outputs_eq hs hs' houtputs, hindex⟩, h.1, hrest⟩
  · rw [← hs.inputs_fst, ← hs'.inputs_fst, map_map, map_map]
    exact hpairs
  · rw [← hs.inputs_fst, ← hs'.inputs_fst, map_map, map_map]
    exact hsequence
  · rw [← hs.inputs_snd, ← hs'.inputs_snd, map_map, map_map]
    exact hamount
  · rw [← hs.inputs_snd, ← hs'.inputs_snd, map_map, map_map]
    exact hscript

end Hashed

/-! ## Commitment -/

theorem validateSpendCounts_ok {transaction : Transaction} {inputIndex : Nat}
    (h : validateSpendCounts transaction prevouts inputIndex = .ok ()) :
    transaction.inputs.length = prevouts.length := by
  unfold validateSpendCounts at h
  split at h
  · cases h
  · rename_i hcounts
    push Not at hcounts
    exact hcounts.2.2

theorem validatePrevouts_ok {c : Crypto} {inputIndex : Nat} {key : Bytes32}
    (h : validatePrevouts c prevouts inputIndex = .ok key) :
    ∀ prevout ∈ prevouts, prevout.scriptPubkey.length ≤ maxScriptBytes := by
  unfold validatePrevouts at h
  split at h
  · cases h
  · rename_i hscripts
    simpa using hscripts

theorem inputIndexU32_ok {inputIndex index : Nat} (h : inputIndexU32 inputIndex = .ok index) :
    index = inputIndex ∧ inputIndex < 256 ^ 4 := by
  unfold inputIndexU32 at h
  split at h
  · cases h
    exact ⟨rfl, by omega⟩
  · cases h

/-- The outputs as both messages serialize them. -/
theorem serializedOutputs_ok {outputs : List TransactionOutput} {written : List Bytes}
    (h : outputs.mapM serialize = .ok written) :
    (∀ output ∈ outputs, output.scriptPubkey.length ≤ maxScriptBytes) ∧
      written.flatten = outputs.flatMap encode := by
  have hwrite : ∀ (output : TransactionOutput) bytes, output.serialize = .ok bytes ↔
      output.scriptPubkey.length ≤ maxScriptBytes ∧ bytes = output.encode := fun _ _ => writeWithin_eq_ok
  obtain ⟨hscripts, rfl⟩ := (mapM_write_ok hwrite outputs written).mp h
  exact ⟨hscripts, by rw [flatMap_def]⟩

namespace Spend

variable {c : Crypto} {s s' : Spend}

/-- `taproot_script_spend_signature_message` on a spend. -/
def scriptMessage (c : Crypto) (s : Spend) (script controlBlock : Bytes) : Verified Bytes :=
  taprootScriptSpendSignatureMessage c s.transaction s.prevouts s.inputIndex script controlBlock

/-- `taproot_key_spend_signature_message` on a spend. -/
def keyMessage (c : Crypto) (s : Spend) : Verified Bytes :=
  taprootKeySpendSignatureMessage c s.transaction s.prevouts s.inputIndex

/-- The shared part of the messages of a spend. -/
def common (c : Crypto) (s : Spend) (spendType : UInt8) : Bytes :=
  commonMessage c s.transaction s.inputs (s.transaction.outputs.flatMap TransactionOutput.encode) spendType s.inputIndex

theorem scriptMessage_ok {script controlBlock message : Bytes}
    (h : s.scriptMessage c script controlBlock = .ok message) :
    s.Valid ∧ script.length ≤ maxScriptBytes ∧
      message = s.common c 2 ++ ((c.sha256 (leafMessage c 0xc0 script)).1 ++ ([0] ++ leBytes 0xffffffff 4)) := by
  unfold scriptMessage taprootScriptSpendSignatureMessage at h
  simp only [Txn.bind_eq_ok] at h
  obtain ⟨_, hvalid, index, hindex, written, hwritten, leaf, hleaf, hmessage⟩ := h
  obtain ⟨rfl, hrange⟩ := inputIndexU32_ok hindex
  obtain ⟨houtputs, hflatten⟩ := serializedOutputs_ok hwritten
  obtain ⟨-, hscript, rfl⟩ := tapleafHash_eq_ok.mp hleaf
  obtain ⟨_, hcounts, hvalid⟩ := Txn.bind_eq_ok.mp hvalid
  split at hvalid
  · cases hvalid
  obtain ⟨key, hprevouts, -⟩ := Txn.bind_eq_ok.mp hvalid
  cases hmessage
  refine ⟨⟨validateSpendCounts_ok hcounts, hrange, validatePrevouts_ok hprevouts, houtputs⟩, hscript, ?_⟩
  rw [hflatten]
  rfl

theorem keyMessage_ok {message : Bytes} (h : s.keyMessage c = .ok message) : s.Valid ∧ message = s.common c 0 := by
  unfold keyMessage taprootKeySpendSignatureMessage at h
  simp only [Txn.bind_eq_ok] at h
  obtain ⟨_, hvalid, index, hindex, written, hwritten, hmessage⟩ := h
  obtain ⟨rfl, hrange⟩ := inputIndexU32_ok hindex
  obtain ⟨houtputs, hflatten⟩ := serializedOutputs_ok hwritten
  obtain ⟨_, hcounts, hvalid⟩ := Txn.bind_eq_ok.mp hvalid
  split at hvalid
  · cases hvalid
  obtain ⟨key, hprevouts, -⟩ := Txn.bind_eq_ok.mp hvalid
  cases hmessage
  refine ⟨⟨validateSpendCounts_ok hcounts, hrange, validatePrevouts_ok hprevouts, houtputs⟩, ?_⟩
  rw [hflatten]
  rfl

theorem length_common (s : Spend) (spendType : UInt8) : (s.common c spendType).length = 175 := by
  simp only [common, commonMessage, i32Bytes, length_append, length_cons, length_nil, leBytes_length,
    (c.sha256 _).2]

end Spend

/-- **Taproot signature messages commit to the spend.** For two spends without a collision among what they hash:
    equal script-path messages come from spends that agree, leaf included; equal key-path messages come from spends
    that agree; and a script-path message is never a key-path message. -/
theorem signature_messages_commit (c : Crypto) (s s' : Spend) :
    (∀ script controlBlock script' controlBlock' message,
      s.scriptMessage c script controlBlock = .ok message → s'.scriptMessage c script' controlBlock' = .ok message →
      Set.InjOn c.sha256
        { m | m ∈ s.hashed ++ s'.hashed ++ [leafMessage c 0xc0 script, leafMessage c 0xc0 script'] } →
      s.Agrees s' ∧ script = script') ∧
    (∀ message, s.keyMessage c = .ok message → s'.keyMessage c = .ok message →
      Set.InjOn c.sha256 { m | m ∈ s.hashed ++ s'.hashed } → s.Agrees s') ∧
    ∀ script controlBlock message message', s.scriptMessage c script controlBlock = .ok message →
      s'.keyMessage c = .ok message' → message ≠ message' := by
  refine ⟨?_, ?_, ?_⟩
  · intro script controlBlock script' controlBlock' message h h' hinj
    obtain ⟨hs, hscript, rfl⟩ := Spend.scriptMessage_ok h
    obtain ⟨hs', hscript', hmessage⟩ := Spend.scriptMessage_ok h'
    have hlists : Set.InjOn c.sha256 { m | m ∈ s.hashed ++ s'.hashed } :=
      hinj.mono fun m hm => List.mem_append_left _ hm
    obtain ⟨hagrees, -, hleaf⟩ := commonMessage_inj hs hs' hlists hmessage
    obtain ⟨hdigest, -⟩ := (readArray_exact 32).unique (c.sha256 _).2 (c.sha256 _).2 hleaf
    have hleaves := hinj (List.mem_append_right _ List.mem_cons_self)
      (List.mem_append_right _ (List.mem_cons_of_mem _ List.mem_cons_self)) (Subtype.ext hdigest)
    exact ⟨hagrees, (leafMessage_inj hscript hscript' hleaves).2⟩
  · intro message h h' hinj
    obtain ⟨hs, rfl⟩ := Spend.keyMessage_ok h
    obtain ⟨hs', hmessage⟩ := Spend.keyMessage_ok h'
    have hcommon : s.common c 0 ++ [] = s'.common c 0 ++ [] := congrArg (· ++ []) hmessage
    exact (commonMessage_inj hs hs' hinj hcommon).1
  · rintro script controlBlock message message' h h' rfl
    obtain ⟨-, -, hscript⟩ := Spend.scriptMessage_ok h
    obtain ⟨-, hkey⟩ := Spend.keyMessage_ok h'
    have hlength := congrArg List.length (hscript.symm.trans hkey)
    rw [List.length_append, Spend.length_common, Spend.length_common, List.length_append, (c.sha256 _).2] at hlength
    omega

/-! ### A spend

A refund through a CLTV leaf, alone in its tree, with the digests and the output key that the two crates compute. -/

def refundKey : Bytes32 := beBytes32 0xf9308a019258c31049344f85f89d5229b531c845836f99b08601f113bce036f9

def refundInternalKey : Bytes32 := beBytes32 0x79be667ef9dcbbac55a06295ce870b07029bfcdb2dce28d959f2815b16f81798

def refundOutputKey : Bytes32 := beBytes32 0xff8b997717227d3e604dad965e216912742c12f14d6d9e7125ae4fb55ca6525e

def refundLeafHash : Bytes32 := beBytes32 0x96f7fb9340c2e5475b7febb647cbeede38521d8e8fcc122a3dea76c0a622bdf3

def refundTweak : Bytes32 := beBytes32 0xed49722d730c77e715088a7f3528907ee4ec412507f66b160e2e7218b313fa72

def refundScript : Bytes := [2, 0x90, 0x01, 0xb1, 0x75, 32] ++ refundKey.1 ++ [0xac]

def refundControlBlock : Bytes := 0xc1 :: refundInternalKey.1

def refundLeafTag : Bytes := (beBytes32 0xaeea8fdc4208983105734b58081d1e2638d35f1cb54008d4d357ca03be78e9ee).1

def refundTweakTag : Bytes := (beBytes32 0xe80fe1639c9ca050e3af1b39c143c63e429cbceb15d940fbb5c5a1f4af57c5e9).1

def refundTransaction (witness : List Bytes) : Transaction :=
  .new 2 [⟨List.replicate 32 7, 1, [], 0xfffffffe, witness⟩] [⟨99000, [0x51]⟩] 400

def refundPrevout : TransactionOutput := ⟨100000, [0x51, 0x20] ++ refundOutputKey.1⟩

theorem refundTransaction_typed (witness : List Bytes) : (refundTransaction witness).Typed := by
  have hversion : IsI32 2 := ⟨by decide, by decide⟩
  have hlock : 400 < 256 ^ 4 := by decide
  have houtput : 1 < 256 ^ 4 := by decide
  have hsequence : 0xfffffffe < 256 ^ 4 := by decide
  refine ⟨hversion, ?_, ?_, hlock⟩
  · intro input hinput
    obtain rfl := mem_singleton.mp hinput
    exact ⟨length_replicate, houtput, hsequence⟩
  · intro output houtput
    obtain rfl := mem_singleton.mp houtput
    decide

/-- The refund before it is signed, and with a witness in place. -/
def refundSpend (witness : List Bytes) : Spend where
  transaction := refundTransaction witness
  prevouts := [refundPrevout]
  inputIndex := 0
  typed := refundTransaction_typed witness
  prevoutsTyped := by
    intro prevout hprevout
    obtain rfl := List.mem_singleton.mp hprevout
    decide

/-- `sha2` and `secp256k1` on what a check of the refund gives them. -/
def refundCrypto : Crypto where
  sha256 message := beBytes32 ((List.lookup message
    [(tagBytes "TapLeaf", 0xaeea8fdc4208983105734b58081d1e2638d35f1cb54008d4d357ca03be78e9ee),
      (tagBytes "TapTweak", 0xe80fe1639c9ca050e3af1b39c143c63e429cbceb15d940fbb5c5a1f4af57c5e9),
      (refundLeafTag ++ refundLeafTag ++ ([0xc0, 39] ++ refundScript),
        0x96f7fb9340c2e5475b7febb647cbeede38521d8e8fcc122a3dea76c0a622bdf3),
      (refundTweakTag ++ refundTweakTag ++ (refundInternalKey.1 ++ refundLeafHash.1),
        0xed49722d730c77e715088a7f3528907ee4ec412507f66b160e2e7218b313fa72),
      (List.replicate 32 7 ++ [1, 0, 0, 0], 0x466f56a54a50a18e7a8e7141db28108037840b5f6275ca2925e9766884c138e3),
      ([0xa0, 0x86, 1, 0, 0, 0, 0, 0], 0x184c0ede118ec8cd31f699524bae48a81ed01ded5f8d08f2f4ff4286b33b0270),
      ([34] ++ refundPrevout.scriptPubkey, 0xbdc54b57498d62132edf2d5c88dbc325bd749d584ec23f74406918fc0a6d6af7),
      ([254, 255, 255, 255], 0xb4248c210a2905b94345e1a8414d0e12efcfb2f4f0f2397159a71283397a0ccd),
      ([0xb8, 0x82, 1, 0, 0, 0, 0, 0, 1, 0x51],
        0xe4d521042f059bdb5a96a862f73ad190cfa9d7ea0005f394281932cfe4ca5697)]).getD 0)
  isXOnly key := key ∈ [refundKey, refundInternalKey, refundOutputKey]
  publicKey _ := none
  addTweak key tweak :=
    if key = refundInternalKey ∧ tweak = refundTweak then some (refundOutputKey, .odd) else none
  mulTweak _ _ := none
  combineKeys _ := none

theorem refundMessages :
    ((refundSpend []).scriptMessage refundCrypto refundScript refundControlBlock).toOption.isSome = true ∧
      (refundSpend [[1]]).scriptMessage refundCrypto refundScript refundControlBlock =
        (refundSpend []).scriptMessage refundCrypto refundScript refundControlBlock ∧
      ((refundSpend []).keyMessage refundCrypto).toOption.isSome = true ∧
      (refundSpend [[1]]).keyMessage refundCrypto = (refundSpend []).keyMessage refundCrypto := by
  decide +kernel

/-- What the two spends hash does not collide. -/
theorem refundCrypto_injOn :
    Set.InjOn refundCrypto.sha256 { m | m ∈ (refundSpend []).hashed ++ (refundSpend [[1]]).hashed ++
      [leafMessage refundCrypto 0xc0 refundScript, leafMessage refundCrypto 0xc0 refundScript] } := by
  intro m hm m' hm' h
  have hpairs : ∀ m ∈ (refundSpend []).hashed ++ (refundSpend [[1]]).hashed ++
      [leafMessage refundCrypto 0xc0 refundScript, leafMessage refundCrypto 0xc0 refundScript],
      ∀ m' ∈ (refundSpend []).hashed ++ (refundSpend [[1]]).hashed ++
        [leafMessage refundCrypto 0xc0 refundScript, leafMessage refundCrypto 0xc0 refundScript],
      refundCrypto.sha256 m = refundCrypto.sha256 m' → m = m' := by
    decide +kernel
  exact hpairs m hm m' hm' h

/-- The refund and its signed form have the same messages, of both paths, and agree. -/
theorem signature_messages_commit_refund :
    (refundSpend []).Agrees (refundSpend [[1]]) ∧ (refundSpend []).Agrees (refundSpend [[1]]) ∧
      (refundSpend []).scriptMessage refundCrypto refundScript refundControlBlock ≠
        (refundSpend [[1]]).keyMessage refundCrypto := by
  obtain ⟨hscript, hkey, hpaths⟩ := signature_messages_commit refundCrypto (refundSpend []) (refundSpend [[1]])
  obtain ⟨hsome, hsame, hsome', hsame'⟩ := refundMessages
  cases hmessage : (refundSpend []).scriptMessage refundCrypto refundScript refundControlBlock with
  | error e =>
    rw [hmessage] at hsome
    cases hsome
  | ok message =>
    cases hmessage' : (refundSpend []).keyMessage refundCrypto with
    | error e =>
      rw [hmessage'] at hsome'
      cases hsome'
    | ok message' =>
      refine ⟨(hscript _ _ _ _ message hmessage (hsame.trans hmessage) refundCrypto_injOn).1,
        hkey message' hmessage' (hsame'.trans hmessage')
          (refundCrypto_injOn.mono fun m hm => List.mem_append_left _ hm), ?_⟩
      rw [hsame', hmessage']
      exact fun h => hpaths _ _ message message' hmessage (hsame'.trans hmessage') (Except.ok.inj h)

end Immortal.Bitcoin
