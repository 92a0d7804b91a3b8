import Immortal.Bitcoin.SignatureMessage

/-!
# `Immortal.Provider.RefundLeaf` — the refund leaf the provider writes

`script_number` and `refund_leaf_script` of the provider's `pricing`, against the reader of `immortal-core`. The two
crates implement Bitcoin's script numbers separately: the writer drops zero high bytes and adds one where the last
byte would read as a sign, and the reader refuses every string that is not such a minimal form.

Reading is inverse to writing on every positive `u32` (`parseScriptNumber_scriptNumber`), and what is read is what is
written for the value (`scriptNumber_of_read`).
-/

namespace Immortal.Provider

open Bitcoin List

/-! ## Writing -/

/-- The loop of `script_number`, with the bound of its passes. -/
def lowBytes : Nat → Nat → Bytes
  | 0, _ => []
  | passes + 1, remaining =>
    if remaining = 0 then [] else UInt8.ofNat (remaining % 256) :: lowBytes passes (remaining / 256)

/-- `byte & 0x80 != 0`. -/
def highBit (byte : UInt8) : Bool := byte &&& 0x80 != 0

def scriptNumber (value : UInt32) : Bytes :=
  let encoded := lowBytes 4 value.toNat
  if encoded.getLast?.any highBit then encoded ++ [0] else encoded

def refundLeafScript (refundHeight : UInt32) (signingKey : Bytes32) : Bytes :=
  let lock := scriptNumber refundHeight
  UInt8.ofNat lock.length :: (lock ++ ([0xb1, 0x75, 0x20] ++ (signingKey.1 ++ [0xac])))

/-! ## Low bytes -/

variable {bytes before rest : Bytes} {last : UInt8} {value passes : Nat}

theorem littleEndian_pos (hne : bytes ≠ []) (hlast : bytes.getLast? ≠ some 0) : 0 < littleEndian bytes := by
  induction bytes with
  | nil => exact absurd rfl hne
  | cons byte rest ih =>
    rw [littleEndian]
    cases rest with
    | nil =>
      have hbyte : byte.toNat ≠ 0 := fun h => hlast (congrArg some (UInt8.toNat_inj.mp h))
      omega
    | cons next rest =>
      have hrest := ih (cons_ne_nil _ _) hlast
      omega

/-- The loop writes back every string without a zero at its end. -/
theorem lowBytes_littleEndian (hvalue : littleEndian bytes < 256 ^ passes) (hlast : bytes.getLast? ≠ some 0) :
    lowBytes passes (littleEndian bytes) = bytes := by
  induction passes generalizing bytes with
  | zero =>
    by_contra hne
    have hpos := littleEndian_pos (Ne.symm hne) hlast
    omega
  | succ passes ih =>
    cases bytes with
    | nil => rfl
    | cons byte rest =>
      have hpos := littleEndian_pos (cons_ne_nil byte rest) hlast
      have hbyte := UInt8.toNat_lt byte
      rw [littleEndian] at hpos hvalue
      have hmod : (byte.toNat + 256 * littleEndian rest) % 256 = byte.toNat := by omega
      have hdiv : (byte.toNat + 256 * littleEndian rest) / 256 = littleEndian rest := by omega
      have hrest : rest.getLast? ≠ some 0 := by
        cases rest with
        | nil => simp
        | cons next rest => exact hlast
      rw [littleEndian, lowBytes, if_neg (by omega), hmod, hdiv, ih (by omega) hrest, UInt8.ofNat_toNat]

/-- What the loop writes: the value, in no more bytes than passes, without a zero at the end. -/
theorem lowBytes_spec (hvalue : value < 256 ^ passes) :
    littleEndian (lowBytes passes value) = value ∧ (lowBytes passes value).length ≤ passes ∧
      (lowBytes passes value).getLast? ≠ some 0 := by
  induction passes generalizing value with
  | zero => exact ⟨(Nat.lt_one_iff.mp hvalue).symm, Nat.le_refl 0, by simp [lowBytes]⟩
  | succ passes ih =>
    rw [lowBytes]
    split
    · rename_i hzero
      exact ⟨hzero.symm, Nat.zero_le _, by simp⟩
    · rename_i hpos
      obtain ⟨hread, hlength, hlast⟩ := ih (show value / 256 < 256 ^ passes by omega)
      have hbyte : (UInt8.ofNat (value % 256)).toNat = value % 256 :=
        UInt8.toNat_ofNat_of_lt' (Nat.mod_lt _ (by decide))
      refine ⟨by rw [littleEndian, hread, hbyte]; omega, Nat.succ_le_succ hlength, ?_⟩
      rw [getLast?_cons]
      -- The last byte is that of the quotient; where the quotient is zero, it is the byte written here.
      cases hquotient : (lowBytes passes (value / 256)).getLast? with
      | none =>
        rw [getLast?_eq_none_iff.mp hquotient] at hread
        intro h
        have hzero := congrArg UInt8.toNat (Option.some.inj h)
        rw [Option.getD_none, hbyte] at hzero
        have hvalue : value / 256 = 0 := hread.symm
        exact hpos (by change value % 256 = 0 at hzero; omega)
      | some byte => rwa [hquotient] at hlast

/-! ## Reading -/

/-- A byte is zero if its sign bit and the rest are. -/
theorem eq_zero_of_halves {byte : UInt8} (hhigh : byte &&& 0x80 = 0) (hlow : byte &&& 0x7f = 0) : byte = 0 := by
  have htable : ∀ n < 256, UInt8.ofNat n &&& 0x80 = 0 → UInt8.ofNat n &&& 0x7f = 0 → UInt8.ofNat n = 0 := by
    decide +kernel
  have hbyte := htable byte.toNat (UInt8.toNat_lt byte)
  rw [UInt8.ofNat_toNat] at hbyte
  exact hbyte hhigh hlow

/-- When a script number is read: no sign, and a zero at the end only behind a byte that would read as one. -/
theorem scriptNumber_concat : Bitcoin.scriptNumber (before ++ [last]) = .ok value ↔
    before.length ≤ 4 ∧ highBit last = false ∧ (last = 0 → before.getLast?.any highBit = true) ∧
      littleEndian (before ++ [last]) = value ∧ value < 2 ^ 32 := by
  have hminimal : last &&& 0x80 = 0 →
      ((last &&& 0x7f = 0 ∧ before.getLast?.all (fun byte => byte &&& 0x80 == 0)) ↔
        ¬(last = 0 → before.getLast?.any highBit = true)) := by
    intro hhigh
    have hzero : last &&& 0x7f = 0 ↔ last = 0 := ⟨eq_zero_of_halves hhigh, fun h => by rw [h]; rfl⟩
    rw [hzero]
    cases before.getLast? <;> simp [highBit]
  rw [Bitcoin.scriptNumber, reverse_append, reverse_singleton, singleton_append]
  simp only [head?_reverse, length_append, length_singleton, highBit, bne_eq_false_iff_eq]
  split
  · rename_i hform
    simp only [reduceCtorEq, false_iff]
    rintro ⟨hlength, hhigh, -⟩
    exact hform.elim (by omega) (fun h => h hhigh)
  · rename_i hform
    push Not at hform
    rw [if_congr (hminimal hform.2) rfl rfl]
    split
    · rename_i hnot
      simp only [reduceCtorEq, false_iff]
      exact fun h => hnot h.2.2.1
    · rename_i hlast
      push Not at hlast
      split
      · simp only [reduceCtorEq, false_iff]
        rintro ⟨-, -, -, rfl, hrange⟩
        omega
      · rw [Except.ok.injEq]
        exact ⟨fun h => ⟨by omega, hform.2, hlast, h, by omega⟩, fun h => h.2.2.2.1⟩

theorem littleEndian_concat_zero (bytes : Bytes) : littleEndian (bytes ++ [0]) = littleEndian bytes := by
  induction bytes with
  | nil => rfl
  | cons byte rest ih => rw [cons_append, littleEndian, littleEndian, ih]

theorem parseScriptNumber_eq_ok : parseScriptNumber bytes = .ok value ↔ Bitcoin.scriptNumber bytes = .ok value := by
  unfold parseScriptNumber
  split <;> simp_all

/-! ## The round trip -/

/-- **What is written is read.** -/
theorem parseScriptNumber_scriptNumber {n : UInt32} (hn : n ≠ 0) :
    parseScriptNumber (scriptNumber n) = .ok n.toNat := by
  rw [parseScriptNumber_eq_ok]
  obtain ⟨hread, hlength, hlast⟩ := lowBytes_spec (show n.toNat < 256 ^ 4 from n.toNat_lt)
  rw [scriptNumber]
  rcases eq_nil_or_concat' (lowBytes 4 n.toNat) with hnil | ⟨before, last, hencoded⟩
  · rw [hnil] at hread
    exact absurd (UInt32.toNat_inj.mp hread.symm) hn
  split
  · rename_i hhigh
    exact scriptNumber_concat.mpr ⟨hlength, rfl, fun _ => hhigh, (littleEndian_concat_zero _).trans hread, n.toNat_lt⟩
  · rename_i hlow
    rw [hencoded] at hread hlength hlast hlow ⊢
    rw [getLast?_append_of_ne_nil _ (cons_ne_nil _ _)] at hlast hlow
    have hzero : last ≠ 0 := fun h => hlast (congrArg some h)
    rw [length_append] at hlength
    exact scriptNumber_concat.mpr
      ⟨by omega, Bool.eq_false_iff.mpr hlow, fun h => absurd h hzero, hread, n.toNat_lt⟩

/-- **What is read is what is written for it.** -/
theorem scriptNumber_of_read (h : parseScriptNumber bytes = .ok value) :
    ∃ n : UInt32, n.toNat = value ∧ scriptNumber n = bytes := by
  rw [parseScriptNumber_eq_ok] at h
  rcases eq_nil_or_concat' bytes with rfl | ⟨before, last, rfl⟩
  · cases h
  obtain ⟨-, hlow, hminimal, rfl, hrange⟩ := scriptNumber_concat.mp h
  have hvalue := UInt32.toNat_ofNat_of_lt' hrange
  refine ⟨_, hvalue, ?_⟩
  unfold scriptNumber
  rw [hvalue]
  by_cases hlast : last = 0
  · have hhigh := hminimal hlast
    subst hlast
    rw [littleEndian_concat_zero] at hrange ⊢
    have hbefore : before.getLast? ≠ some 0 := by
      intro hzero
      rw [hzero] at hhigh
      exact absurd hhigh (by decide)
    rw [lowBytes_littleEndian hrange hbefore, if_pos hhigh]
  · rw [lowBytes_littleEndian hrange (by simpa using hlast), if_neg (by simp [hlow])]

/-! ## The leaf -/

section Parser

variable {fuel count : Nat} {instructions : List ScriptInstruction}

theorem parseInstructions_step {code : UInt8} {script : Bytes} {instruction : ScriptInstruction}
    (hread : readInstruction code script = .ok (instruction, rest)) (hcount : count < 256)
    (h : parseInstructions fuel rest (count + 1) = .ok instructions) :
    parseInstructions (fuel + 1) (code :: script) count = .ok (instruction :: instructions) := by
  rw [parseInstructions, Txn.bind_eq_ok]
  refine ⟨_, hread, ?_⟩
  dsimp only
  rw [if_neg (by omega), Txn.bind_eq_ok]
  exact ⟨instructions, h, rfl⟩

theorem readInstruction_push {data : Bytes} (hpos : 0 < data.length) (hlength : data.length ≤ 75) (rest : Bytes) :
    readInstruction (UInt8.ofNat data.length) (data ++ rest) = .ok (.push data, rest) := by
  have hcode : (UInt8.ofNat data.length).toNat = data.length :=
    UInt8.toNat_ofNat_of_lt' (Nat.lt_of_le_of_lt hlength (by decide))
  rw [readInstruction, hcode, if_pos ⟨hpos, hlength⟩, readPush, if_neg (by simp), take_left, drop_left]

theorem readInstruction_opcode {code : UInt8} (hcode : 0x4e < code.toNat) (hallowed : allowedOpcode code = true)
    (rest : Bytes) : readInstruction code rest = .ok (.opcode code, rest) := by
  have hne : ∀ other : UInt8, other.toNat ≤ 0x4e → code ≠ other := by
    rintro other hother rfl
    omega
  rw [readInstruction, if_neg (by omega), if_neg (hne _ (by decide)), if_neg (hne _ (by decide)),
    if_neg (hne _ (by decide)), if_pos hallowed]
  rfl

end Parser

theorem length_scriptNumber {n : UInt32} (hn : n ≠ 0) :
    0 < (scriptNumber n).length ∧ (scriptNumber n).length ≤ 5 := by
  have hread := parseScriptNumber_eq_ok.mp (parseScriptNumber_scriptNumber hn)
  rcases eq_nil_or_concat' (scriptNumber n) with hnil | ⟨before, last, hencoded⟩
  · rw [hnil] at hread
    cases hread
  · rw [hencoded] at hread ⊢
    have hlength := (scriptNumber_concat.mp hread).1
    rw [length_append, length_singleton]
    omega

theorem parseSwapScript_refundLeafScript {n : UInt32} (hn : n ≠ 0) (key : Bytes32) :
    parseSwapScript (refundLeafScript n key) =
      .ok [.push (scriptNumber n), .opcode 0xb1, .opcode 0x75, .push key.1, .opcode 0xac] := by
  obtain ⟨hpos, hlength⟩ := length_scriptNumber hn
  have hkey := key.2
  have hscript : (refundLeafScript n key).length = (scriptNumber n).length + 32 + 5 := by
    simp only [refundLeafScript, length_cons, length_append, length_nil, hkey]
  have hpush : (0x20 : UInt8) = UInt8.ofNat key.1.length := by rw [hkey]; rfl
  rw [parseSwapScript, if_neg (by rw [← length_eq_zero_iff]; unfold maxScriptBytes; omega), hscript,
    refundLeafScript, hpush]
  refine parseInstructions_step (readInstruction_push hpos (by omega) _) (by decide) ?_
  refine parseInstructions_step (readInstruction_opcode (by decide) (by decide) _) (by decide) ?_
  refine parseInstructions_step (readInstruction_opcode (by decide) (by decide) _) (by decide) ?_
  refine parseInstructions_step (readInstruction_push (by omega) (by omega) _) (by decide) ?_
  exact parseInstructions_step (readInstruction_opcode (by decide) (by decide) _) (by decide) (by rw [parseInstructions])

/-- **Script numbers agree.** Every positive `u32` the provider writes is read as itself, the reader accepts only what
    the provider would write for the value, and so a refund leaf is parsed to its height and its key, whatever bytes
    the key has; the parser then only asks whether they are an x-only public key, as the provider's are. -/
theorem script_numbers_agree (c : Crypto) :
    (∀ n : UInt32, n ≠ 0 → parseScriptNumber (scriptNumber n) = .ok n.toNat) ∧
    (∀ bytes value, parseScriptNumber bytes = .ok value → ∃ n : UInt32, n.toNat = value ∧ scriptNumber n = bytes) ∧
    ∀ (n : UInt32) (key : Bytes32), n ≠ 0 → parseSwapLeafScript c (refundLeafScript n key) =
      if c.isXOnly key then .ok (key, .cltv n.toNat) else .error (.crypto "swap leaf signing key") := by
  refine ⟨fun n => parseScriptNumber_scriptNumber, fun bytes value => scriptNumber_of_read, ?_⟩
  intro n key hn
  have harray := Bytes32.ofBytes_eq_some.mpr (rfl : key.1 = key.1)
  have hmatch : matchLeaf parseScriptNumber (.unsupported "swap leaf is not an exact hashlock, CLTV, or CSV path")
      [.push (scriptNumber n), .opcode 0xb1, .opcode 0x75, .push key.1, .opcode 0xac] =
        .ok (key, .cltv n.toNat) := by
    rw [matchLeaf, harray]
    dsimp only
    rw [parseScriptNumber_scriptNumber hn]
    rfl
  rw [parseSwapLeafScript, parseSwapScript_refundLeafScript hn key]
  show (matchLeaf _ _ _ >>= _) = _
  rw [hmatch]
  rfl

/-- The leaf of a refund at height 400. -/
theorem script_numbers_agree_refund :
    scriptNumber 400 = [0x90, 0x01] ∧ refundLeafScript 400 refundKey = refundScript ∧
      parseScriptNumber [0x90, 0x01] = .ok 400 ∧
      parseSwapLeafScript refundCrypto refundScript = .ok (refundKey, .cltv 400) := by
  obtain ⟨hread, -, hleaf⟩ := script_numbers_agree refundCrypto
  have hscript : refundLeafScript 400 refundKey = refundScript := by decide +kernel
  have hkey : refundCrypto.isXOnly refundKey = true := by decide +kernel
  refine ⟨by decide, hscript, hread 400 (by decide), ?_⟩
  rw [← hscript, hleaf 400 refundKey (by decide), if_pos hkey]
  rfl

end Immortal.Provider
