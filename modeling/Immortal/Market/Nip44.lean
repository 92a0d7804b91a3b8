import Immortal.Bitcoin.Serialize
import Immortal.Client.Value

/-!
# `Immortal.Market.Nip44` — NIP-44 v2 payloads

`nip44` of `immortal-core`: base64, the two length prefixes and the power-of-two padding, the ChaCha20 keystream, HKDF
and HMAC over a hash that is a parameter (`sha2` is a third-party crate). `decrypt` undoes `encrypt` for every
plaintext within the bound, whatever the hash computes: each stage is undone by its counterpart, and the bounds on the
payload are those of the longest padded plaintext.
-/

namespace Immortal.Market

open Bitcoin
open Client (utf8)
open List (length_append length_nil replicate length_drop take_append_drop append_assoc take_left' drop_left' zipWith)

/-! ## Base64 -/

def base64Alphabet : List UInt8 :=
  ("ABCDEFGHIJKLMNOPQRSTUVWXYZabcdefghijklmnopqrstuvwxyz0123456789+/".toList).map fun symbol =>
    UInt8.ofNat symbol.toNat

/-- `BASE64[index]`. -/
def base64Symbol (index : UInt8) : UInt8 := base64Alphabet.getD index.toNat 0

/-- `b'='`. -/
def padSymbol : UInt8 := 61

/-! The four groups of six bits in three bytes. -/

def groupA (first : UInt8) : UInt8 := first >>> 2

def groupB (first second : UInt8) : UInt8 := ((first &&& 0x03) <<< 4) ||| (second >>> 4)

def groupC (second third : UInt8) : UInt8 := ((second &&& 0x0f) <<< 2) ||| (third >>> 6)

def groupD (third : UInt8) : UInt8 := third &&& 0x3f

/-- One pass of the encoder's loop over a chunk of `length` bytes; the missing bytes are zero. -/
def base64Chunk (first second third : UInt8) (length : Nat) : Bytes :=
  [base64Symbol (groupA first), base64Symbol (groupB first second),
    if 1 < length then base64Symbol (groupC second third) else padSymbol,
    if 2 < length then base64Symbol (groupD third) else padSymbol]

def base64Encode : Bytes → Bytes
  | [] => []
  | [first] => base64Chunk first 0 0 1
  | [first, second] => base64Chunk first second 0 2
  | first :: second :: third :: rest => base64Chunk first second third 3 ++ base64Encode rest

def base64Value (byte : UInt8) : Except String UInt8 :=
  if 65 ≤ byte ∧ byte ≤ 90 then .ok (byte - 65)
  else if 97 ≤ byte ∧ byte ≤ 122 then .ok (byte - 97 + 26)
  else if 48 ≤ byte ∧ byte ≤ 57 then .ok (byte - 48 + 52)
  else if byte = 43 then .ok 62
  else if byte = 47 then .ok 63
  else .error "NIP-44 payload is not canonical base64"

def invalidBase64Padding : String := "NIP-44 payload base64 padding is invalid"

/-- The third value of a chunk; a pad stands for zero. -/
def base64Third (last : Bool) (b third fourth : UInt8) : Except String UInt8 :=
  if third = padSymbol then
    if !last ∨ fourth ≠ padSymbol ∨ b &&& 0x0f ≠ 0 then .error invalidBase64Padding else .ok 0
  else base64Value third

def base64Fourth (last : Bool) (c third fourth : UInt8) : Except String UInt8 :=
  if fourth = padSymbol then
    if !last ∨ c &&& 0x03 ≠ 0 then .error invalidBase64Padding else .ok 0
  else if third = padSymbol then .error invalidBase64Padding
  else base64Value fourth

/-- One pass of the decoder's loop. -/
def base64DecodeChunk (last : Bool) (first second third fourth : UInt8) : Except String Bytes := do
  let a ← base64Value first
  let b ← base64Value second
  let c ← base64Third last b third fourth
  let d ← base64Fourth last c third fourth
  return ((a <<< 2) ||| (b >>> 4)) ::
    ((if third = padSymbol then [] else [(b <<< 4) ||| (c >>> 2)]) ++
      (if fourth = padSymbol then [] else [(c <<< 6) ||| d]))

/-- The decoder's loop; like `chunks_exact` it ignores a shorter last chunk. -/
def base64DecodeChunks : Bytes → Except String Bytes
  | first :: second :: third :: fourth :: rest => do
    let bytes ← base64DecodeChunk rest.isEmpty first second third fourth
    let decoded ← base64DecodeChunks rest
    return bytes ++ decoded
  | _ => .ok []

def base64Decode (value : Bytes) : Except String Bytes :=
  if value.length % 4 ≠ 0 then .error "NIP-44 payload base64 length is invalid"
  else do
    let decoded ← base64DecodeChunks value
    if base64Encode decoded ≠ value then .error "NIP-44 payload base64 is noncanonical" else .ok decoded

theorem base64Symbol_spec {index : UInt8} (h : index < 64) :
    base64Value (base64Symbol index) = .ok index ∧ base64Symbol index ≠ padSymbol ∧ base64Symbol index < 128 := by
  have htable : ∀ n < 64, base64Value (base64Symbol (UInt8.ofNat n)) = .ok (UInt8.ofNat n) ∧
      base64Symbol (UInt8.ofNat n) ≠ padSymbol ∧ base64Symbol (UInt8.ofNat n) < 128 := by
    decide +kernel
  have hindex := htable index.toNat (UInt8.lt_iff_toNat_lt.mp h)
  rwa [UInt8.ofNat_toNat] at hindex

/-! Each group fits the alphabet, and the shifts of the decoder put the bytes together again. Bytes are compared bit
by bit. -/

theorem eq_of_bits {x y : UInt8} (h : ∀ i < 8, x.toBitVec.getLsbD i = y.toBitVec.getLsbD i) : x = y := by
  rw [← UInt8.toBitVec_inj]
  exact BitVec.eq_of_getLsbD_eq fun i hi => h i hi

theorem bit_cases {P : Nat → Prop} (h : P 0 ∧ P 1 ∧ P 2 ∧ P 3 ∧ P 4 ∧ P 5 ∧ P 6 ∧ P 7) : ∀ i < 8, P i := by
  intro i hi
  obtain ⟨h0, h1, h2, h3, h4, h5, h6, h7⟩ := h
  rcases (by omega : i = 0 ∨ i = 1 ∨ i = 2 ∨ i = 3 ∨ i = 4 ∨ i = 5 ∨ i = 6 ∨ i = 7) with
    rfl | rfl | rfl | rfl | rfl | rfl | rfl | rfl <;> assumption

theorem groups_first (x y : UInt8) : (groupA x <<< 2) ||| (groupB x y >>> 4) = x :=
  eq_of_bits (bit_cases (by simp [groupA, groupB]))

theorem groups_second (x y z : UInt8) : (groupB x y <<< 4) ||| (groupC y z >>> 2) = y :=
  eq_of_bits (bit_cases (by simp [groupB, groupC]))

theorem groups_third (y z : UInt8) : (groupC y z <<< 6) ||| groupD z = z :=
  eq_of_bits (bit_cases (by simp [groupC, groupD]))

theorem lt_of_masked {v : UInt8} (h : v &&& 0x3f = v) : v < 64 := by
  rw [← h]
  exact Nat.lt_of_le_of_lt Nat.and_le_right (by decide)

theorem groupA_lt (x : UInt8) : groupA x < 64 := lt_of_masked (eq_of_bits (bit_cases (by simp [groupA])))

theorem groupB_lt (x y : UInt8) : groupB x y < 64 := lt_of_masked (eq_of_bits (bit_cases (by simp [groupB])))

theorem groupC_lt (y z : UInt8) : groupC y z < 64 := lt_of_masked (eq_of_bits (bit_cases (by simp [groupC])))

theorem groupD_lt (z : UInt8) : groupD z < 64 := lt_of_masked (eq_of_bits (bit_cases (by simp [groupD])))

/-- The groups before a pad leave no bits behind. -/
theorem groupB_zero (x : UInt8) : groupB x 0 &&& 0x0f = 0 := eq_of_bits (bit_cases (by simp [groupB]))

theorem groupC_zero (y : UInt8) : groupC y 0 &&& 0x03 = 0 := eq_of_bits (bit_cases (by simp [groupC]))

theorem base64DecodeChunk_one (first : UInt8) :
    base64DecodeChunk true (base64Symbol (groupA first)) (base64Symbol (groupB first 0)) padSymbol padSymbol =
      .ok [first] := by
  simp only [base64DecodeChunk, (base64Symbol_spec (groupA_lt first)).1, (base64Symbol_spec (groupB_lt first 0)).1,
    base64Third, base64Fourth, Txn.bind_eq_ok]
  refine ⟨_, rfl, _, rfl, 0, by simp [groupB_zero], 0, by simp, ?_⟩
  rw [groups_first]
  rfl

theorem base64DecodeChunk_two (first second : UInt8) :
    base64DecodeChunk true (base64Symbol (groupA first)) (base64Symbol (groupB first second))
      (base64Symbol (groupC second 0)) padSymbol = .ok [first, second] := by
  have hc := base64Symbol_spec (groupC_lt second 0)
  simp only [base64DecodeChunk, (base64Symbol_spec (groupA_lt first)).1, (base64Symbol_spec (groupB_lt first second)).1,
    base64Third, base64Fourth, hc.1, hc.2.1, Txn.bind_eq_ok]
  refine ⟨_, rfl, _, rfl, _, rfl, 0, by simp [groupC_zero], ?_⟩
  rw [groups_first, groups_second]
  rfl

theorem base64DecodeChunk_three (last : Bool) (first second third : UInt8) :
    base64DecodeChunk last (base64Symbol (groupA first)) (base64Symbol (groupB first second))
      (base64Symbol (groupC second third)) (base64Symbol (groupD third)) = .ok [first, second, third] := by
  have hc := base64Symbol_spec (groupC_lt second third)
  have hd := base64Symbol_spec (groupD_lt third)
  simp only [base64DecodeChunk, (base64Symbol_spec (groupA_lt first)).1, (base64Symbol_spec (groupB_lt first second)).1,
    base64Third, base64Fourth, hc.1, hc.2.1, hd.1, hd.2.1, Txn.bind_eq_ok]
  refine ⟨_, rfl, _, rfl, _, rfl, _, rfl, ?_⟩
  rw [groups_first, groups_second, groups_third]
  rfl

variable (bytes : Bytes)

theorem base64DecodeChunks_encode : base64DecodeChunks (base64Encode bytes) = .ok bytes := by
  fun_induction base64Encode bytes with
  | case1 => rfl
  | case2 first => exact Txn.bind_eq_ok.mpr ⟨_, base64DecodeChunk_one first, rfl⟩
  | case3 first second => exact Txn.bind_eq_ok.mpr ⟨_, base64DecodeChunk_two first second, rfl⟩
  | case4 first second third rest ih =>
    exact Txn.bind_eq_ok.mpr ⟨_, base64DecodeChunk_three _ first second third, Txn.bind_eq_ok.mpr ⟨_, ih, rfl⟩⟩

theorem length_base64Encode : (base64Encode bytes).length = (bytes.length + 2) / 3 * 4 := by
  fun_induction base64Encode bytes with
  | case1 => rfl
  | case2 first => simp [base64Chunk]
  | case3 first second => simp [base64Chunk]
  | case4 first second third rest ih =>
    rw [length_append, base64Chunk]
    simp only [List.length_cons, length_nil]
    omega

theorem base64Decode_encode : base64Decode (base64Encode bytes) = .ok bytes := by
  have hlength := length_base64Encode bytes
  rw [base64Decode, if_neg (by omega), base64DecodeChunks_encode]
  show (if _ then _ else _) = _
  rw [if_neg (not_not_intro rfl)]

/-! ## Padding -/

def maxClientPlaintextBytes : Nat := 256 * 1024

def plaintextOutsideBound : String := "NIP-44 plaintext length is outside the client bound"

/-- `checked_next_power_of_two`; a length within the bound is far from an overflow. -/
def nextPowerOfTwo (length : Nat) : Nat := 2 ^ Nat.clog 2 length

def paddedLength (length : Nat) : Except String Nat :=
  if length = 0 ∨ maxClientPlaintextBytes < length then .error plaintextOutsideBound
  else if length ≤ 32 then .ok 32
  else
    let chunk := if nextPowerOfTwo length ≤ 256 then 32 else nextPowerOfTwo length / 8
    .ok (chunk * ((length - 1) / chunk + 1))

/-- The length before a plaintext: two bytes, or two zeros and four bytes. -/
def lengthPrefix (length : Nat) : Bytes :=
  if 65536 ≤ length then [0, 0] ++ beBytes length 4 else beBytes length 2

def pad (plaintext : Bytes) : Except String Bytes := do
  let padded ← paddedLength plaintext.length
  return lengthPrefix plaintext.length ++ (plaintext ++ List.replicate (padded - plaintext.length) 0)

/-- The checks of `unpad` behind the length. -/
def unpadBody (padded : Bytes) (length prefixLength : Nat) : Except String Bytes :=
  if length = 0 ∨ maxClientPlaintextBytes < length then .error plaintextOutsideBound
  else do
    let expected ← paddedLength length
    if padded.length ≠ prefixLength + expected ∨ padded.length < prefixLength + length then
      .error "NIP-44 padding length is invalid"
    else if (padded.drop (prefixLength + length)).any (· ≠ 0) then .error "NIP-44 padding is not zero-filled"
    else .ok ((padded.drop prefixLength).take length)

def unpad (padded : Bytes) : Except String Bytes :=
  if padded.length < 2 then .error "NIP-44 padding is truncated"
  else if bigEndian (padded.take 2) = 0 then
    if padded.length < 6 then .error "NIP-44 extended padding is truncated"
    else if bigEndian ((padded.drop 2).take 4) < 65536 then
      .error "NIP-44 extended padding length is noncanonical"
    else unpadBody padded (bigEndian ((padded.drop 2).take 4)) 6
  else unpadBody padded (bigEndian (padded.take 2)) 2

variable {padded plaintext : Bytes} {length : Nat}

/-- Rounding up to a multiple of the chunk stays below a multiple of the chunk. -/
theorem roundUp_bounds {chunk top : Nat} (hchunk : 0 < chunk) (hdvd : chunk ∣ top) (hpos : 0 < length)
    (hle : length ≤ top) : length ≤ chunk * ((length - 1) / chunk + 1) ∧ chunk * ((length - 1) / chunk + 1) ≤ top := by
  constructor
  · have hlt := Nat.lt_mul_div_succ (length - 1) hchunk
    omega
  · obtain ⟨count, rfl⟩ := hdvd
    have hlt : (length - 1) / chunk < count := Nat.div_lt_of_lt_mul (by omega)
    exact Nat.mul_le_mul_left _ hlt

/-- A padded length is between the length and the next power of two. -/
theorem paddedLength_spec (hpos : length ≠ 0) (hmax : length ≤ maxClientPlaintextBytes) :
    ∃ padded, paddedLength length = .ok padded ∧ length ≤ padded ∧ 32 ≤ padded ∧
      padded ≤ maxClientPlaintextBytes := by
  have hbound : maxClientPlaintextBytes = 2 ^ 18 := rfl
  unfold paddedLength
  rw [if_neg (by omega)]
  by_cases hsmall : length ≤ 32
  · exact ⟨32, by rw [if_pos hsmall], hsmall, le_rfl, by omega⟩
  rw [if_neg hsmall, nextPowerOfTwo]
  have hlow : 5 < Nat.clog 2 length := (Nat.lt_clog_iff_pow_lt (by decide)).mpr (by omega)
  have htop : 2 ^ Nat.clog 2 length ≤ 2 ^ 18 :=
    Nat.pow_le_pow_right (by decide) ((Nat.clog_le_iff_le_pow (by decide)).mpr (hbound ▸ hmax))
  have hle : length ≤ 2 ^ Nat.clog 2 length := Nat.le_pow_clog (by decide) length
  have heighth : 2 ^ Nat.clog 2 length / 2 ^ 3 = 2 ^ (Nat.clog 2 length - 3) := Nat.pow_div (by omega) (by decide)
  have hdvd : (if 2 ^ Nat.clog 2 length ≤ 256 then 32 else 2 ^ Nat.clog 2 length / 8) ∣ 2 ^ Nat.clog 2 length := by
    split
    · exact Nat.pow_dvd_pow 2 hlow.le
    · exact heighth ▸ Nat.pow_dvd_pow 2 (by omega)
  have hchunk := Nat.pos_of_dvd_of_pos hdvd (Nat.two_pow_pos _)
  obtain ⟨hfits, hbelow⟩ := roundUp_bounds hchunk hdvd (by omega) hle
  exact ⟨_, rfl, hfits, by omega, by omega⟩

/-- `unpad` behind a length prefix: the rest is the plaintext and its zeros. -/
theorem unpadBody_eq_ok {prefixLength : Nat} (h : prefixLength ≤ padded.length) :
    unpadBody padded length prefixLength = .ok plaintext ↔
      ∃ total, paddedLength length = .ok total ∧ plaintext.length = length ∧
        padded.drop prefixLength = plaintext ++ replicate (total - length) 0 := by
  have hbody : (padded.drop prefixLength).length = padded.length - prefixLength := length_drop
  unfold unpadBody
  by_cases hbound : length = 0 ∨ maxClientPlaintextBytes < length
  · rw [if_pos hbound]
    simp only [reduceCtorEq, false_iff]
    rintro ⟨total, htotal, -⟩
    rw [paddedLength, if_pos hbound] at htotal
    cases htotal
  push Not at hbound
  obtain ⟨total, htotal, hfits, -, -⟩ := paddedLength_spec hbound.1 hbound.2
  rw [if_neg (by omega), htotal, ← List.drop_drop]
  show (if _ then _ else _) = _ ↔ _
  simp only [Except.ok.injEq, exists_eq_left']
  generalize padded.drop prefixLength = body at hbody ⊢
  constructor
  · intro h
    split at h
    · cases h
    split at h
    · cases h
    rename_i hlength hzeros
    cases h
    refine ⟨List.length_take_of_le (by omega), ?_⟩
    have hrest : body.drop length = replicate (total - length) 0 := by
      rw [List.eq_replicate_iff, length_drop]
      refine ⟨by omega, ?_⟩
      simpa using hzeros
    rw [← hrest, take_append_drop]
  · rintro ⟨rfl, rfl⟩
    rw [length_append, List.length_replicate] at hbody
    rw [if_neg (by omega), List.take_left, if_neg (by simp)]

theorem lengthPrefix_short (h : length < 65536) : lengthPrefix length = beBytes length 2 := by
  rw [lengthPrefix, if_neg (by omega)]

theorem lengthPrefix_extended (h : 65536 ≤ length) : lengthPrefix length = [0, 0] ++ beBytes length 4 := by
  rw [lengthPrefix, if_pos h]

theorem pad_eq_ok :
    pad plaintext = .ok padded ↔ ∃ total, paddedLength plaintext.length = .ok total ∧
      padded = lengthPrefix plaintext.length ++ (plaintext ++ replicate (total - plaintext.length) 0) := by
  rw [pad, Txn.bind_eq_ok]
  exact exists_congr fun total => and_congr_right fun _ => by simp [pure, Except.pure, eq_comm]

theorem pad_of_unpad (h : unpad padded = .ok plaintext) : pad plaintext = .ok padded := by
  rw [pad_eq_ok]
  unfold unpad at h
  split at h
  · cases h
  have htwo : (padded.take 2).length = 2 := List.length_take_of_le (by omega)
  have hhead := beBytes_bigEndian htwo
  split at h
  · rename_i hzero
    split at h
    · cases h
    split at h
    · cases h
    have hfour : ((padded.drop 2).take 4).length = 4 := List.length_take_of_le (by rw [length_drop]; omega)
    obtain ⟨total, htotal, hlength, hdrop⟩ := (unpadBody_eq_ok (by omega)).mp h
    refine ⟨total, by rw [hlength, htotal], ?_⟩
    rw [hzero] at hhead
    rw [hlength, lengthPrefix_extended (by omega), beBytes_bigEndian hfour, ← hdrop, append_assoc,
      ← List.drop_drop (i := 4) (j := 2), take_append_drop]
    exact (take_append_drop 2 padded).symm.trans (by rw [← hhead]; rfl)
  · have hlt := bigEndian_lt (padded.take 2)
    rw [htwo] at hlt
    obtain ⟨total, htotal, hlength, hdrop⟩ := (unpadBody_eq_ok (by omega)).mp h
    refine ⟨total, by rw [hlength, htotal], ?_⟩
    rw [hlength, lengthPrefix_short (by omega), hhead, ← hdrop, take_append_drop]

theorem unpad_of_pad (h : pad plaintext = .ok padded) : unpad padded = .ok plaintext := by
  obtain ⟨total, htotal, rfl⟩ := pad_eq_ok.mp h
  have hbound : ¬ (plaintext.length = 0 ∨ maxClientPlaintextBytes < plaintext.length) := by
    intro hbound
    rw [paddedLength, if_pos hbound] at htotal
    cases htotal
  push Not at hbound
  obtain ⟨hpos, hmax⟩ := hbound
  have hmaximum : maxClientPlaintextBytes = 262144 := rfl
  unfold unpad
  by_cases hextended : 65536 ≤ plaintext.length
  · rw [lengthPrefix_extended hextended]
    have hfour := length_beBytes plaintext.length 4
    have hvalue : bigEndian (beBytes plaintext.length 4) = plaintext.length := bigEndian_beBytes (by omega)
    have hdrop : ∀ body, ([0, 0] ++ beBytes plaintext.length 4 ++ body).drop 2 = beBytes plaintext.length 4 ++ body :=
      fun body => rfl
    have hzero : ∀ body, bigEndian (([0, 0] ++ beBytes plaintext.length 4 ++ body).take 2) = 0 := fun body => rfl
    have hsix : ∀ body, ([0, 0] ++ beBytes plaintext.length 4 ++ body).length = 6 + body.length := by
      intro body
      rw [length_append]
      rfl
    rw [if_neg (by rw [hsix]; omega), if_pos (hzero _), if_neg (by rw [hsix]; omega), hdrop, take_left' hfour,
      hvalue, if_neg (by omega)]
    refine (unpadBody_eq_ok (by rw [hsix]; omega)).mpr ⟨total, htotal, rfl, ?_⟩
    exact drop_left' (by rw [length_append]; rfl)
  · rw [lengthPrefix_short (by omega)]
    have htwo := length_beBytes plaintext.length 2
    have hvalue : bigEndian (beBytes plaintext.length 2) = plaintext.length := bigEndian_beBytes (by omega)
    rw [take_left' htwo, hvalue, if_neg hpos]
    exact (unpadBody_eq_ok (by rw [length_append]; omega)).mpr ⟨total, htotal, rfl, drop_left' htwo⟩

/-! ## Keystream -/

/-- The state of a ChaCha20 block. -/
abbrev ChaChaState := Vector UInt32 16

/-- `rotate_left`. -/
def rotateLeft (value count : UInt32) : UInt32 := (value <<< count) ||| (value >>> (32 - count))

/-- Adds one word to another, and rotates a third one by the sum. -/
def quarterStep (state : ChaChaState) (a b d : Fin 16) (count : UInt32) : ChaChaState :=
  let state := state.set a (state[a] + state[b])
  state.set d (rotateLeft (state[d] ^^^ state[a]) count)

def quarterRound (state : ChaChaState) (a b c d : Fin 16) : ChaChaState :=
  let state := quarterStep state a b d 16
  let state := quarterStep state c d b 12
  let state := quarterStep state a b d 8
  quarterStep state c d b 7

/-- One pass of the block's loop: the columns, then the diagonals. -/
def doubleRound (state : ChaChaState) : ChaChaState :=
  let state := quarterRound state 0 4 8 12
  let state := quarterRound state 1 5 9 13
  let state := quarterRound state 2 6 10 14
  let state := quarterRound state 3 7 11 15
  let state := quarterRound state 0 5 10 15
  let state := quarterRound state 1 6 11 12
  let state := quarterRound state 2 7 8 13
  quarterRound state 3 4 9 14

/-- The `index`-th little-endian word of a key or nonce. -/
def wordAt (bytes : Bytes) (index : Nat) : UInt32 := UInt32.ofNat (littleEndian ((bytes.drop (4 * index)).take 4))

def chacha20Initial (key nonce : Bytes) (counter : UInt32) : ChaChaState :=
  #v[0x61707865, 0x3320646e, 0x79622d32, 0x6b206574, wordAt key 0, wordAt key 1, wordAt key 2, wordAt key 3,
    wordAt key 4, wordAt key 5, wordAt key 6, wordAt key 7, counter, wordAt nonce 0, wordAt nonce 1, wordAt nonce 2]

def chacha20Block (key nonce : Bytes) (counter : UInt32) : Bytes :=
  let initial := chacha20Initial key nonce counter
  let state := Nat.iterate doubleRound 10 initial
  (List.finRange 16).flatMap fun index => leBytes (state[index] + initial[index]).toNat 4

/-- The loop of `chacha20_xor` over chunks of 64 bytes; `chunks` bounds their number. -/
def chacha20XorChunks (key nonce : Bytes) : Nat → UInt32 → Bytes → Bytes
  | 0, _, _ => []
  | chunks + 1, counter, data =>
    if data = [] then []
    else List.zipWith (· ^^^ ·) (data.take 64) (chacha20Block key nonce counter) ++
      chacha20XorChunks key nonce chunks (counter + 1) (data.drop 64)

/-- A chunk has at least one byte, so there are no more chunks than bytes. -/
def chacha20Xor (key nonce data : Bytes) : Bytes := chacha20XorChunks key nonce data.length 0 data

theorem zipWith_xor_cancel {data mask : Bytes} (h : data.length ≤ mask.length) :
    zipWith (· ^^^ ·) (zipWith (· ^^^ ·) data mask) mask = data := by
  induction data generalizing mask with
  | nil => rfl
  | cons byte data ih =>
    cases mask with
    | nil => cases h
    | cons m mask =>
      rw [List.zipWith_cons_cons, List.zipWith_cons_cons, ih (Nat.le_of_succ_le_succ h), UInt8.xor_assoc,
        UInt8.xor_self, UInt8.xor_zero]

/-- The keystream is applied chunk by chunk, and no chunk changes its length. -/
theorem chacha20XorChunks_twice (key nonce : Bytes) {chunks : Nat} (counter : UInt32) {data : Bytes}
    (h : data.length ≤ chunks) :
    (chacha20XorChunks key nonce chunks counter data).length = data.length ∧
      chacha20XorChunks key nonce chunks counter (chacha20XorChunks key nonce chunks counter data) = data := by
  induction chunks generalizing counter data with
  | zero =>
    obtain rfl := List.eq_nil_of_length_eq_zero (Nat.le_zero.mp h)
    exact ⟨rfl, rfl⟩
  | succ chunks ih =>
    by_cases hdata : data = []
    · subst hdata
      exact ⟨rfl, rfl⟩
    have hpos : 0 < data.length := List.length_pos_of_ne_nil hdata
    have hdrop : (data.drop 64).length ≤ chunks := by
      rw [length_drop]
      omega
    obtain ⟨hlength, htwice⟩ := ih (counter + 1) hdrop
    have htake : (data.take 64).length ≤ (chacha20Block key nonce counter).length := by
      exact List.length_take_le _ _
    rw [chacha20XorChunks, if_neg hdata]
    have hfirst : (zipWith (· ^^^ ·) (data.take 64) (chacha20Block key nonce counter)).length =
        (data.take 64).length := by
      rw [List.length_zipWith]
      omega
    have hcancel := zipWith_xor_cancel htake
    generalize zipWith (· ^^^ ·) (data.take 64) (chacha20Block key nonce counter) = first at hfirst hcancel ⊢
    generalize chacha20XorChunks key nonce chunks (counter + 1) (data.drop 64) = rest at hlength htwice ⊢
    rw [List.length_take] at hfirst
    rw [length_drop] at hlength
    -- a first chunk that is not full is the only one
    have hsplit : (first ++ rest).take 64 = first ∧ (first ++ rest).drop 64 = rest := by
      by_cases hfull : 64 ≤ data.length
      · exact ⟨take_left' (by omega), drop_left' (by omega)⟩
      · obtain rfl := List.eq_nil_of_length_eq_zero (by omega : rest.length = 0)
        rw [List.append_nil]
        exact ⟨List.take_of_length_le (by omega), List.drop_eq_nil_of_le (by omega)⟩
    refine ⟨by rw [length_append]; omega, ?_⟩
    have hne : first ++ rest ≠ [] := by
      intro hnil
      have hzero := congrArg List.length hnil
      rw [length_append, length_nil] at hzero
      omega
    rw [chacha20XorChunks, if_neg hne, hsplit.1, hsplit.2, hcancel, htwice, take_append_drop]

theorem length_chacha20Xor (key nonce data : Bytes) : (chacha20Xor key nonce data).length = data.length :=
  (chacha20XorChunks_twice key nonce 0 le_rfl).1

/-- **The keystream is involutive.** -/
theorem chacha20Xor_chacha20Xor (key nonce data : Bytes) :
    chacha20Xor key nonce (chacha20Xor key nonce data) = data := by
  have htwice := (chacha20XorChunks_twice key nonce 0 (le_refl data.length)).2
  rwa [chacha20Xor, length_chacha20Xor]

/-! ## Payloads -/

section Payloads

variable (sha256 : Bytes → Bytes32)

/-- The key of `hmac_sha256`, brought to the block length. -/
def hmacKey (key : Bytes) : Bytes :=
  let key := if 64 < key.length then (sha256 key).1 else key
  key ++ List.replicate (64 - key.length) 0

def hmacSha256 (key message : Bytes) : Bytes32 :=
  let normalized := hmacKey sha256 key
  let inner := sha256 (normalized.map (0x36 ^^^ ·) ++ message)
  sha256 (normalized.map (0x5c ^^^ ·) ++ inner.1)

/-- Three rounds of HMAC, cut to 76 bytes. -/
def hkdfExpand (key info : Bytes) : Bytes :=
  let first := (hmacSha256 sha256 key (info ++ [1])).1
  let second := (hmacSha256 sha256 key (first ++ info ++ [2])).1
  let third := (hmacSha256 sha256 key (second ++ info ++ [3])).1
  first ++ second ++ third.take 12

def messageKeys (conversationKey nonce : Bytes32) : Bytes := hkdfExpand sha256 conversationKey.1 nonce.1

/-- The keystream of the message keys `keys[..32]` and `keys[32..44]`. -/
def streamXor (keys data : Bytes) : Bytes := chacha20Xor (keys.take 32) ((keys.drop 32).take 12) data

/-- The MAC under `keys[44..]`. -/
def payloadMac (keys authenticated : Bytes) : Bytes32 := hmacSha256 sha256 (keys.drop 44) authenticated

def constantTimeEqual (left right : Bytes) : Bool :=
  left.length == right.length &&
    (left.zip right).foldl (fun difference pair => difference ||| (pair.1 ^^^ pair.2)) 0 == 0

/-- A text of ASCII symbols. -/
def asciiText (symbols : Bytes) : String := String.ofList (symbols.map fun symbol => Char.ofNat symbol.toNat)

/-- `String::from_utf8`. -/
def textOfBytes (bytes : Bytes) : Option String := String.fromUTF8? ⟨bytes.toArray⟩

def encrypt (plaintext : String) (conversationKey nonce : Bytes32) : Except String String := do
  if utf8 plaintext = [] ∨ maxClientPlaintextBytes < (utf8 plaintext).length then
    .error ("NIP-44 plaintext must contain 1 to " ++ toString maxClientPlaintextBytes ++ " bytes")
  else
    let keys := messageKeys sha256 conversationKey nonce
    let padded ← pad (utf8 plaintext)
    let ciphertext := streamXor keys padded
    let mac := payloadMac sha256 keys (nonce.1 ++ ciphertext)
    return asciiText (base64Encode ([2] ++ nonce.1 ++ ciphertext ++ mac.1))

def minPayloadChars : Nat := 132

def encodedMaximum (maximumPlaintext : Nat) : Nat := (65 + 6 + nextPowerOfTwo maximumPlaintext + 2) / 3 * 4

/-- `decrypt` behind base64: version, MAC, keystream, padding and text. -/
def decryptDecoded (decoded : Bytes) (conversationKey : Bytes32) : Except String String :=
  if decoded.length < 99 then .error "NIP-44 decoded payload is too short"
  else if decoded.headD 0 ≠ 2 then
    .error ("NIP-44 version " ++ toString (decoded.headD 0) ++ " is unsupported")
  else
    match Bytes32.ofBytes ((decoded.drop 1).take 32) with
    | none => .error "NIP-44 nonce has the wrong length"
    | some nonce =>
      let ciphertextEnd := decoded.length - 32
      let ciphertext := (decoded.take ciphertextEnd).drop 33
      let keys := messageKeys sha256 conversationKey nonce
      let expectedMac := payloadMac sha256 keys ((decoded.take ciphertextEnd).drop 1)
      if constantTimeEqual (decoded.drop ciphertextEnd) expectedMac.1 = false then
        .error "NIP-44 payload MAC is invalid"
      else do
        let plaintext ← unpad (streamXor keys ciphertext)
        match textOfBytes plaintext with
        | none => .error "NIP-44 plaintext is not valid UTF-8"
        | some text => .ok text

def decrypt (payload : String) (conversationKey : Bytes32) : Except String String := do
  let bytes := utf8 payload
  if bytes.head? = some 35 then .error "NIP-44 payload encoding is unsupported"
  else if bytes.length < minPayloadChars ∨ encodedMaximum maxClientPlaintextBytes < bytes.length then
    .error "NIP-44 payload size is outside the client bound"
  else
    let decoded ← base64Decode bytes
    decryptDecoded sha256 decoded conversationKey

end Payloads

section RoundTrip

theorem constantTimeEqual_self : constantTimeEqual bytes bytes = true := by
  have hfold : (bytes.zip bytes).foldl (fun difference pair => difference ||| (pair.1 ^^^ pair.2)) 0 = 0 := by
    induction bytes with
    | nil => rfl
    | cons byte bytes ih => simpa using ih
  simp [constantTimeEqual, hfold]

theorem textOfBytes_utf8 (text : String) : textOfBytes (utf8 text) = some text := by
  have hbytes : (⟨(utf8 text).toArray⟩ : ByteArray) = text.toByteArray := rfl
  rw [textOfBytes, hbytes, String.fromUTF8?, dif_pos text.isValidUTF8]
  rfl

/-- ASCII symbols are their own bytes. -/
theorem utf8_asciiText {symbols : Bytes} (h : ∀ symbol ∈ symbols, symbol < 128) :
    utf8 (asciiText symbols) = symbols := by
  have hsymbol : ∀ n < 128, String.utf8EncodeChar (Char.ofNat n) = [UInt8.ofNat n] := by decide +kernel
  have hencode : utf8 (asciiText symbols) =
      symbols.flatMap fun symbol => String.utf8EncodeChar (Char.ofNat symbol.toNat) := by
    simp [utf8, asciiText, List.utf8Encode, List.flatMap_map]
  rw [hencode]
  clear hencode
  induction symbols with
  | nil => rfl
  | cons symbol symbols ih =>
    obtain ⟨hfirst, hrest⟩ := List.forall_mem_cons.mp h
    rw [List.flatMap_cons, ih hrest, hsymbol _ (UInt8.lt_iff_toNat_lt.mp hfirst), UInt8.ofNat_toNat]
    rfl

theorem base64Encode_ascii : ∀ symbol ∈ base64Encode bytes, symbol < 128 := by
  have hpad : padSymbol < 128 := by decide
  have hsymbol : ∀ {index : UInt8}, index < 64 → base64Symbol index < 128 := fun h => (base64Symbol_spec h).2.2
  have hchunk : ∀ first second third length, ∀ symbol ∈ base64Chunk first second third length, symbol < 128 := by
    intro first second third length symbol hmem
    simp only [base64Chunk, List.mem_cons, List.not_mem_nil, or_false] at hmem
    rcases hmem with rfl | rfl | rfl | rfl
    · exact hsymbol (groupA_lt _)
    · exact hsymbol (groupB_lt _ _)
    · split
      · exact hsymbol (groupC_lt _ _)
      · exact hpad
    · split
      · exact hsymbol (groupD_lt _)
      · exact hpad
  fun_induction base64Encode bytes with
  | case1 => simp
  | case2 first => exact hchunk first 0 0 1
  | case3 first second => exact hchunk first second 0 2
  | case4 first second third rest ih =>
    intro symbol hmem
    rcases List.mem_append.mp hmem with hmem | hmem
    · exact hchunk first second third 3 symbol hmem
    · exact ih symbol hmem

variable (sha256 : Bytes → Bytes32)

/-- Behind base64, `decrypt` takes apart what `encrypt` put together. -/
theorem decryptDecoded_encrypted {plaintext : String} (conversationKey nonce : Bytes32)
    (hpad : pad (utf8 plaintext) = .ok padded) (hlength : 34 ≤ padded.length) :
    decryptDecoded sha256
      ([2] ++ nonce.1 ++ streamXor (messageKeys sha256 conversationKey nonce) padded ++
        (payloadMac sha256 (messageKeys sha256 conversationKey nonce)
          (nonce.1 ++ streamXor (messageKeys sha256 conversationKey nonce) padded)).1) conversationKey =
      .ok plaintext := by
  have hstream : (streamXor (messageKeys sha256 conversationKey nonce) padded).length = padded.length :=
    length_chacha20Xor _ _ _
  have hundo : streamXor (messageKeys sha256 conversationKey nonce)
      (streamXor (messageKeys sha256 conversationKey nonce) padded) = padded := chacha20Xor_chacha20Xor _ _ _
  generalize hciphertext : streamXor (messageKeys sha256 conversationKey nonce) padded = ciphertext at hstream hundo ⊢
  generalize hmac : payloadMac sha256 (messageKeys sha256 conversationKey nonce) (nonce.1 ++ ciphertext) = mac
  have hhead : ([2] ++ nonce.1 ++ ciphertext).length = 33 + ciphertext.length := by
    rw [length_append, length_append, nonce.2]
    rfl
  have htotal : ([2] ++ nonce.1 ++ ciphertext ++ mac.1).length = 33 + ciphertext.length + 32 := by
    rw [length_append, hhead, mac.2]
  have hend : ([2] ++ nonce.1 ++ ciphertext ++ mac.1).length - 32 = ([2] ++ nonce.1 ++ ciphertext).length := by
    rw [htotal, hhead, Nat.add_sub_cancel]
  have hnonce : Bytes32.ofBytes ((([2] ++ nonce.1 ++ ciphertext ++ mac.1).drop 1).take 32) = some nonce := by
    rw [Bytes32.ofBytes_eq_some]
    show nonce.1 = (nonce.1 ++ ciphertext ++ mac.1).take 32
    rw [append_assoc, take_left' nonce.2]
  have hbody : ([2] ++ nonce.1 ++ ciphertext).drop 33 = ciphertext := drop_left' (by simp [nonce.2])
  have hauthenticated : ([2] ++ nonce.1 ++ ciphertext).drop 1 = nonce.1 ++ ciphertext := rfl
  have hversion : ([2] ++ nonce.1 ++ ciphertext ++ mac.1).headD 0 = 2 := rfl
  unfold decryptDecoded
  rw [if_neg (by omega), hnonce]
  simp only [hend, List.take_left, List.drop_left, hbody, hauthenticated, hmac, constantTimeEqual_self, hundo,
    unpad_of_pad hpad]
  show (match textOfBytes (utf8 plaintext) with | none => _ | some text => _) = _
  rw [textOfBytes_utf8]

theorem head_base64Encode (byte : UInt8) (bytes : Bytes) :
    (base64Encode (byte :: bytes)).head? = some (base64Symbol (groupA byte)) := by
  cases bytes with
  | nil => rfl
  | cons second bytes =>
    cases bytes with
    | nil => rfl
    | cons third bytes => rfl

theorem encodedMaximum_client : encodedMaximum maxClientPlaintextBytes = 349620 := by
  have hpower : nextPowerOfTwo maxClientPlaintextBytes = 262144 := by
    have hlog : Nat.clog 2 maxClientPlaintextBytes = 18 := Nat.clog_pow 2 18 (by decide)
    exact congrArg (2 ^ ·) hlog
  rw [encodedMaximum, hpower]

theorem length_lengthPrefix (length : Nat) : (lengthPrefix length).length = 2 ∨ (lengthPrefix length).length = 6 := by
  unfold lengthPrefix
  split
  · exact .inr rfl
  · exact .inl (length_beBytes _ _)

/-- A plaintext within the bound is encrypted to a payload within the bounds of `decrypt`, which returns it. -/
theorem encrypt_within {plaintext : String} (conversationKey nonce : Bytes32)
    (hpos : 1 ≤ (utf8 plaintext).length) (hmax : (utf8 plaintext).length ≤ maxClientPlaintextBytes) :
    ∃ payload padded, pad (utf8 plaintext) = .ok padded ∧
      (utf8 payload).length = (65 + padded.length + 2) / 3 * 4 ∧
      encrypt sha256 plaintext conversationKey nonce = .ok payload ∧
      decrypt sha256 payload conversationKey = .ok plaintext ∧ (utf8 payload).head? ≠ some 35 ∧
      minPayloadChars ≤ (utf8 payload).length ∧
      (utf8 payload).length ≤ encodedMaximum maxClientPlaintextBytes := by
  have hmaximum : maxClientPlaintextBytes = 262144 := rfl
  obtain ⟨total, htotal, hfits, hlow, hhigh⟩ := paddedLength_spec (by omega) hmax
  have hpad := pad_eq_ok.mpr ⟨total, htotal, rfl⟩
  have hpadded : ∀ padded, pad (utf8 plaintext) = .ok padded → 34 ≤ padded.length ∧ padded.length ≤ 6 + 262144 := by
    intro padded h
    rw [hpad, Except.ok.injEq] at h
    subst h
    rw [length_append, length_append, List.length_replicate]
    rcases length_lengthPrefix (utf8 plaintext).length with h | h <;> omega
  generalize lengthPrefix (utf8 plaintext).length ++
    (utf8 plaintext ++ replicate (total - (utf8 plaintext).length) 0) = padded at hpad
  obtain ⟨hpaddedLow, hpaddedHigh⟩ := hpadded padded hpad
  have hdecrypted := decryptDecoded_encrypted sha256 conversationKey nonce hpad hpaddedLow
  generalize hkeys : messageKeys sha256 conversationKey nonce = keys at hdecrypted
  have hstream : (streamXor keys padded).length = padded.length := length_chacha20Xor _ _ _
  generalize hdecoded : [2] ++ nonce.1 ++ streamXor keys padded ++
    (payloadMac sha256 keys (nonce.1 ++ streamXor keys padded)).1 = decoded at hdecrypted
  have hlength : decoded.length = 65 + padded.length := by
    rw [← hdecoded]
    simp only [length_append, List.length_cons, length_nil, (payloadMac _ _ _).2]
    omega
  have hbytes : utf8 (asciiText (base64Encode decoded)) = base64Encode decoded :=
    utf8_asciiText (base64Encode_ascii decoded)
  have hchars := length_base64Encode decoded
  have hhead : (base64Encode decoded).head? ≠ some 35 := by
    rw [← hdecoded, append_assoc, append_assoc, List.singleton_append, head_base64Encode]
    decide
  have hbounds : minPayloadChars ≤ (base64Encode decoded).length ∧
      (base64Encode decoded).length ≤ encodedMaximum maxClientPlaintextBytes := by
    rw [encodedMaximum_client, minPayloadChars]
    omega
  refine ⟨asciiText (base64Encode decoded), padded, hpad, by rw [hbytes, hchars, hlength], ?_, ?_, ?_⟩
  · unfold encrypt
    rw [if_neg (by rw [← List.length_eq_zero_iff]; omega), hkeys, hpad, ← hdecoded]
    rfl
  · unfold decrypt
    rw [hbytes, if_neg hhead, if_neg (by omega), base64Decode_encode]
    exact hdecrypted
  · rw [hbytes]
    exact ⟨hhead, hbounds⟩

/-- Whatever `encrypt` returned is decrypted. -/
theorem decrypt_encrypted {plaintext payload : String} {conversationKey nonce : Bytes32}
    (h : encrypt sha256 plaintext conversationKey nonce = .ok payload) :
    decrypt sha256 payload conversationKey = .ok plaintext := by
  have hbound : ¬ (utf8 plaintext = [] ∨ maxClientPlaintextBytes < (utf8 plaintext).length) := by
    intro hbound
    rw [encrypt, if_pos hbound] at h
    cases h
  push Not at hbound
  obtain ⟨payload', -, -, -, hpayload, hdecrypt, -⟩ := encrypt_within sha256 conversationKey nonce
    (List.length_pos_of_ne_nil hbound.1) hbound.2
  rw [h, Except.ok.injEq] at hpayload
  rw [hpayload]
  exact hdecrypt

/-- **NIP-44 round trip.** Every plaintext within the bound is encrypted to a payload within the bounds of `decrypt`,
    which returns the plaintext; and padding accepts exactly what it writes. -/
theorem nip44_round_trip (plaintext : String) (conversationKey nonce : Bytes32)
    (hpos : 1 ≤ (utf8 plaintext).length) (hmax : (utf8 plaintext).length ≤ 262144) :
    (∃ payload, encrypt sha256 plaintext conversationKey nonce = .ok payload ∧
      decrypt sha256 payload conversationKey = .ok plaintext ∧ (utf8 payload).head? ≠ some 35 ∧
      minPayloadChars ≤ (utf8 payload).length ∧
      (utf8 payload).length ≤ encodedMaximum maxClientPlaintextBytes) ∧
    ∀ padded value, unpad padded = .ok value ↔ pad value = .ok padded := by
  obtain ⟨payload, -, -, -, hpayload⟩ := encrypt_within sha256 conversationKey nonce hpos hmax
  exact ⟨⟨payload, hpayload⟩, fun _ _ => ⟨pad_of_unpad, unpad_of_pad⟩⟩

/-! ### The pinned vector -/

/-- The digests that an HMAC under a short key takes. -/
def vectorMac (key message : Bytes) (inner outer : Nat) : List (Bytes × Nat) :=
  let normalized := key ++ List.replicate (64 - key.length) 0
  [(normalized.map (0x36 ^^^ ·) ++ message, inner), (normalized.map (0x5c ^^^ ·) ++ beBytes inner 32, outer)]

def vectorKey : Bytes32 :=
  ⟨beBytes 0xc41c775356fd92eadc63ff5a0dc1da211b268cbea22316767095b2871ea1412d 32, length_beBytes _ _⟩

def vectorNonce : Bytes32 := ⟨beBytes 1 32, length_beBytes _ _⟩

/-- The three rounds of HKDF. -/
def vectorFirst : Nat := 0x63e64ca552c6a0664d4f6402c033fd698f43d531520e177d7c5c84357feafd1a

def vectorSecond : Nat := 0x1f58294fc1d270dc407146cab3bd1176db3c377f82fd03162d0f3a9a323cace3

def vectorThird : Nat := 0x9fb89970b9f32395476e1a08c1c995b505a924a3ffbd046f4c52ee91cac8704d

def vectorCiphertext : Bytes :=
  beBytes 0x79ed06e5548ad3ff58ca920e6c0b4329f6040230f7e6e5641f20741780f0adc35a09 34

/-- `sha2` on what the vector hashes. -/
def vectorSha256 (message : Bytes) : Bytes32 :=
  ⟨beBytes ((List.lookup message
    (vectorMac vectorKey.1 (vectorNonce.1 ++ [1])
        0x1573fd2124afc22c6dde1eeb41e71d3c146e95ce63631c953fa0d154bc2220ab vectorFirst ++
      vectorMac vectorKey.1 (beBytes vectorFirst 32 ++ vectorNonce.1 ++ [2])
        0xeafdb9297aaca5c0ca9be43efc436df2c9778484e415dc427710df902dc7bed4 vectorSecond ++
      vectorMac vectorKey.1 (beBytes vectorSecond 32 ++ vectorNonce.1 ++ [3])
        0x4c24d23943b6bf212b6effc035d9742393ae498f8330505a75100b780e216c86 vectorThird ++
      vectorMac ((beBytes vectorSecond 32).drop 12 ++ (beBytes vectorThird 32).take 12)
        (vectorNonce.1 ++ vectorCiphertext)
        0xf08595197af5dab087df1bed71a9c01945107bf8b8234497d9aa1c8751855be0
        0x794259929a02bb06ad8e8cf709ee4ccc567e9d514cdf5781af27a3e905e55b1b)).getD 0)
    32, length_beBytes _ _⟩

/-- The payload that the repository pins for the plaintext `a`. -/
example : encrypt vectorSha256 "a" vectorKey vectorNonce =
    .ok ("AgAAAAAAAAAAAAAAAAAAAAAAAAAAAAAAAAAAAAAAAAABee0G5VSK0/9YypIObAtDKfYEAjD35uVkHyB0F4DwrcNa" ++
      "CXlCWZKaArsGrY6M9wnuTMxWfp1RTN9Xga8no+kF5Vsb") := by
  decide +kernel

theorem nip44_round_trip_vector :
    (∃ payload, encrypt vectorSha256 "a" vectorKey vectorNonce = .ok payload ∧
      decrypt vectorSha256 payload vectorKey = .ok "a" ∧ (utf8 payload).head? ≠ some 35 ∧
      minPayloadChars ≤ (utf8 payload).length ∧
      (utf8 payload).length ≤ encodedMaximum maxClientPlaintextBytes) ∧
    ∀ padded value, unpad padded = .ok value ↔ pad value = .ok padded :=
  nip44_round_trip vectorSha256 "a" vectorKey vectorNonce (by decide +kernel) (by decide +kernel)

end RoundTrip

end Immortal.Market
