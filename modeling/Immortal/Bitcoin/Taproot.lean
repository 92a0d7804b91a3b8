import Immortal.Bitcoin.Script

/-!
# `Immortal.Bitcoin.Taproot` — Taproot trees, control blocks and MuSig2 aggregation

`immortal-core`'s `mkt_swp_verify` derives Taproot output keys and checks control blocks on top of two
third-party crates, `sha2` and `secp256k1`. They are the fields of `Crypto`; everything the repository
itself computes (tagged hashes, compact sizes, sorted branches, the tweak, key aggregation) is defined here
from them.

A hash into 32 bytes is not injective, so what the proofs assume is stated over a set `known` of messages
that have been hashed: no two of them collide, and no two Taproot commitments among them give one output
key (`Crypto.Binding`). `Crypto.Binding.pathRoot_eq_branch` is what follows from it: a path that ends in the
root of a two-leaf tree starts at one of its two leaves. For a finite list of messages the assumption is
decidable (`Crypto.Binding.of_list`).
-/

namespace Immortal.Bitcoin

open List

/-- `[u8; 33]`, a compressed public key. -/
abbrev Bytes33 := { bytes : Bytes // bytes.length = 33 }

inductive Parity where
  | even
  | odd
deriving DecidableEq, Repr

/-- The functions of `sha2` and `secp256k1` the verifier calls. A public key is its compressed
    serialization, an x-only key and a scalar are 32 bytes. -/
structure Crypto where
  /-- `Sha256::digest`. -/
  sha256 : Bytes → Bytes32
  /-- `XOnlyPublicKey::from_byte_array` accepts. -/
  isXOnly : Bytes32 → Bool
  /-- `PublicKey::from_slice`. -/
  publicKey : Bytes → Option Bytes33
  /-- `XOnlyPublicKey::add_tweak`. -/
  addTweak : Bytes32 → Bytes32 → Option (Bytes32 × Parity)
  /-- `PublicKey::mul_tweak`. -/
  mulTweak : Bytes33 → Bytes32 → Option Bytes33
  /-- `PublicKey::combine_keys`. -/
  combineKeys : List Bytes33 → Option Bytes33

/-! ## Commitments -/

/-- `tag.as_bytes()`. -/
def tagBytes (tag : String) : Bytes := tag.toUTF8.data.toList

section Commitments

variable (c : Crypto)

/-- What `tagged_hash` feeds to the hash. -/
def taggedMessage (tag : String) (message : Bytes) : Bytes :=
  (c.sha256 (tagBytes tag)).1 ++ (c.sha256 (tagBytes tag)).1 ++ message

def taggedHash (tag : String) (message : Bytes) : Bytes32 := c.sha256 (taggedMessage c tag message)

/-- `to_le_bytes`, `count` of them. -/
def leBytes (value : Nat) : Nat → Bytes
  | 0 => []
  | count + 1 => UInt8.ofNat (value % 256) :: leBytes (value / 256) count

/-- `write_compact_size`. -/
def compactSize (value : Nat) : Bytes :=
  if value < 0xfd then [UInt8.ofNat value]
  else if value ≤ 0xffff then 0xfd :: leBytes value 2
  else if value ≤ 0xffffffff then 0xfe :: leBytes value 4
  else 0xff :: leBytes value 8

/-- The TapLeaf message of a script under a leaf version. -/
def leafMessage (leafVersion : UInt8) (script : Bytes) : Bytes :=
  taggedMessage c "TapLeaf" (leafVersion :: (compactSize script.length ++ script))

def tapleafHash (leafVersion : UInt8) (script : Bytes) : Verified Bytes32 :=
  if leafVersion &&& 1 ≠ 0 ∨ maxScriptBytes < script.length then
    .error (.invalid "tapleaf version or script length")
  else .ok (c.sha256 (leafMessage c leafVersion script))

/-- The TapBranch message of two children, the smaller one first. -/
def branchMessage (left right : Bytes32) : Bytes :=
  taggedMessage c "TapBranch" (if left.1 ≤ right.1 then left.1 ++ right.1 else right.1 ++ left.1)

def tapbranchHash (left right : Bytes32) : Bytes32 := c.sha256 (branchMessage c left right)

/-- The TapTweak message of an internal key and a Merkle root. -/
def tweakMessage (internalKey root : Bytes32) : Bytes := taggedMessage c "TapTweak" (internalKey.1 ++ root.1)

/-- The value of a big-endian byte string. -/
def bigEndian (bytes : Bytes) : Nat := littleEndian bytes.reverse

/-- `CURVE_ORDER`. -/
def curveOrder : Nat := 0xfffffffffffffffffffffffffffffffebaaedce6af48a03bbfd25e8cd0364141

/-- `Scalar::from_be_bytes`. -/
def scalarOf (bytes : Bytes32) : Option Bytes32 := if bigEndian bytes.1 < curveOrder then some bytes else none

/-- `taproot_output_key` with a script tree. -/
def taprootOutputKey (internalKey root : Bytes32) : Verified (Bytes32 × Parity) :=
  match scalarOf (c.sha256 (tweakMessage c internalKey root)) with
  | none => .error (.crypto "taproot tweak exceeds curve order")
  | some tweak =>
    match c.addTweak internalKey tweak with
    | none => .error (.crypto "taproot output key tweak failed")
    | some output => .ok output

/-- `chunks_exact(32)`. -/
def siblings : Nat → Bytes → List Bytes32
  | 0, _ => []
  | count + 1, bytes =>
    match Bytes32.ofBytes (bytes.take 32) with
    | some sibling => sibling :: siblings count (bytes.drop 32)
    | none => []

/-- The leaf version bits of a control block. -/
def controlLeafVersion (controlBlock : Bytes) : UInt8 := controlBlock.headD 0 &&& 0xfe

/-- The output parity a control block claims. -/
def controlParity (controlBlock : Bytes) : Parity :=
  if controlBlock.headD 0 &&& 1 = 0 then .even else .odd

/-- The siblings a control block lists after its internal key. -/
def controlPath (controlBlock : Bytes) : List Bytes32 :=
  siblings ((controlBlock.length - 33) / 32) (controlBlock.drop 33)

/-- The Merkle root a leaf hash and the siblings on its path lead to. -/
def pathRoot (leaf : Bytes32) (path : List Bytes32) : Bytes32 := path.foldl (tapbranchHash c) leaf

def verifyControlBlock (outputKey : Bytes32) (script controlBlock : Bytes) : Verified Unit :=
  if controlBlock.length < 33 ∨ 33 + 32 * 128 < controlBlock.length ∨ (controlBlock.length - 33) % 32 ≠ 0 then
    .error (.encoding "taproot control block length")
  else if controlLeafVersion controlBlock = 0x50 then
    .error (.invalid "taproot annex leaf version")
  else
    match Bytes32.ofBytes ((controlBlock.drop 1).take 32) with
    | none => .error (.encoding "taproot internal key length")
    | some internalKey =>
      if c.isXOnly internalKey = false then .error (.crypto "taproot internal key")
      else do
        let leaf ← tapleafHash c (controlLeafVersion controlBlock) script
        let (candidate, parity) ← taprootOutputKey c internalKey (pathRoot c leaf (controlPath controlBlock))
        if candidate ≠ outputKey ∨ parity ≠ controlParity controlBlock then
          .error (.invalid "taproot control block commitment")
        else .ok ()

end Commitments

/-! ## Aggregation -/

section Aggregation

variable (c : Crypto)

theorem leBytes_length (value count : Nat) : (leBytes value count).length = count := by
  induction count generalizing value with
  | zero => rfl
  | succ count ih => simp [leBytes, ih]

/-- `scalar_bytes_from_hash`: a hash at or above the curve order is reduced by it once. -/
def scalarBytesFromHash (hash : Bytes32) : Bytes32 :=
  if curveOrder ≤ bigEndian hash.1 then
    ⟨(leBytes (bigEndian hash.1 - curveOrder) 32).reverse, by rw [List.length_reverse, leBytes_length]⟩
  else hash

/-- `Scalar::ONE`. -/
def scalarOne : Bytes32 := ⟨List.replicate 31 0 ++ [1], rfl⟩

theorem length_zeroKey : (replicate 33 (0 : UInt8)).length = 33 := rfl

/-- `musig2_key_material`'s second key: the first one that differs from the head, or zeros. -/
def musig2SecondKey (keys : List Bytes33) : Bytes33 :=
  (keys.find? fun key => keys.head? ≠ some key).getD ⟨List.replicate 33 0, rfl⟩

def musig2KeyCoefficient (key : Bytes33) (listHash : Bytes32) (secondKey : Bytes33) : Verified Bytes32 :=
  if key = secondKey then .ok scalarOne
  else
    match scalarOf (scalarBytesFromHash (taggedHash c "KeyAgg coefficient" (listHash.1 ++ key.1))) with
    | some scalar => .ok scalar
    | none => .error (.crypto "scalar exceeds curve order")

/-- The loop of `musig2_aggregate_plain_key`: each key times its coefficient. -/
def musig2Weighted (listHash : Bytes32) (secondKey : Bytes33) : List Bytes33 → Verified (List Bytes33)
  | [] => .ok []
  | key :: keys => do
    let coefficient ← musig2KeyCoefficient c key listHash secondKey
    match c.mulTweak key coefficient with
    | none => .error (.crypto "MuSig2 key coefficient")
    | some weighted =>
      let rest ← musig2Weighted listHash secondKey keys
      return weighted :: rest

def musig2AggregatePlainKey (keys : List Bytes33) : Verified Bytes33 := do
  let listHash := taggedHash c "KeyAgg list" (keys.flatMap (·.1))
  let weighted ← musig2Weighted c listHash (musig2SecondKey keys) keys
  match c.combineKeys weighted with
  | some key => .ok key
  | none => .error (.crypto "MuSig2 aggregate key")

/-- `x_only_public_key().0`: a compressed key without its parity byte. -/
def xOnly (key : Bytes33) : Bytes32 := ⟨key.1.drop 1, by rw [List.length_drop, key.2]⟩

def maxMusigKeys : Nat := 64

def musig2AggregateKey (keys : List Bytes33) : Verified Bytes32 := do
  if keys = [] ∨ maxMusigKeys < keys.length then .error (.bounds "MuSig2 participant count")
  else
    let key ← musig2AggregatePlainKey c keys
    return xOnly key

end Aggregation

/-! ## Binding -/

section Binding

variable {c : Crypto} {known : Set Bytes}

/-- The messages in `known` are free of collisions, and so are the Taproot commitments among them: the
    documented strength of SHA-256 and of BIP-341's output keys, for the messages anybody has hashed. -/
structure Crypto.Binding (c : Crypto) (known : Set Bytes) : Prop where
  sha256_injOn : Set.InjOn c.sha256 known
  outputKey_inj : ∀ {key root key' root' output : Bytes32} {parity parity' : Parity},
    tweakMessage c key root ∈ known → tweakMessage c key' root' ∈ known →
    taprootOutputKey c key root = .ok (output, parity) → taprootOutputKey c key' root' = .ok (output, parity') →
    key = key' ∧ root = root'
  leaf_tag : tagBytes "TapLeaf" ∈ known
  branch_tag : tagBytes "TapBranch" ∈ known

/-- The internal key and the root a TapTweak message commits to. -/
def tweakParts (message : Bytes) : Option (Bytes32 × Bytes32) := do
  let key ← Bytes32.ofBytes ((message.drop 64).take 32)
  let root ← Bytes32.ofBytes (message.drop 96)
  return (key, root)

theorem tweakParts_tweakMessage (key root : Bytes32) : tweakParts (tweakMessage c key root) = some (key, root) := by
  have htag := (c.sha256 (tagBytes "TapTweak")).2
  have hkey : (tweakMessage c key root).drop 64 = key.1 ++ root.1 := by
    rw [tweakMessage, taggedMessage, drop_left' (by rw [length_append, htag])]
  have hroot : (tweakMessage c key root).drop 96 = root.1 := by
    rw [show 96 = 64 + 32 from rfl, ← drop_drop, hkey, drop_left' key.2]
  rw [tweakParts, hkey, hroot, take_left' key.2, Bytes32.ofBytes_eq_some.mpr rfl, Bytes32.ofBytes_eq_some.mpr rfl]
  rfl

/-- The output key of a commitment, without its parity. -/
def outputKeyOf (c : Crypto) (parts : Bytes32 × Bytes32) : Option Bytes32 :=
  (taprootOutputKey c parts.1 parts.2).toOption.map (·.1)

/-- A list of messages binds when their digests differ and so do the output keys of its commitments. -/
theorem Crypto.Binding.of_list {messages : List Bytes} (hdigests : (messages.map c.sha256).Nodup)
    (houtputs : ∀ parts ∈ messages.filterMap tweakParts, ∀ parts' ∈ messages.filterMap tweakParts,
      (outputKeyOf c parts).isSome → outputKeyOf c parts = outputKeyOf c parts' → parts = parts')
    (hleaf : tagBytes "TapLeaf" ∈ messages) (hbranch : tagBytes "TapBranch" ∈ messages) :
    c.Binding { m | m ∈ messages } where
  sha256_injOn := fun _ hm _ hm' h => inj_on_of_nodup_map hdigests hm hm' h
  outputKey_inj := by
    intro key root key' root' output parity parity' hmem hmem' h h'
    have hparts : (key, root) = (key', root') := by
      apply houtputs _ (mem_filterMap.mpr ⟨_, hmem, tweakParts_tweakMessage key root⟩) _
        (mem_filterMap.mpr ⟨_, hmem', tweakParts_tweakMessage key' root'⟩)
      · simp [outputKeyOf, h, Except.toOption]
      · simp [outputKeyOf, h, h', Except.toOption]
    exact Prod.ext_iff.mp hparts
  leaf_tag := hleaf
  branch_tag := hbranch

/-- A tagged message starts with the hash of its tag. -/
theorem taggedMessage_tag {tag tag' : String} {message message' : Bytes}
    (h : taggedMessage c tag message = taggedMessage c tag' message') :
    c.sha256 (tagBytes tag) = c.sha256 (tagBytes tag') := by
  have htake := congrArg (take 32) h
  simp only [taggedMessage, append_assoc] at htake
  rw [take_left' (c.sha256 (tagBytes tag)).2, take_left' (c.sha256 (tagBytes tag')).2] at htake
  exact Subtype.ext htake

/-- Children of a branch are ordered, so a branch does not say which child came first. -/
theorem branchMessage_comm (left right : Bytes32) : branchMessage c left right = branchMessage c right left := by
  unfold branchMessage
  by_cases hlr : left.1 ≤ right.1
  · by_cases hrl : right.1 ≤ left.1
    · rw [List.le_antisymm hlr hrl]
    · rw [if_pos hlr, if_neg hrl]
  · have hrl : right.1 ≤ left.1 := (List.le_total right.1 left.1).resolve_right hlr
    rw [if_neg hlr, if_pos hrl]

theorem tapbranchHash_comm (left right : Bytes32) : tapbranchHash c left right = tapbranchHash c right left := by
  rw [tapbranchHash, branchMessage_comm, ← tapbranchHash]

/-- A branch message determines its two children up to order. -/
theorem branchMessage_inj {left right left' right' : Bytes32}
    (h : branchMessage c left right = branchMessage c left' right') :
    (left = left' ∧ right = right') ∨ (left = right' ∧ right = left') := by
  have hsplit : ∀ {a b a' b' : Bytes32}, a.1 ++ b.1 = a'.1 ++ b'.1 → a = a' ∧ b = b' := by
    intro a b a' b' heq
    have hab := append_inj heq (by rw [a.2, a'.2])
    exact ⟨Subtype.ext hab.1, Subtype.ext hab.2⟩
  have hmessage := append_cancel_left h
  split at hmessage
  · split at hmessage
    · exact .inl (hsplit hmessage)
    · exact .inr (hsplit hmessage)
  · split at hmessage
    · exact .inr (hsplit hmessage).symm
    · exact .inl (hsplit hmessage).symm

variable {script : Bytes}

/-- Two scripts behind their own lengths: the first length byte already tells the encoding used, so the
    lengths agree. -/
theorem compactSize_append_inj {script' : Bytes} (hlength : script.length ≤ maxScriptBytes)
    (hlength' : script'.length ≤ maxScriptBytes)
    (h : compactSize script.length ++ script = compactSize script'.length ++ script') : script = script' := by
  have hbound : maxScriptBytes = 10000 := rfl
  have htotal := congrArg length h
  have hhead := congrArg head? h
  unfold compactSize at h htotal hhead
  have hsmall : ∀ n < 0xfd, UInt8.ofNat n ≠ 0xfd := by
    intro n hn heq
    have hvalue : (UInt8.ofNat n).toNat = 253 := congrArg UInt8.toNat heq
    have hn' : (UInt8.ofNat n).toNat = n := UInt8.toNat_ofNat_of_lt (by show n < 256; omega)
    omega
  by_cases hs : script.length < 0xfd <;> by_cases hs' : script'.length < 0xfd
  · simp only [hs, hs', if_true, cons_append, cons.injEq] at h
    exact h.2
  · rw [if_pos hs, if_neg hs', if_pos (by omega)] at hhead
    simp only [cons_append, head?_cons, Option.some.injEq] at hhead
    exact absurd hhead (hsmall _ hs)
  · rw [if_pos hs', if_neg hs, if_pos (by omega)] at hhead
    simp only [cons_append, head?_cons, Option.some.injEq] at hhead
    exact absurd hhead.symm (hsmall _ hs')
  · rw [if_neg hs, if_neg hs', if_pos (by omega), if_pos (by omega)] at h
    simp only [cons_append, cons.injEq, true_and] at h
    exact (append_inj h (by rw [leBytes_length, leBytes_length])).2

variable {leafVersion : UInt8}

theorem leafMessage_inj {leafVersion' : UInt8} {script' : Bytes}
    (hlength : script.length ≤ maxScriptBytes) (hlength' : script'.length ≤ maxScriptBytes)
    (h : leafMessage c leafVersion script = leafMessage c leafVersion' script') :
    leafVersion = leafVersion' ∧ script = script' := by
  have hmessage := append_cancel_left h
  simp only [cons.injEq] at hmessage
  exact ⟨hmessage.1, compactSize_append_inj hlength hlength' hmessage.2⟩

/-- No leaf hash is a branch hash: the two tags separate them. -/
theorem Crypto.Binding.leaf_ne_branch (hb : c.Binding known)
    {left right : Bytes32} (hleaf : leafMessage c leafVersion script ∈ known)
    (hbranch : branchMessage c left right ∈ known) :
    c.sha256 (leafMessage c leafVersion script) ≠ tapbranchHash c left right := by
  intro h
  have hmessage := hb.sha256_injOn hleaf hbranch h
  have htags := hb.sha256_injOn hb.leaf_tag hb.branch_tag (taggedMessage_tag hmessage)
  exact absurd htags (by decide)

/-- The TapBranch messages hashed on the way from a leaf hash to its root. -/
def branchMessages (c : Crypto) (leaf : Bytes32) : List Bytes32 → List Bytes
  | [] => []
  | sibling :: path => branchMessage c leaf sibling :: branchMessages c (tapbranchHash c leaf sibling) path

theorem branchMessages_append (leaf : Bytes32) (path path' : List Bytes32) :
    branchMessages c leaf (path ++ path') =
      branchMessages c leaf path ++ branchMessages c (pathRoot c leaf path) path' := by
  induction path generalizing leaf with
  | nil => rfl
  | cons sibling path ih => simp [branchMessages, pathRoot, ih]

/-- **Only the two children open a branch.** A path from a leaf whose root is the branch of two leaf hashes
    has length one: the leaf is one of the two and its sibling the other. -/
theorem Crypto.Binding.pathRoot_eq_branch (hb : c.Binding known) {versionA versionB : UInt8}
    {scriptA scriptB : Bytes} {path : List Bytes32}
    (hleaf : leafMessage c leafVersion script ∈ known) (hA : leafMessage c versionA scriptA ∈ known)
    (hB : leafMessage c versionB scriptB ∈ known)
    (hbranch : branchMessage c (c.sha256 (leafMessage c versionA scriptA))
      (c.sha256 (leafMessage c versionB scriptB)) ∈ known)
    (hpath : ∀ m ∈ branchMessages c (c.sha256 (leafMessage c leafVersion script)) path, m ∈ known)
    (hroot : pathRoot c (c.sha256 (leafMessage c leafVersion script)) path =
      tapbranchHash c (c.sha256 (leafMessage c versionA scriptA)) (c.sha256 (leafMessage c versionB scriptB))) :
    leafMessage c leafVersion script = leafMessage c versionA scriptA ∨
      leafMessage c leafVersion script = leafMessage c versionB scriptB := by
  rcases eq_nil_or_concat path with rfl | ⟨path, sibling, rfl⟩
  · exact absurd hroot (hb.leaf_ne_branch hleaf hbranch)
  -- the last step of the path is a branch with the same message, so what reached it is one of the leaves
  rw [concat_eq_append, branchMessages_append] at hpath
  have hlast : branchMessage c (pathRoot c (c.sha256 (leafMessage c leafVersion script)) path) sibling ∈ known :=
    hpath _ (by simp [branchMessages])
  have hstep : tapbranchHash c (pathRoot c (c.sha256 (leafMessage c leafVersion script)) path) sibling =
      tapbranchHash c (c.sha256 (leafMessage c versionA scriptA)) (c.sha256 (leafMessage c versionB scriptB)) := by
    rw [← hroot, concat_eq_append, pathRoot, pathRoot, foldl_append]
    rfl
  have hreached : pathRoot c (c.sha256 (leafMessage c leafVersion script)) path =
        c.sha256 (leafMessage c versionA scriptA) ∨
      pathRoot c (c.sha256 (leafMessage c leafVersion script)) path =
        c.sha256 (leafMessage c versionB scriptB) := by
    rcases branchMessage_inj (hb.sha256_injOn hlast hbranch hstep) with ⟨h, _⟩ | ⟨h, _⟩
    · exact .inl h
    · exact .inr h
  rcases eq_nil_or_concat path with rfl | ⟨path, sibling', rfl⟩
  · exact hreached.imp (hb.sha256_injOn hleaf hA) (hb.sha256_injOn hleaf hB)
  -- a longer path would make a leaf hash a branch hash
  · rw [concat_eq_append, branchMessages_append] at hpath
    have hinner : branchMessage c (pathRoot c (c.sha256 (leafMessage c leafVersion script)) path) sibling' ∈ known :=
      hpath _ (by simp [branchMessages])
    have hbranchRoot : pathRoot c (c.sha256 (leafMessage c leafVersion script)) (path.concat sibling') =
        tapbranchHash c (pathRoot c (c.sha256 (leafMessage c leafVersion script)) path) sibling' := by
      rw [concat_eq_append, pathRoot, foldl_append]
      rfl
    rw [hbranchRoot] at hreached
    rcases hreached with h | h
    · exact absurd h.symm (hb.leaf_ne_branch hA hinner)
    · exact absurd h.symm (hb.leaf_ne_branch hB hinner)

theorem tapleafHash_eq_ok {hash : Bytes32} :
    tapleafHash c leafVersion script = .ok hash ↔
      leafVersion &&& 1 = 0 ∧ script.length ≤ maxScriptBytes ∧ hash = c.sha256 (leafMessage c leafVersion script) := by
  unfold tapleafHash
  split
  · rename_i h
    simp only [reduceCtorEq, false_iff]
    rintro ⟨hversion, hlength, -⟩
    rcases h with h | h
    · exact h hversion
    · omega
  · rename_i h
    push Not at h
    simp only [Except.ok.injEq]
    exact ⟨fun heq => ⟨h.1, h.2, heq.symm⟩, fun heq => heq.2.2.symm⟩

/-- What an accepted control block says: its internal key, tweaked with the root its path leads to from the
    script under its leaf version, is the output key. -/
theorem verifyControlBlock_opens {outputKey : Bytes32} {controlBlock : Bytes}
    (h : verifyControlBlock c outputKey script controlBlock = .ok ()) :
    ∃ internalKey parity, internalKey.1 = (controlBlock.drop 1).take 32 ∧ script.length ≤ maxScriptBytes ∧
      taprootOutputKey c internalKey
        (pathRoot c (c.sha256 (leafMessage c (controlLeafVersion controlBlock) script)) (controlPath controlBlock)) =
          .ok (outputKey, parity) := by
  unfold verifyControlBlock at h
  split at h
  · cases h
  split at h
  · cases h
  cases hkey : Bytes32.ofBytes ((controlBlock.drop 1).take 32) with
  | none =>
    rw [hkey] at h
    cases h
  | some internalKey =>
    rw [hkey] at h
    simp only at h
    split at h
    · cases h
    cases hleaf : tapleafHash c (controlLeafVersion controlBlock) script with
    | error e =>
      rw [hleaf] at h
      cases h
    | ok leaf =>
      obtain ⟨-, hlength, rfl⟩ := tapleafHash_eq_ok.mp hleaf
      rw [hleaf] at h
      simp only [bind, Except.bind] at h
      split at h
      · cases h
      rename_i output houtput
      split at h
      · cases h
      rename_i hsame
      push Not at hsame
      refine ⟨internalKey, output.2, Bytes32.ofBytes_eq_some.mp hkey, hlength, ?_⟩
      rw [houtput, ← hsame.1]

end Binding

end Immortal.Bitcoin
