import Immortal.Bitcoin.Taproot
import Immortal.Client.Value

/-!
# `Immortal.Client.SwapTree` — the declared claim-and-refund tree of a Bitcoin leg

A leg verifier declares two leaves (`taproot_tree`), two cooperative keys and the Merkle root over the
leaves. `verifyDeclaredSwapTree` is the client's check of that declaration against the executable scripts
and against the control block of an exit package.
-/

namespace Immortal.Client

open Txn Immortal.Bitcoin

/-! ## Leaves -/

/-- `.map_err(|error| SwapClientError::new(code, format!("{text}: {error}")))`. -/
def fromVerified {α : Type} (code text : String) : Verified α → Checked α
  | .ok value => .ok value
  | .error error => .error ⟨code, text ++ ": " ++ error.text⟩

@[simp] theorem fromVerified_eq_ok {α : Type} {code text : String} {result : Verified α} {value : α} :
    fromVerified code text result = .ok value ↔ result = .ok value := by
  cases result <;> simp [fromVerified]

structure ParsedExitLeaf where
  signingKey : Bytes32
  condition : LeafCondition
deriving DecidableEq, Repr

/-- `script_number` with the client's errors. -/
def exitScriptNumber (bytes : Bytes) : Checked Nat :=
  match scriptNumber bytes with
  | .ok value => .ok value
  | .error .form =>
    .error ⟨"swp_exit_package_unusable", "exit timelock must be a non-negative bounded script number"⟩
  | .error .notMinimal =>
    .error ⟨"swp_exit_package_unusable", "exit timelock script number is not minimally encoded"⟩
  | .error .range => .error ⟨"swp_exit_package_unusable", "exit timelock exceeds u32"⟩

def parseExitLeafScript (c : Crypto) (script : Bytes) : Checked ParsedExitLeaf := do
  let instructions ←
    fromVerified "swp_exit_package_unusable" "exit Taproot script is invalid" (parseSwapScript script)
  let (key, condition) ← matchLeaf exitScriptNumber
    ⟨"swp_exit_package_unusable", "exit leaf is not an exact supported hashlock, CLTV, or CSV path"⟩ instructions
  refuseIf (!c.isXOnly key) "swp_exit_package_unusable" "exit signing key is invalid"
  return ⟨key, condition⟩

/-- `lower_hex(&sha256(&canonical_json(value)?))`. -/
def documentDigest (c : Crypto) (value : Value) : Checked String := do
  let bytes ← canonicalJson value
  return lowerHex (c.sha256 bytes).1

/-- The name a leaf condition has in the declaration. -/
def conditionName : LeafCondition → String
  | .hashlock _ => "hashlock"
  | .cltv _ => "cltv"
  | .csv _ => "csv"

/-- The lock value a leaf condition has in the declaration. -/
def conditionLock : LeafCondition → Value
  | .hashlock _ => .null
  | .cltv lock => .string (toString lock)
  | .csv lock => .string (toString lock)

/-- A declared leaf as `verify_declared_swap_tree` keeps it. -/
structure DeclaredLeaf where
  path : String
  role : String
  script : Bytes
  leaf : ParsedExitLeaf
  hash : Bytes32
deriving DecidableEq, Repr

/-- The condition of a declared leaf fits the path it is declared for. -/
def checkLeafPath (paymentHash path : String) : LeafCondition → Checked Unit
  | .hashlock hash =>
    refuseIf (path != "claim" || lowerHex hash.1 != paymentHash) "swp_exit_package_mismatch"
      "declared claim leaf does not bind the contract payment hash"
  | .cltv _ =>
    refuseIf (path != "refund") "swp_exit_package_mismatch" "declared CLTV leaf is not the refund path"
  | .csv _ =>
    refuseIf (path != "refund") "swp_exit_package_mismatch" "declared CSV leaf is not the refund path"

/-- One pass of the loop over the declared tree. -/
def parseDeclaredLeaf (c : Crypto) (paymentHash : String) (declared : Value) : Checked DeclaredLeaf := do
  let declared ← object declared "declared Taproot leaf"
  let path ← requireString declared "path" none "swp_exit_package_mismatch"
  let role ← requireString declared "participant_role" none "swp_exit_package_mismatch"
  refuseIf (role != "requester" && role != "provider") "swp_exit_package_mismatch"
    "declared Taproot leaf has an unknown participant role"
  let text ← requireString declared "script" none "swp_exit_package_mismatch"
  let script ← decodeHex text "declared Taproot leaf"
  let leaf ← parseExitLeafScript c script
  checkLeafPath paymentHash path leaf.condition
  refuseIf
    (declared.text "condition" != some (conditionName leaf.condition) ||
      declared.text "signing_pubkey" != some (lowerHex leaf.signingKey.1) ||
      declared.orNull "lock_value" != conditionLock leaf.condition)
    "swp_exit_package_mismatch" "declared Taproot leaf metadata differs from its executable script"
  let hash ← fromVerified "swp_exit_package_mismatch" "declared Taproot leaf is invalid" (tapleafHash c 0xc0 script)
  return ⟨path, role, script, leaf, hash⟩

/-- What an accepted declaration of a leaf says: its script is what is hashed under leaf version `0xc0`, and
    its metadata are those of the script. -/
structure DeclaredLeaf.Accepted (c : Crypto) (paymentHash : String) (declared : Value) (d : DeclaredLeaf) :
    Prop where
  path : declared.text "path" = some d.path
  role : declared.text "participant_role" = some d.role
  script : ∃ text, declared.text "script" = some text ∧ decodeHex text "declared Taproot leaf" = .ok d.script
  leaf : parseExitLeafScript c d.script = .ok d.leaf
  fits : checkLeafPath paymentHash d.path d.leaf.condition = .ok ()
  condition : declared.text "condition" = some (conditionName d.leaf.condition)
  lock : (declared.get "lock_value").getD .null = conditionLock d.leaf.condition
  hash : tapleafHash c 0xc0 d.script = .ok d.hash

theorem parseDeclaredLeaf_ok {c : Crypto} {paymentHash : String} {declared : Value} {d : DeclaredLeaf}
    (h : parseDeclaredLeaf c paymentHash declared = .ok d) : d.Accepted c paymentHash declared := by
  simp only [parseDeclaredLeaf, bind_eq_ok, object_eq_ok, requireString_eq_ok, refuseIf_eq_ok, fromVerified_eq_ok] at h
  obtain ⟨members, rfl, path, hpath, role, hrole, ⟨⟩, -, text, htext, script, hscript, leaf, hleaf, ⟨⟩, hfits,
    ⟨⟩, hmetadata, hash, hhash, hresult⟩ := h
  cases hresult
  simp only [Bool.or_eq_false_iff, bne_eq_false_iff_eq] at hmetadata
  exact ⟨hpath, hrole, ⟨text, htext, hscript⟩, hleaf, hfits, hmetadata.1.1, hmetadata.2, hhash⟩

/-- The loop over the declared tree. -/
def parseDeclaredTree (c : Crypto) (paymentHash : String) : List Value → Checked (List DeclaredLeaf)
  | [] => .ok []
  | declared :: tree => do
    let leaf ← parseDeclaredLeaf c paymentHash declared
    let leaves ← parseDeclaredTree c paymentHash tree
    return leaf :: leaves

/-! ## Cooperative key -/

/-- The loop of `cooperative_internal_key` over the declared keys and the roles expected for them. -/
def cooperativeKeys (c : Crypto) : List (Value × String) → Checked (List Bytes33)
  | [] => .ok []
  | (declared, expectedRole) :: rest => do
    let declared ← object declared "cooperative spend key"
    refuseIf (declared.text "participant_role" != some expectedRole) "swp_exit_package_mismatch"
      "cooperative spend keys are not pinned in requester/provider order"
    let text ← requireString declared "public_key" none "swp_exit_package_mismatch"
    let bytes ← decodeHex text "cooperative spend key"
    let key ← orRefuse (c.publicKey bytes) "swp_exit_package_mismatch"
      "cooperative spend key is not a compressed secp256k1 key"
    let keys ← cooperativeKeys c rest
    return key :: keys

/-- The MuSig2 aggregate of the two cooperative keys a leg verifier declares. -/
def cooperativeAggregateKey (c : Crypto) (verifier : Members) : Checked Bytes32 := do
  let declared ← orRefuse ((verifier.items "cooperative_pubkeys").filter (·.length = 2)) "swp_exit_package_mismatch"
    "leg verifier requires two ordered cooperative spend keys"
  let keys ← cooperativeKeys c (declared.zip ["requester", "provider"])
  refuseIf (keys[0]? == keys[1]?) "swp_exit_package_mismatch"
    "cooperative requester and provider spend keys must be distinct"
  fromVerified "swp_contract_signer_invalid" "could not derive cooperative MuSig2 key" (musig2AggregateKey c keys)

/-- `cooperative_internal_key`: the aggregate in hexadecimal. -/
def cooperativeInternalKey (c : Crypto) (verifier : Members) : Checked String := do
  let key ← cooperativeAggregateKey c verifier
  return lowerHex key.1

/-! ## Tree -/

/-- The path-specific members of a verifier, by the path it selects. -/
def pathScriptMember (path : String) : String := if path = "claim" then "claim_script" else "refund_script"

def pathControlMember (path : String) : String :=
  if path = "claim" then "taproot_claim_control_block" else "taproot_refund_control_block"

/-- The requester's leaf for `path` and its sibling. -/
def selectLeaf (path : String) : List DeclaredLeaf → Option (DeclaredLeaf × DeclaredLeaf)
  | [first, second] =>
    if first.path = path ∧ first.role = "requester" then some (first, second)
    else if second.path = path ∧ second.role = "requester" then some (second, first)
    else none
  | _ => none

theorem selectLeaf_pair {path : String} {first second selected sibling : DeclaredLeaf}
    (h : selectLeaf path [first, second] = some (selected, sibling)) :
    selected.path = path ∧ ((selected = first ∧ sibling = second) ∨ (selected = second ∧ sibling = first)) := by
  simp only [selectLeaf] at h
  split at h
  · rename_i hfirst
    cases h
    exact ⟨hfirst.1, .inl ⟨rfl, rfl⟩⟩
  · split at h
    · rename_i hsecond
      cases h
      exact ⟨hsecond.1, .inr ⟨rfl, rfl⟩⟩
    · cases h

/-- `tapbranch_hash(parsed[0].4, parsed[1].4)`. -/
def treeRoot (c : Crypto) : List DeclaredLeaf → Option Bytes32
  | [first, second] => some (tapbranchHash c first.hash second.hash)
  | _ => none

/-- The declared tree has one leaf for each path and one for each participant. -/
def complementary (parsed : List DeclaredLeaf) : Bool :=
  parsed.countP (·.path = "claim") == 1 && parsed.countP (·.path = "refund") == 1 &&
    parsed.countP (·.role = "requester") == 1 && parsed.countP (·.role = "provider") == 1

/-- The part of `verify_declared_swap_tree` that holds the verifier's own exit metadata against the leaf of
    the path it selects. -/
def checkVerifierExit (verifier : Members) (parsed : List DeclaredLeaf) : Checked Unit := do
  let path ← requireString verifier "exit_path" none "swp_exit_package_mismatch"
  let leaf ← orRefuse (parsed.find? (·.path = path)) "swp_exit_package_mismatch"
    "verifier-selected exit path is absent from the declared tree"
  let pathScript := verifier.get (pathScriptMember path)
  let pathControl := verifier.get (pathControlMember path)
  refuseIf (pathScript.isSome != pathControl.isSome) "swp_exit_package_mismatch"
    "path-specific verifier metadata is incomplete"
  refuseIf
    (verifier.text "exit_signing_pubkey" != some (lowerHex leaf.leaf.signingKey.1) ||
      verifier.text "exit_condition" != some (conditionName leaf.leaf.condition) ||
      verifier.orNull "exit_lock_value" != conditionLock leaf.leaf.condition ||
      pathScript.any (fun script => verifier.get "taproot_script" != some script) ||
      pathControl.any (fun control => verifier.get "taproot_control_block" != some control))
    "swp_exit_package_mismatch" "verifier-selected exit metadata differs from its declared path"

/-- `verify_declared_swap_tree`: the selected script, the control block and the digest of the tree. -/
def verifyDeclaredSwapTree (c : Crypto) (verification verifier : Members) (paymentHash selectedPath : String)
    (selectedLeaf : ParsedExitLeaf) : Checked (Bytes × Bytes × String) := do
  let internalKey ← cooperativeInternalKey c verifier
  let tree ← orRefuse ((verification.items "taproot_tree").filter (·.length = 2)) "swp_exit_package_mismatch"
    "v1 exit verification requires the complete claim and refund tree"
  refuseIf (verifier.get "taproot_tree" != some (.array tree)) "swp_exit_package_mismatch"
    "exit package tree differs from the complete quoted tree"
  let swapTreeSha256 ← documentDigest c (.array tree)
  let parsed ← parseDeclaredTree c paymentHash tree
  refuseIf (!complementary parsed) "swp_exit_package_mismatch"
    "declared Taproot tree does not contain complementary unilateral paths"
  checkVerifierExit verifier parsed
  let (selected, sibling) ← orRefuse (selectLeaf selectedPath parsed) "swp_exit_package_mismatch"
    "requester exit path is absent from the complete declared tree"
  refuseIf (selected.leaf.signingKey != selectedLeaf.signingKey || selected.leaf.condition != selectedLeaf.condition)
    "swp_exit_package_mismatch" "selected exit leaf differs from the declared requester path"
  refuseIf
    (verifier.text "taproot_merkle_root" != (treeRoot c parsed).map (fun root => lowerHex root.1) ||
      verifier.text "cooperative_internal_key" != some internalKey)
    "swp_exit_package_mismatch"
    "quoted tree root or cooperative MuSig2 key is not derivable from contract inputs"
  let text ← requireString verification "taproot_control_block" none "swp_exit_package_mismatch"
  let controlBlock ← decodeHex text "exit Taproot control block"
  refuseIf
    (controlBlock.length != 65 || lowerHex ((controlBlock.drop 1).take 32) != internalKey ||
      controlBlock.drop 33 != sibling.hash.1)
    "swp_exit_package_mismatch" "exit control block contains an undeclared internal key or sibling"
  return (selected.script, controlBlock, swapTreeSha256)

/-- What an accepted tree says: two accepted leaves with complementary paths and participants, and a control
    block made of the aggregate key and the selected leaf's sibling. -/
structure AcceptedTree (c : Crypto) (verification verifier : Members) (paymentHash selectedPath : String)
    (script controlBlock : Bytes) where
  key : Bytes32
  declared₁ : Value
  declared₂ : Value
  first : DeclaredLeaf
  second : DeclaredLeaf
  selected : DeclaredLeaf
  sibling : DeclaredLeaf
  key_eq : cooperativeAggregateKey c verifier = .ok key
  tree_eq : verifier.items "taproot_tree" = some [declared₁, declared₂]
  accepted₁ : first.Accepted c paymentHash declared₁
  accepted₂ : second.Accepted c paymentHash declared₂
  complementary_eq : complementary [first, second] = true
  select_eq : selectLeaf selectedPath [first, second] = some (selected, sibling)
  script_eq : script = selected.script
  control_eq : ∃ text, verification.text "taproot_control_block" = some text ∧
    decodeHex text "exit Taproot control block" = .ok controlBlock
  control_length : controlBlock.length = 65
  control_key : (controlBlock.drop 1).take 32 = key.1
  control_sibling : controlBlock.drop 33 = sibling.hash.1

theorem parseDeclaredTree_pair {c : Crypto} {paymentHash : String} {declared₁ declared₂ : Value}
    {parsed : List DeclaredLeaf} (h : parseDeclaredTree c paymentHash [declared₁, declared₂] = .ok parsed) :
    ∃ first second, parsed = [first, second] ∧ first.Accepted c paymentHash declared₁ ∧
      second.Accepted c paymentHash declared₂ := by
  simp only [parseDeclaredTree, bind_eq_ok] at h
  obtain ⟨first, hfirst, rest, ⟨second, hsecond, last, hlast, hrest⟩, hparsed⟩ := h
  cases hlast
  cases hrest
  cases hparsed
  exact ⟨first, second, rfl, parseDeclaredLeaf_ok hfirst, parseDeclaredLeaf_ok hsecond⟩

theorem verifyDeclaredSwapTree_ok {c : Crypto} {verification verifier : Members} {paymentHash selectedPath : String}
    {selectedLeaf : ParsedExitLeaf} {script controlBlock : Bytes} {digest : String}
    (h : verifyDeclaredSwapTree c verification verifier paymentHash selectedPath selectedLeaf =
      .ok (script, controlBlock, digest)) :
    Nonempty (AcceptedTree c verification verifier paymentHash selectedPath script controlBlock) := by
  simp only [verifyDeclaredSwapTree, cooperativeInternalKey, bind_eq_ok, orRefuse_eq_ok, refuseIf_eq_ok,
    requireString_eq_ok] at h
  obtain ⟨_, ⟨key, hkey, hinternal⟩, tree, htree, ⟨⟩, hsame, _, -, parsed, hparsed, ⟨⟩, hcomplementary, ⟨⟩, -,
    ⟨selected, sibling⟩, hselect, ⟨⟩, -, ⟨⟩, -, text, htext, control, hcontrol, ⟨⟩, hblock, hresult⟩ := h
  cases hinternal
  cases hresult
  obtain ⟨-, hlength⟩ := Option.filter_eq_some_iff.mp htree
  obtain ⟨declared₁, declared₂, rfl⟩ := List.length_eq_two.mp (of_decide_eq_true hlength)
  obtain ⟨first, second, rfl, haccepted₁, haccepted₂⟩ := parseDeclaredTree_pair hparsed
  simp only [Bool.or_eq_false_iff, bne_eq_false_iff_eq] at hblock hsame
  refine ⟨⟨key, declared₁, declared₂, first, second, selected, sibling, hkey, ?_, haccepted₁, haccepted₂,
    by simpa using hcomplementary, hselect, rfl, ⟨text, htext, hcontrol⟩, hblock.1.1, lowerHex_inj hblock.1.2,
    hblock.2⟩⟩
  rw [Members.items, hsame]
  rfl

/-- One leaf is the claim, the other the refund, and the two belong to different participants. -/
theorem complementary_pair {first second : DeclaredLeaf} (h : complementary [first, second] = true) :
    ((first.path = "claim" ∧ second.path = "refund") ∨ (first.path = "refund" ∧ second.path = "claim")) ∧
      first.role ≠ second.role := by
  simp only [complementary, Bool.and_eq_true] at h
  obtain ⟨⟨⟨hclaim, hrefund⟩, hrequester⟩, -⟩ := h
  constructor
  · by_cases h₁ : first.path = "claim"
    · have h₂ : second.path ≠ "claim" := by
        intro h₂
        simp [h₁, h₂] at hclaim
      have h₃ : second.path = "refund" := by
        by_contra h₃
        simp [h₁, h₃] at hrefund
      exact .inl ⟨h₁, h₃⟩
    · have h₂ : second.path = "claim" := by
        by_contra h₂
        simp [h₁, h₂] at hclaim
      have h₃ : first.path = "refund" := by
        by_contra h₃
        simp [h₂, h₃] at hrefund
      exact .inr ⟨h₃, h₂⟩
  · intro hroles
    by_cases h₁ : second.role = "requester"
    · simp [hroles, h₁] at hrequester
    · simp [hroles, h₁] at hrequester

/-! ## The output a verifier declares -/

/-- The leaf a verifier declares for a path. -/
def declaredLeaf (verifier : Members) (path : String) : Option Value :=
  (verifier.items "taproot_tree").bind fun tree => tree.find? (·.text "path" == some path)

/-- The script a verifier declares for a path. -/
def declaredScript (verifier : Members) (path : String) : Option Bytes :=
  (declaredLeaf verifier path).bind fun leaf =>
    (leaf.text "script").bind fun text => (decodeHex text "declared Taproot leaf").toOption

/-- The Taproot output key of exactly the declared spending conditions: the aggregate of the cooperative keys
    tweaked with the branch of the declared claim and refund scripts, both at leaf version `0xc0`. -/
def declaredOutputKey (c : Crypto) (verifier : Members) : Option Bytes32 := do
  let key ← (cooperativeAggregateKey c verifier).toOption
  let claim ← declaredScript verifier "claim"
  let refund ← declaredScript verifier "refund"
  let claimLeaf ← (tapleafHash c 0xc0 claim).toOption
  let refundLeaf ← (tapleafHash c 0xc0 refund).toOption
  let output ← (taprootOutputKey c key (tapbranchHash c claimLeaf refundLeaf)).toOption
  return output.1

section Accepted

variable {c : Crypto} {verification verifier : Members} {paymentHash selectedPath : String}
variable {script controlBlock : Bytes}

/-- An accepted tree has, for each of the two paths, the leaf the verifier declares for it. -/
theorem AcceptedTree.leaf_for (t : AcceptedTree c verification verifier paymentHash selectedPath script controlBlock)
    {path : String} (hpath : path = "claim" ∨ path = "refund") :
    ∃ declared d, declaredLeaf verifier path = some declared ∧ d.Accepted c paymentHash declared ∧ d.path = path ∧
      (d = t.first ∨ d = t.second) := by
  obtain ⟨hpaths, -⟩ := complementary_pair t.complementary_eq
  by_cases h₁ : t.first.path = path
  · refine ⟨t.declared₁, t.first, ?_, t.accepted₁, h₁, .inl rfl⟩
    simp [declaredLeaf, t.tree_eq, t.accepted₁.path, h₁]
  · have h₂ : t.second.path = path := by
      rcases hpaths with ⟨ha, hb⟩ | ⟨ha, hb⟩ <;> rcases hpath with rfl | rfl <;> simp_all
    refine ⟨t.declared₂, t.second, ?_, t.accepted₂, h₂, .inr rfl⟩
    simp [declaredLeaf, t.tree_eq, t.accepted₁.path, t.accepted₂.path, h₁, h₂]

theorem DeclaredLeaf.Accepted.declaredScript_eq {declared : Value} {d : DeclaredLeaf} {path : String}
    (h : d.Accepted c paymentHash declared) (hleaf : declaredLeaf verifier path = some declared) :
    declaredScript verifier path = some d.script := by
  obtain ⟨text, htext, hscript⟩ := h.script
  simp [declaredScript, hleaf, htext, hscript, Except.toOption]

end Accepted

end Immortal.Client
