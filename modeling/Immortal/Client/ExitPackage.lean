import Immortal.Client.Session

/-!
# `Immortal.Client.ExitPackage` — exit packages against the Swap Contract

An exit package is the document a requester keeps to leave a swap alone: the funding output, the script and
control block of its leaf, the broadcast window. `verifyExitPackages` admits a list of them against the bound
session before any funding. The loop body is one definition per group of checks, in the source's order, so
that each has one inversion lemma.
-/

namespace Immortal.Client

open Txn Immortal.Bitcoin

/-! ## Documents -/

structure ExitPackage where
  document : Value
deriving DecidableEq

/-- `commitment_sha256`: the digest of the package without the members that bind it to a signed contract. -/
def ExitPackage.commitmentSha256 (c : Crypto) (package : ExitPackage) : Checked String := do
  let root ← object package.document "exit package"
  documentDigest c (.object ((root.remove "swap_contract_ids").remove "contract_sha256"))

def ExitPackage.effectId (package : ExitPackage) : Checked String := do
  let root ← object package.document "exit package"
  requireString root "effect_id" none "swp_exit_package_unusable"

/-- A text of the package's `exit` member. -/
def ExitPackage.exitText (package : ExitPackage) (name : String) : Checked String := do
  let root ← object package.document "exit package"
  let exit ← object (root.orNull "exit") "exit transaction"
  requireString exit name none "swp_exit_package_unusable"

def ExitPackage.path (package : ExitPackage) : Checked String := package.exitText "path"

def ExitPackage.mode (package : ExitPackage) : Checked String := package.exitText "mode"

/-! ## Checks -/

/-- The script of a package fits its path and, on the claim path, its payment hash. -/
def parseExitLeaf (c : Crypto) (package : ExitPackage) : Checked ParsedExitLeaf := do
  let root ← object package.document "exit package"
  let verification ← object (root.orNull "verification") "exit verification"
  let text ← requireString verification "taproot_script" none "swp_exit_package_unusable"
  let script ← decodeHex text "exit Taproot script"
  let leaf ← parseExitLeafScript c script
  let path ← package.path
  match path, leaf.condition with
  | "claim", .hashlock hash =>
    let commitments ← object (root.orNull "secret_commitments") "exit secret commitments"
    let paymentHash ← requireString commitments "payment_hash" none "swp_exit_package_unusable"
    refuseIf (paymentHash != lowerHex hash.1) "swp_payment_hash_mismatch"
      "claim leaf hash differs from the exit-package commitment"
  | "refund", .cltv _ => .ok ()
  | "refund", .csv _ => .ok ()
  | _, _ =>
    .error ⟨"swp_exit_package_unusable", "claim and refund paths use the wrong leaf condition"⟩
  return leaf

/-- `for member in [..] { if left.get(member) != right.get(member) { return Err(..) } }`. -/
def requireSame (left right : Members) (code : String) : List (String × String × String) → Checked Unit
  | [] => .ok ()
  | (member, other, message) :: rest => do
    refuseIf (left.get member != right.get other) code message
    requireSame left right code rest

def verifyExitBroadcastPolicy (document contract : Members) (leaf : ParsedExitLeaf) : Checked Unit := do
  let exit ← object (document.orNull "exit") "exit transaction"
  let recovery ← object (contract.orNull "recovery") "Swap Contract recovery"
  let policy ← object (recovery.orNull "exit_policy") "Swap Contract exit policy"
  let earliestText ← requireString exit "earliest_broadcast_height" none "swp_exit_package_mismatch"
  let earliest ← canonicalAmount earliestText
  let latestText ← requireString exit "latest_safe_broadcast_height" none "swp_exit_package_mismatch"
  let latest ← canonicalAmount latestText
  let tooEarly := match leaf.condition with
    | .cltv lock => decide (earliest < lock)
    | _ => false
  refuseIf
    (exit.get "earliest_broadcast_height" != policy.get "earliest_broadcast_height" ||
      exit.get "latest_safe_broadcast_height" != policy.get "latest_safe_broadcast_height" ||
      latest < earliest || tooEarly)
    "swp_exit_package_mismatch" "exit broadcast window is outside the quoted recovery bounds"
  let fee ← object (exit.orNull "fee_policy") "exit fee policy"
  requireSame fee policy "swp_exit_package_mismatch"
    (["target_blocks", "maximum_fee", "bump_mode"].map fun member =>
      (member, member, "exit fee-policy member " ++ member ++ " differs from the Quote"))
  let maximumFee ← requireString fee "maximum_fee" none "swp_exit_package_mismatch"
  let _ ← canonicalAmount maximumFee

/-- `u8::from_str_radix(pair, 16)` on two bytes: either case of a digit, and a leading plus sign. -/
def radixDigit (byte : UInt8) : Option Nat :=
  if 48 ≤ byte.toNat ∧ byte.toNat ≤ 57 then some (byte.toNat - 48)
  else if 97 ≤ byte.toNat ∧ byte.toNat ≤ 102 then some (byte.toNat - 87)
  else if 65 ≤ byte.toNat ∧ byte.toNat ≤ 70 then some (byte.toNat - 55)
  else none

def radixByte (high low : UInt8) : Option UInt8 :=
  if high = 43 then (radixDigit low).map UInt8.ofNat
  else (radixDigit high).bind fun h => (radixDigit low).map fun l => UInt8.ofNat (16 * h + l)

/-- `.chunks_exact(2).map(..).collect::<Option<Vec<_>>>()`. -/
def radixPairs : Bytes → Option Bytes
  | high :: low :: rest => (radixByte high low).bind fun byte => (radixPairs rest).map (byte :: ·)
  | _ => some []

/-- `strip_prefix("5120")`, on bytes. -/
def stripTaproot : Bytes → Option Bytes
  | 53 :: 49 :: 50 :: 48 :: rest => some rest
  | _ => none

/-- The output key of a funding script, as the exit check reads it. -/
def scriptOutputKey (c : Crypto) (scriptPubkey : Option String) : Checked Bytes32 := do
  let key ← orRefuse (scriptPubkey.bind fun text => stripTaproot (utf8 text)) "swp_exit_package_mismatch"
    "exit funding script is not a v1 Taproot output"
  let key ← orRefuse ((radixPairs key).bind Bytes32.ofBytes) "swp_exit_package_mismatch"
    "exit funding Taproot key is malformed"
  refuseIf (!c.isXOnly key) "swp_exit_package_mismatch" "exit funding Taproot key is invalid"
  return key

/-- What the loop reads of every package before it looks at the participant. -/
structure PackageHead where
  document : Members
  digest : String
  role : String
  leg : String
  path : String
  mode : String
deriving DecidableEq

/-- The package binds the accepted session; its head is read. -/
def packageHead (c : Crypto) (bound : BoundSession) (package : ExitPackage) : Checked PackageHead := do
  let document ← object package.document "exit package"
  refuseIf
    (document.text "order_id" != some bound.order.id || document.text "contract_sha256" != some bound.contractSha256)
    "swp_exit_package_mismatch" "exit package does not bind the accepted session"
  let ids ← orRefuse (document.items "swap_contract_ids") "swp_exit_package_mismatch"
    "exit package has no Swap Contract IDs"
  refuseIf (!bound.contractIds.all fun id => ids.any fun value => value.asStr == some id)
    "swp_exit_package_mismatch" "exit package does not bind both Swap Contract records"
  let digest ← package.commitmentSha256 c
  let role ← requireString document "participant_role" none "swp_exit_package_mismatch"
  let leg ← requireString document "leg_id" none "swp_exit_package_mismatch"
  let path ← package.path
  let mode ← package.mode
  return ⟨document, digest, role, leg, path, mode⟩

/-- The leaf of a package fits the requester's topology. The one exception is a chain swap's source refund
    by CSV, from verifiers that predate the path-specific members. -/
def checkTopology (bound : BoundSession) (contract : Members) (head : PackageHead) (leaf : ParsedExitLeaf)
    (verifier : Members) (expected : ExitTopology) : Checked Unit := do
  let condition := conditionName leaf.condition
  let legacyChainCsv := bound.swapType = .chain && head.leg = "source" && expected.condition = "cltv" &&
    condition = "csv" && !verifier.contains "refund_script" && !verifier.contains "taproot_refund_control_block"
  refuseIf (condition != expected.condition && !legacyChainCsv) "swp_exit_package_mismatch"
    "exit leaf condition differs from the selected flow topology"
  let leg ← orRefuse (contractLeg contract head.leg) "swp_exit_package_mismatch"
    "exit package has no exact contract leg"
  refuseIf
    (head.document.get "network_id" != leg.get "network_id" || head.document.get "asset_id" != leg.get "asset_id")
    "swp_exit_package_mismatch" "exit package network or asset differs from its contract leg"

/-- The funding output and the confirmation policy of a package are those of its leg. -/
def checkFunding (c : Crypto) (contract funding verifier : Members) (legId : String) : Checked Unit := do
  requireSame funding verifier "swp_exit_package_mismatch"
    [("transaction_template_sha256", "funding_transaction_sha256",
        "exit funding member transaction_template_sha256 differs from its leg verifier"),
      ("amount", "amount", "exit funding member amount differs from its leg verifier"),
      ("script_pubkey", "script_pubkey", "exit funding member script_pubkey differs from its leg verifier"),
      ("output_index", "output_index", "exit funding output index differs from its leg verifier")]
  let policy ← orRefuse ((contractLeg contract legId).bind (·.get "confirmation_policy"))
    "swp_exit_package_mismatch" "Bitcoin contract leg has no confirmation policy"
  let policySha256 ← documentDigest c policy
  refuseIf (funding.text "confirmation_policy_sha256" != some policySha256) "swp_exit_package_mismatch"
    "exit funding confirmation-policy digest differs from the contract leg"

/-- The member of the verifier a package member is compared with: the path-specific one where there is one. -/
def verifierMember (verifier : Members) (specific general : String) : String :=
  if verifier.contains specific then specific else general

/-- The script, control block, Quote and verifier digest of a package are those of its leg verifier. -/
def checkVerification (c : Crypto) (bound : BoundSession) (verification verifier : Members) (path : String) :
    Checked Unit := do
  let script := verifierMember verifier (pathScriptMember path) "taproot_script"
  let control := verifierMember verifier (pathControlMember path) "taproot_control_block"
  requireSame verification verifier "swp_exit_package_mismatch"
    [("taproot_script", script,
        "exit verification member taproot_script differs from path-specific verifier member " ++ script),
      ("taproot_control_block", control,
        "exit verification member taproot_control_block differs from path-specific verifier member " ++ control)]
  refuseIf (verification.text "quote_id" != some bound.quote.id) "swp_exit_package_mismatch"
    "exit verification does not bind the accepted Quote"
  let verifierDigest ← documentDigest c (.object verifier)
  refuseIf (verification.text "verifier_digest" != some verifierDigest) "swp_exit_package_mismatch"
    "exit verifier digest does not bind the complete leg verifier"

/-- The declared tree derives the funding output. -/
def checkTree (c : Crypto) (bound : BoundSession) (funding verification verifier : Members) (path : String)
    (leaf : ParsedExitLeaf) : Checked Unit := do
  let (script, controlBlock, treeSha256) ←
    verifyDeclaredSwapTree c verification verifier bound.paymentHash path leaf
  refuseIf
    (verification.text "swap_tree_sha256" != some treeSha256 || verifier.text "swap_tree_sha256" != some treeSha256)
    "swp_exit_package_mismatch" "exit swap tree digest differs from the declared Taproot tree"
  let outputKey ← scriptOutputKey c (funding.text "script_pubkey")
  fromVerified "swp_exit_package_mismatch" "declared Taproot tree does not derive the funding output"
    (verifyControlBlock c outputKey script controlBlock)

/-- `effect_id`: the digest of the Order, the effect's role and the leg under the profile's domain. -/
def effectId (c : Crypto) (orderId effectRole legId : String) : Checked String := do
  let order ← decodeHex orderId "Order event ID"
  return lowerHex (c.sha256
    (utf8 "openagents.mkt-swp.v1" ++ [0] ++ order ++ [0] ++ utf8 effectRole ++ [0] ++ utf8 legId)).1

/-- The payment hash and the external effect of a package. -/
def checkEffect (c : Crypto) (bound : BoundSession) (effectBindings : List Value) (package : ExitPackage)
    (head : PackageHead) : Checked Unit := do
  let commitments ← object (head.document.orNull "secret_commitments") "exit secret commitments"
  refuseIf (commitments.text "payment_hash" != some bound.paymentHash) "swp_payment_hash_mismatch"
    "exit package payment hash differs from the Swap Contract"
  let effectRole ← match head.path with
    | "claim" => .ok "chain_claim"
    | "refund" => .ok "chain_refund"
    | _ => .error ⟨"swp_exit_package_mismatch", "exit package path has no external-effect role"⟩
  let expected ← effectId c bound.order.id effectRole head.leg
  let declared ← package.effectId
  refuseIf (declared != expected) "swp_exit_package_mismatch"
    "exit package effect ID is not derived from its Order, role, and leg"
  refuseIf
    (!effectBindings.any fun binding => binding.text "role" == some effectRole && binding.text "leg_id" == some head.leg)
    "swp_exit_package_mismatch" "exit package has no exact external-effect binding"

/-- The checks of a package that is not the provider's. -/
def verifyRequesterPackage (c : Crypto) (bound : BoundSession) (contract : Members) (effectBindings : List Value)
    (package : ExitPackage) (head : PackageHead) : Checked Unit := do
  let expected ← orRefuse
    ((requesterTopology bound.swapType).exits.find? fun exit => exit.legId = head.leg && exit.path = head.path)
    "swp_exit_package_mismatch" "exit package is not part of the requester flow topology"
  let rail ← contractLegRail contract head.leg
  refuseIf (rail != "bitcoin") "swp_exit_package_mismatch"
    "Bitcoin exit package was supplied for a non-Bitcoin contract leg"
  let leaf ← parseExitLeaf c package
  let verifier ← verifierForLeg contract head.leg
  checkTopology bound contract head leaf verifier expected
  let funding ← object (head.document.orNull "funding") "exit funding"
  let verification ← object (head.document.orNull "verification") "exit verification"
  checkFunding c contract funding verifier head.leg
  verifyExitBroadcastPolicy head.document contract leaf
  checkVerification c bound verification verifier head.path
  checkTree c bound funding verification verifier head.path leaf
  checkEffect c bound effectBindings package head

/-! ## Loop -/

/-- The commitment of the contract a package satisfies. -/
def admittedCommitment (commitments : List Value) (head : PackageHead) : Option Nat :=
  commitments.findIdx? fun commitment =>
    commitment.text "participant_role" == some head.role && commitment.text "leg_id" == some head.leg &&
      commitment.text "path" == some head.path && commitment.text "package_mode" == some head.mode &&
      commitment.text "package_sha256" == some head.digest

section Loop

-- `providerClaim` is `build_provider_submarine_claim_exit_package_for_bound`, the package the client derives
-- for the provider's side.
variable (c : Crypto) (providerClaim : BoundSession → Checked ExitPackage)

/-- One pass of the loop: the package is checked and its commitment joins those already matched. -/
def admitPackage (bound : BoundSession) (contract : Members) (commitments effectBindings : List Value)
    (matched : List Nat) (package : ExitPackage) : Checked (List Nat) := do
  let head ← packageHead c bound package
  if head.role = "provider" then
    let expected ← providerClaim bound
    refuseIf (expected != package) "swp_exit_package_mismatch"
      "provider claim package differs from the deterministic accepted-session package"
  else
    verifyRequesterPackage c bound contract effectBindings package head
  let index ← orRefuse (admittedCommitment commitments head) "swp_exit_package_mismatch"
    (if head.role = "provider" then "provider exit package has no exact Swap Contract commitment"
      else "exit package has no exact Swap Contract commitment")
  refuseIf (matched.contains index) "swp_exit_package_mismatch"
    "multiple exit packages satisfy one Swap Contract commitment"
  return index :: matched

def admitPackages (bound : BoundSession) (contract : Members) (commitments effectBindings : List Value) :
    List Nat → List ExitPackage → Checked (List Nat)
  | matched, [] => .ok matched
  | matched, package :: packages => do
    let matched ← admitPackage c providerClaim bound contract commitments effectBindings matched package
    admitPackages bound contract commitments effectBindings matched packages

/-- The indices of the commitments a requester must hold a Bitcoin package for. -/
def requiredCommitments (contract : Members) (commitments : List Value) : List Nat :=
  (commitments.zipIdx.filter fun (commitment, _) =>
    commitment.text "participant_role" == some "requester" &&
      (commitment.text "leg_id").any fun legId =>
        (contractLegRail contract legId).toOption == some "bitcoin").map (·.2)

def verifyExitPackages (packages : List ExitPackage) (bound : BoundSession) : Checked Unit := do
  let contract ← object bound.contract "Swap Contract"
  let commitments ← orRefuse (contract.items "exit_package_commitments") "swp_exit_package_missing"
    "Swap Contract has no exit package commitments"
  let effectBindings ← orRefuse (contract.items "effect_bindings") "swp_exit_package_mismatch"
    "Swap Contract has no external-effect bindings"
  let required := requiredCommitments contract commitments
  if packages = [] then
    refuseIf (required != []) "swp_exit_package_missing" "no Bitcoin exit package was persisted before funding"
  else
    let matched ← admitPackages c providerClaim bound contract commitments effectBindings [] packages
    refuseIf (!required.all matched.contains) "swp_exit_package_missing"
      "not every requester exit commitment has a persisted package"

end Loop

/-! ## What an admitted package says -/

section Inversion

variable {c : Crypto} {providerClaim : BoundSession → Checked ExitPackage} {bound : BoundSession}
variable {contract : Members} {commitments effectBindings : List Value}

/-- The package passed one pass of the loop and was counted for the commitment at `index`. -/
structure PackageAdmitted (c : Crypto) (bound : BoundSession) (contract : Members)
    (commitments effectBindings : List Value) (package : ExitPackage) (index : Nat) where
  head : PackageHead
  head_eq : packageHead c bound package = .ok head
  checked : head.role ≠ "provider" → verifyRequesterPackage c bound contract effectBindings package head = .ok ()
  index_eq : admittedCommitment commitments head = some index

variable {package : ExitPackage} {packages : List ExitPackage} {head : PackageHead} {commitment : Value}

theorem admitPackage_ok {matched matched' : List Nat}
    (h : admitPackage c providerClaim bound contract commitments effectBindings matched package = .ok matched') :
    ∃ index, matched' = index :: matched ∧
      Nonempty (PackageAdmitted c bound contract commitments effectBindings package index) := by
  obtain ⟨head, hhead, h⟩ := bind_eq_ok.mp h
  split at h
  · rename_i hrole
    simp only [bind_eq_ok, orRefuse_eq_ok] at h
    obtain ⟨expected, -, ⟨⟩, -, index, hindex, ⟨⟩, -, hresult⟩ := h
    cases hresult
    exact ⟨index, rfl, ⟨⟨head, hhead, fun hne => absurd hrole hne, hindex⟩⟩⟩
  · simp only [bind_eq_ok, orRefuse_eq_ok] at h
    obtain ⟨⟨⟩, hchecked, index, hindex, ⟨⟩, -, hresult⟩ := h
    cases hresult
    exact ⟨index, rfl, ⟨⟨head, hhead, fun _ => hchecked, hindex⟩⟩⟩

/-- The loop admits every package, and every commitment it has matched by the end was matched before or by
    one of the packages. -/
theorem admitPackages_ok {matched matched' : List Nat}
    (h : admitPackages c providerClaim bound contract commitments effectBindings matched packages = .ok matched') :
    (∀ package ∈ packages, ∃ index,
        Nonempty (PackageAdmitted c bound contract commitments effectBindings package index)) ∧
      ∀ index ∈ matched', index ∈ matched ∨ ∃ package ∈ packages,
        Nonempty (PackageAdmitted c bound contract commitments effectBindings package index) := by
  induction packages generalizing matched with
  | nil =>
    cases h
    exact ⟨fun package hmem => absurd hmem (List.not_mem_nil), fun index hmem => .inl hmem⟩
  | cons package packages ih =>
    obtain ⟨next, hnext, hrest⟩ := bind_eq_ok.mp h
    obtain ⟨index, rfl, hadmitted⟩ := admitPackage_ok hnext
    obtain ⟨hall, hmatched⟩ := ih hrest
    constructor
    · intro other hmem
      rcases List.mem_cons.mp hmem with rfl | hmem
      · exact ⟨index, hadmitted⟩
      · exact hall other hmem
    · intro i hmem
      rcases hmatched i hmem with hi | ⟨other, hother, hi⟩
      · rcases List.mem_cons.mp hi with rfl | hi
        · exact .inr ⟨package, List.mem_cons_self, hadmitted⟩
        · exact .inl hi
      · exact .inr ⟨other, .tail _ hother, hi⟩

/-- **Accepted packages.** Each package was admitted, and each commitment the requester needs a package for
    was matched by one. -/
theorem verifyExitPackages_ok (h : verifyExitPackages c providerClaim packages bound = .ok ()) :
    ∃ (contract : Members) (commitments effectBindings : List Value), bound.contract = .object contract ∧
      contract.items "exit_package_commitments" = some commitments ∧
      (∀ package ∈ packages, ∃ index,
        Nonempty (PackageAdmitted c bound contract commitments effectBindings package index)) ∧
      ∀ index ∈ requiredCommitments contract commitments, ∃ package ∈ packages,
        Nonempty (PackageAdmitted c bound contract commitments effectBindings package index) := by
  simp only [verifyExitPackages, bind_eq_ok, object_eq_ok, orRefuse_eq_ok] at h
  obtain ⟨contract, hcontract, commitments, hcommitments, effectBindings, -, h⟩ := h
  refine ⟨contract, commitments, effectBindings, hcontract, hcommitments, ?_⟩
  split at h
  · rename_i hempty
    subst hempty
    have hrequired : requiredCommitments contract commitments = [] := by simpa using h
    rw [hrequired]
    exact ⟨fun package hmem => absurd hmem List.not_mem_nil, fun index hmem => absurd hmem List.not_mem_nil⟩
  · simp only [bind_eq_ok] at h
    obtain ⟨matched, hmatched, hrequired⟩ := h
    obtain ⟨hall, hback⟩ := admitPackages_ok hmatched
    refine ⟨hall, fun index hmem => ?_⟩
    have hin : index ∈ matched := by
      have hrequired' : ∀ i ∈ requiredCommitments contract commitments, i ∈ matched := by simpa using hrequired
      exact hrequired' index hmem
    exact (hback index hin).resolve_left List.not_mem_nil

/-- What the checks of a requester package establish about its leg: the verifier, the accepted tree and the
    control block that opens the funding output. -/
theorem verifyRequesterPackage_ok (h : verifyRequesterPackage c bound contract effectBindings package head = .ok ()) :
    ∃ (verifier funding verification : Members) (script controlBlock : Bytes) (outputKey : Bytes32),
      contractLegRail contract head.leg = .ok "bitcoin" ∧ verifierForLeg contract head.leg = .ok verifier ∧
      head.document.orNull "funding" = .object funding ∧ head.document.orNull "verification" = .object verification ∧
      Nonempty (AcceptedTree c verification verifier bound.paymentHash head.path script controlBlock) ∧
      scriptOutputKey c (funding.text "script_pubkey") = .ok outputKey ∧
      verifyControlBlock c outputKey script controlBlock = .ok () := by
  simp only [verifyRequesterPackage, checkTree, bind_eq_ok, object_eq_ok,
    fromVerified_eq_ok] at h
  obtain ⟨expected, -, rail, hrail, ⟨⟩, hbitcoin, leaf, -, verifier, hverifier, ⟨⟩, -, funding, hfunding,
    verification, hverification, ⟨⟩, -, ⟨⟩, -, ⟨⟩, -, ⟨⟩, ⟨⟨script, controlBlock, digest⟩, htree, ⟨⟩, -,
    outputKey, houtput, hcontrol⟩, -⟩ := h
  have hrail' : rail = "bitcoin" := by simpa using hbitcoin
  subst hrail'
  exact ⟨verifier, funding, verification, script, controlBlock, outputKey, hrail, hverifier, hfunding,
    hverification, verifyDeclaredSwapTree_ok htree, houtput, hcontrol⟩

/-- The head of a package reads its document. -/
theorem packageHead_ok (h : packageHead c bound package = .ok head) :
    package.document = .object head.document ∧ package.document.text "participant_role" = some head.role ∧
      package.document.text "leg_id" = some head.leg ∧ package.path = .ok head.path := by
  simp only [packageHead, bind_eq_ok, object_eq_ok, requireString_eq_ok] at h
  obtain ⟨document, hdocument, ⟨⟩, -, ids, -, ⟨⟩, -, digest, -, role, hrole, leg, hleg, path, hpath, mode, -,
    hresult⟩ := h
  cases hresult
  rw [hdocument]
  exact ⟨rfl, hrole, hleg, hpath⟩

/-- A requester commitment for a Bitcoin leg is one a package is required for. -/
theorem mem_requiredCommitments {legId : String} (hmem : commitment ∈ commitments)
    (hrole : commitment.text "participant_role" = some "requester") (hleg : commitment.text "leg_id" = some legId)
    (hrail : contractLegRail contract legId = .ok "bitcoin") :
    ∃ index ∈ requiredCommitments contract commitments, commitments[index]? = some commitment := by
  obtain ⟨index, hindex⟩ := List.mem_iff_getElem?.mp hmem
  refine ⟨index, ?_, hindex⟩
  rw [requiredCommitments, List.mem_map]
  refine ⟨(commitment, index), ?_, rfl⟩
  rw [List.mem_filter]
  refine ⟨?_, ?_⟩
  · rw [List.mem_zipIdx_iff_getElem?]
    exact hindex
  · simp [hrole, hleg, hrail, Except.toOption]

/-- The head of a package counted for a commitment has the commitment's leg and participant. -/
theorem admittedCommitment_head {index : Nat} (h : admittedCommitment commitments head = some index)
    (hindex : commitments[index]? = some commitment) :
    commitment.text "participant_role" = some head.role ∧ commitment.text "leg_id" = some head.leg := by
  rw [admittedCommitment, List.findIdx?_eq_some_iff_getElem] at h
  obtain ⟨hlt, hmatch, -⟩ := h
  have hcommitment : commitments[index] = commitment := by
    rw [List.getElem?_eq_getElem hlt] at hindex
    exact Option.some.inj hindex
  rw [hcommitment] at hmatch
  simp only [Bool.and_eq_true, beq_iff_eq] at hmatch
  exact ⟨hmatch.1.1.1.1, hmatch.1.1.1.2⟩

/-- **Every required exit has an accepted tree.** Accepted packages include, for each requester commitment on
    a Bitcoin leg, one whose declared tree was accepted for the leg's verifier. -/
theorem accepted_tree_of_commitment {legId : String} (h : verifyExitPackages c providerClaim packages bound = .ok ())
    (hcontract : bound.contract = .object contract)
    (hcommitments : contract.items "exit_package_commitments" = some commitments) (hmem : commitment ∈ commitments)
    (hrole : commitment.text "participant_role" = some "requester") (hleg : commitment.text "leg_id" = some legId)
    (hrail : contractLegRail contract legId = .ok "bitcoin") :
    ∃ (verifier verification : Members) (path : String) (script controlBlock : Bytes),
      verifierForLeg contract legId = .ok verifier ∧
      Nonempty (AcceptedTree c verification verifier bound.paymentHash path script controlBlock) := by
  obtain ⟨contract', commitments', effectBindings, hcontract', hcommitments', -, hrequired⟩ := verifyExitPackages_ok h
  obtain rfl : contract = contract' := by
    rw [hcontract] at hcontract'
    exact Value.object.inj hcontract'
  obtain rfl : commitments = commitments' := by
    rw [hcommitments] at hcommitments'
    exact Option.some.inj hcommitments'
  obtain ⟨index, hindex, hat⟩ := mem_requiredCommitments hmem hrole hleg hrail
  obtain ⟨package, -, ⟨admitted⟩⟩ := hrequired index hindex
  obtain ⟨hheadRole, hheadLeg⟩ := admittedCommitment_head admitted.index_eq hat
  have hnotProvider : admitted.head.role ≠ "provider" := by
    intro hprovider
    rw [hrole, hprovider] at hheadRole
    exact absurd (Option.some.inj hheadRole) (by decide)
  have hlegEq : admitted.head.leg = legId := by
    rw [hleg] at hheadLeg
    exact (Option.some.inj hheadLeg).symm
  obtain ⟨verifier, funding, verification, script, controlBlock, outputKey, -, hverifier, -, -, htree, -, -⟩ :=
    verifyRequesterPackage_ok (admitted.checked hnotProvider)
  rw [hlegEq] at hverifier
  exact ⟨verifier, verification, admitted.head.path, script, controlBlock, hverifier, htree⟩

end Inversion

end Immortal.Client
