import Immortal.Client.ExitPackage

/-!
# `Immortal.Client.SpendingPaths` — which scripts can spend the output a requester relies on

A requester's exit package is safe to rely on when the funding output commits to the two declared leaves and
to nothing else. The client checks the tree piece by piece: leaf scripts hashed at version `0xc0`, the sibling
hash and the internal key inside the control block, the Merkle root text, and the control block against the
output key. The last check takes the leaf version from the control block itself, so the pieces force one tree
exactly when that version is `0xc0`.
-/

namespace Immortal.Client

open Immortal.Bitcoin

/-! ## Readers -/

/-- The package belongs to the requester. -/
def ExitPackage.isRequester (package : ExitPackage) : Bool :=
  package.document.text "participant_role" == some "requester"

/-- The Taproot key of the package's funding output. -/
def ExitPackage.fundingOutputKey (c : Crypto) (package : ExitPackage) : Option Bytes32 :=
  (scriptOutputKey c ((package.document.get "funding").bind (·.text "script_pubkey"))).toOption

/-- The control block of the package. -/
def ExitPackage.controlBlock (package : ExitPackage) : Option Bytes :=
  ((package.document.get "verification").bind (·.text "taproot_control_block")).bind fun text =>
    (decodeHex text "exit Taproot control block").toOption

/-- The verifier of the leg the package is for. -/
def ExitPackage.legVerifier (bound : BoundSession) (package : ExitPackage) : Option Members :=
  (package.document.text "leg_id").bind fun leg =>
    bound.contract.asObject.bind fun contract => (verifierForLeg contract leg).toOption

/-! ## Purpose -/

/-- The messages hashed when a script and its control block are checked. -/
def controlMessages (c : Crypto) (script controlBlock : Bytes) : List Bytes :=
  let leaf := leafMessage c (controlLeafVersion controlBlock) script
  let root := pathRoot c (c.sha256 leaf) (controlPath controlBlock)
  leaf :: branchMessages c (c.sha256 leaf) (controlPath controlBlock) ++
    (Bytes32.ofBytes ((controlBlock.drop 1).take 32)).toList.map fun key => tweakMessage c key root

/-- The messages hashed for the output of two leaves at version `0xc0` under an internal key. -/
def treeMessages (c : Crypto) (key : Bytes32) (claim refund : Bytes) : List Bytes :=
  let claimLeaf := leafMessage c 0xc0 claim
  let refundLeaf := leafMessage c 0xc0 refund
  [claimLeaf, refundLeaf, branchMessage c (c.sha256 claimLeaf) (c.sha256 refundLeaf),
    tweakMessage c key (tapbranchHash c (c.sha256 claimLeaf) (c.sha256 refundLeaf))]

/-- The messages of the tree a verifier declares. -/
def declaredMessages (c : Crypto) (verifier : Members) : List Bytes :=
  match (cooperativeAggregateKey c verifier).toOption, declaredScript verifier "claim",
    declaredScript verifier "refund" with
  | some key, some claim, some refund => treeMessages c key claim refund
  | _, _, _ => []

/-- The script the package spends: the one declared for its path. -/
def ExitPackage.script (bound : BoundSession) (package : ExitPackage) : Option Bytes :=
  package.path.toOption.bind fun path => (package.legVerifier bound).bind (declaredScript · path)

/-- The messages of the tree declared for a package's leg, and of the package's own script and control
    block. -/
def ExitPackage.messages (c : Crypto) (bound : BoundSession) (package : ExitPackage) : List Bytes :=
  ((package.legVerifier bound).map (declaredMessages c)).getD [] ++
    match package.script bound, package.controlBlock with
    | some script, some controlBlock => controlMessages c script controlBlock
    | _, _ => []

/-- The funding output key of the package is exactly the one of the declared conditions. -/
def DeclaredOutput (c : Crypto) (bound : BoundSession) (package : ExitPackage) : Prop :=
  ∃ verifier key, package.legVerifier bound = some verifier ∧ package.fundingOutputKey c = some key ∧
    declaredOutputKey c verifier = some key

/-- Every script path that opens the funding output, among the messages anybody has hashed, is one of the two
    declared leaves at version `0xc0`. -/
def DeclaredSpends (c : Crypto) (known : Set Bytes) (bound : BoundSession) (package : ExitPackage) : Prop :=
  ∀ verifier key script controlBlock, package.legVerifier bound = some verifier →
    package.fundingOutputKey c = some key → (∀ m ∈ controlMessages c script controlBlock, m ∈ known) →
    verifyControlBlock c key script controlBlock = .ok () →
    controlLeafVersion controlBlock = 0xc0 ∧
      (declaredScript verifier "claim" = some script ∨ declaredScript verifier "refund" = some script)

/-! ## Result -/

/-- What acceptance establishes about a requester package: its control block opens the funding output with
    one declared script, under the control block's own leaf version, next to the other declared script. -/
structure OpenedTree (c : Crypto) (bound : BoundSession) (package : ExitPackage) where
  verifier : Members
  key : Bytes32
  claim : Bytes
  refund : Bytes
  selected : Bytes
  sibling : Bytes
  controlBlock : Bytes
  outputKey : Bytes32
  parity : Parity
  verifier_eq : package.legVerifier bound = some verifier
  output_eq : package.fundingOutputKey c = some outputKey
  control_eq : package.controlBlock = some controlBlock
  selected_eq : package.script bound = some selected
  key_eq : cooperativeAggregateKey c verifier = .ok key
  claim_eq : declaredScript verifier "claim" = some claim
  refund_eq : declaredScript verifier "refund" = some refund
  claim_length : claim.length ≤ maxScriptBytes
  refund_length : refund.length ≤ maxScriptBytes
  pair : (selected = claim ∧ sibling = refund) ∨ (selected = refund ∧ sibling = claim)
  opens : taprootOutputKey c key
    (tapbranchHash c (c.sha256 (leafMessage c (controlLeafVersion controlBlock) selected))
      (c.sha256 (leafMessage c 0xc0 sibling))) = .ok (outputKey, parity)
  spends : verifyControlBlock c outputKey selected controlBlock = .ok ()

section Result

variable {c : Crypto} {known : Set Bytes} {bound : BoundSession} {package : ExitPackage}

/-- A control block of 65 bytes lists one sibling. -/
theorem controlPath_single {controlBlock : Bytes} {sibling : Bytes32} (hlength : controlBlock.length = 65)
    (hsibling : controlBlock.drop 33 = sibling.1) : controlPath controlBlock = [sibling] := by
  have htake : Bytes32.ofBytes (sibling.1.take 32) = some sibling := by
    rw [Bytes32.ofBytes_eq_some, List.take_of_length_le (by rw [sibling.2])]
  rw [controlPath, hlength, hsibling]
  show siblings 1 sibling.1 = [sibling]
  simp only [siblings, htake]

/-- The claim and refund scripts of an accepted tree, with the leaf the package selected and its sibling. -/
theorem AcceptedTree.scripts {verification verifier : Members} {paymentHash path : String}
    {script controlBlock : Bytes}
    (t : AcceptedTree c verification verifier paymentHash path script controlBlock) :
    ∃ claim refund, declaredScript verifier "claim" = some claim ∧ declaredScript verifier "refund" = some refund ∧
      claim.length ≤ maxScriptBytes ∧ refund.length ≤ maxScriptBytes ∧
      t.sibling.hash = c.sha256 (leafMessage c 0xc0 t.sibling.script) ∧
      declaredScript verifier path = some script ∧
      ((script = claim ∧ t.sibling.script = refund) ∨ (script = refund ∧ t.sibling.script = claim)) := by
  have hleaves : ∀ {name : String}, name = "claim" ∨ name = "refund" → _ := t.leaf_for
  obtain ⟨declared, claim, hclaim, hclaimAccepted, hclaimPath, hclaimLeaf⟩ := hleaves (.inl rfl)
  obtain ⟨declared', refund, hrefund, hrefundAccepted, hrefundPath, hrefundLeaf⟩ := hleaves (.inr rfl)
  obtain ⟨-, hclaimLength, hclaimHash⟩ := tapleafHash_eq_ok.mp hclaimAccepted.hash
  obtain ⟨-, hrefundLength, hrefundHash⟩ := tapleafHash_eq_ok.mp hrefundAccepted.hash
  have hne : claim ≠ refund := by
    intro heq
    rw [← heq, hclaimPath] at hrefundPath
    exact absurd hrefundPath (by decide)
  -- the selected leaf and its sibling are the two leaves of the tree, in one order or the other
  obtain ⟨hselectedPath, horder⟩ := selectLeaf_pair t.select_eq
  have hselect : (t.selected = claim ∧ t.sibling = refund) ∨ (t.selected = refund ∧ t.sibling = claim) := by
    rcases horder with ⟨hs, hb⟩ | ⟨hs, hb⟩ <;>
      rcases hclaimLeaf with hc | hc <;> rcases hrefundLeaf with hr | hr
    · exact absurd (hc.trans hr.symm) hne
    · exact .inl ⟨hs.trans hc.symm, hb.trans hr.symm⟩
    · exact .inr ⟨hs.trans hr.symm, hb.trans hc.symm⟩
    · exact absurd (hc.trans hr.symm) hne
    · exact absurd (hc.trans hr.symm) hne
    · exact .inr ⟨hs.trans hr.symm, hb.trans hc.symm⟩
    · exact .inl ⟨hs.trans hc.symm, hb.trans hr.symm⟩
    · exact absurd (hc.trans hr.symm) hne
  have hscript := t.script_eq
  have hclaimScript := hclaimAccepted.declaredScript_eq hclaim
  have hrefundScript := hrefundAccepted.declaredScript_eq hrefund
  refine ⟨claim.script, refund.script, hclaimScript, hrefundScript, hclaimLength, hrefundLength, ?_, ?_, ?_⟩
  · rcases hselect with ⟨-, h⟩ | ⟨-, h⟩
    · rw [h, hrefundHash]
    · rw [h, hclaimHash]
  · rcases hselect with ⟨hs, -⟩ | ⟨hs, -⟩
    · rw [hs] at hselectedPath hscript
      exact (congrArg (declaredScript verifier) (hselectedPath.symm.trans hclaimPath)).trans
        (hclaimScript.trans (congrArg some hscript.symm))
    · rw [hs] at hselectedPath hscript
      exact (congrArg (declaredScript verifier) (hselectedPath.symm.trans hrefundPath)).trans
        (hrefundScript.trans (congrArg some hscript.symm))
  · rcases hselect with ⟨hs, hb⟩ | ⟨hs, hb⟩
    · exact .inl ⟨hscript.trans (by rw [hs]), by rw [hb]⟩
    · exact .inr ⟨hscript.trans (by rw [hs]), by rw [hb]⟩

/-- The text member of an object-valued member of the document. -/
theorem document_text {document funding : Members} {member name : String}
    (h : document.orNull member = .object funding) :
    ((Value.object document).get member).bind (·.text name) = funding.text name := by
  have hget : document.get member = some (.object funding) := by
    cases hm : document.get member with
    | none =>
      rw [Members.orNull, hm] at h
      cases h
    | some value =>
      rw [Members.orNull, hm] at h
      exact congrArg some h
  show ((document.get member).bind (·.text name)) = funding.text name
  rw [hget]
  rfl

theorem opened_of_admitted {contract : Members} {commitments effectBindings : List Value} {index : Nat}
    (hcontract : bound.contract = .object contract)
    (h : PackageAdmitted c bound contract commitments effectBindings package index)
    (hrequester : package.isRequester = true) : Nonempty (OpenedTree c bound package) := by
  obtain ⟨head, hhead, hchecked, -⟩ := h
  obtain ⟨hdocument, hrole, hleg, hpackagePath⟩ := packageHead_ok hhead
  have hrole' : head.role ≠ "provider" := by
    simp only [ExitPackage.isRequester, hrole, beq_iff_eq, Option.some.injEq] at hrequester
    rw [hrequester]
    decide
  obtain ⟨verifier, funding, verification, script, controlBlock, outputKey, -, hverifier, hfunding, hverification,
    ⟨t⟩, houtput, hcontrol⟩ := verifyRequesterPackage_ok (hchecked hrole')
  obtain ⟨claim, refund, hclaim, hrefund, hclaimLength, hrefundLength, hsibling, hselected, hpair⟩ := t.scripts
  obtain ⟨internalKey, parity, hinternal, -, hopens⟩ := verifyControlBlock_opens hcontrol
  have hpath := controlPath_single t.control_length t.control_sibling
  have hkey : internalKey = t.key := Subtype.ext (hinternal.trans t.control_key)
  rw [hpath, hkey] at hopens
  rw [hsibling] at hopens
  obtain ⟨text, htext, hdecode⟩ := t.control_eq
  have hlegVerifier : package.legVerifier bound = some verifier := by
    simp [ExitPackage.legVerifier, hleg, hcontract, Value.asObject, hverifier, Except.toOption]
  refine ⟨⟨verifier, t.key, claim, refund, script, t.sibling.script, controlBlock, outputKey, parity, hlegVerifier,
    ?_, ?_, ?_, t.key_eq, hclaim, hrefund, hclaimLength, hrefundLength, hpair, hopens, hcontrol⟩⟩
  · rw [ExitPackage.fundingOutputKey, hdocument, document_text hfunding, houtput]
    rfl
  · rw [ExitPackage.controlBlock, hdocument, document_text hverification, htext]
    simp [hdecode, Except.toOption]
  · simp [ExitPackage.script, hpackagePath, Except.toOption, hlegVerifier, hselected]

/-- The root of the declared tree. -/
def OpenedTree.declaredRoot (o : OpenedTree c bound package) : Bytes32 :=
  tapbranchHash c (c.sha256 (leafMessage c 0xc0 o.claim)) (c.sha256 (leafMessage c 0xc0 o.refund))

variable (o : OpenedTree c bound package)

theorem OpenedTree.declaredOutputKey_eq :
    declaredOutputKey c o.verifier = (taprootOutputKey c o.key o.declaredRoot).toOption.map (·.1) := by
  have hclaim : tapleafHash c 0xc0 o.claim = .ok (c.sha256 (leafMessage c 0xc0 o.claim)) :=
    tapleafHash_eq_ok.mpr ⟨by decide, o.claim_length, rfl⟩
  have hrefund : tapleafHash c 0xc0 o.refund = .ok (c.sha256 (leafMessage c 0xc0 o.refund)) :=
    tapleafHash_eq_ok.mpr ⟨by decide, o.refund_length, rfl⟩
  have hbind : ∀ {ε α β : Type} (v : α) (f : α → Option β), ((Except.ok v : Except ε α).toOption >>= f) = f v :=
    fun _ _ => rfl
  have hsome : ∀ {α β : Type} (v : α) (f : α → Option β), (some v >>= f) = f v := fun _ _ => rfl
  simp only [declaredOutputKey, o.key_eq, o.claim_eq, o.refund_eq, hclaim, hrefund, hbind, hsome,
    OpenedTree.declaredRoot]
  cases taprootOutputKey c o.key _ <;> rfl

/-- With the declared leaf version the opened root is the declared one: a branch does not order its
    children. -/
theorem OpenedTree.root_of_version
    (hversion : controlLeafVersion o.controlBlock = 0xc0) :
    taprootOutputKey c o.key o.declaredRoot = .ok (o.outputKey, o.parity) := by
  have hopens := o.opens
  rw [hversion] at hopens
  rcases o.pair with ⟨hs, hb⟩ | ⟨hs, hb⟩
  · rw [hs, hb] at hopens
    exact hopens
  · rw [hs, hb, tapbranchHash_comm] at hopens
    exact hopens

/-- The messages of an opened tree are among those of its package. -/
theorem OpenedTree.messages_known
    (hknown : ∀ m ∈ package.messages c bound, m ∈ known) :
    (∀ m ∈ treeMessages c o.key o.claim o.refund, m ∈ known) ∧
      ∀ m ∈ controlMessages c o.selected o.controlBlock, m ∈ known := by
  have hdeclared : declaredMessages c o.verifier = treeMessages c o.key o.claim o.refund := by
    simp [declaredMessages, o.key_eq, o.claim_eq, o.refund_eq, Except.toOption]
  have hmessages : package.messages c bound = treeMessages c o.key o.claim o.refund ++
      controlMessages c o.selected o.controlBlock := by
    simp [ExitPackage.messages, o.verifier_eq, o.control_eq, o.selected_eq, hdeclared]
  rw [hmessages] at hknown
  exact ⟨fun m hm => hknown m (List.mem_append_left _ hm), fun m hm => hknown m (List.mem_append_right _ hm)⟩

/-- **A spend of the declared output uses a declared leaf.** -/
theorem OpenedTree.declared_of_spend (hb : c.Binding known)
    (htree : ∀ m ∈ treeMessages c o.key o.claim o.refund, m ∈ known) {parity : Parity}
    (hroot : taprootOutputKey c o.key o.declaredRoot = .ok (o.outputKey, parity)) {script controlBlock : Bytes}
    (hmessages : ∀ m ∈ controlMessages c script controlBlock, m ∈ known)
    (hspend : verifyControlBlock c o.outputKey script controlBlock = .ok ()) :
    controlLeafVersion controlBlock = 0xc0 ∧ (script = o.claim ∨ script = o.refund) := by
  obtain ⟨internalKey, spendParity, hinternal, hlength, hopens⟩ := verifyControlBlock_opens hspend
  have hkey : Bytes32.ofBytes ((controlBlock.drop 1).take 32) = some internalKey :=
    Bytes32.ofBytes_eq_some.mpr hinternal
  simp only [controlMessages, hkey, List.cons_append, List.mem_cons, List.mem_append] at hmessages
  simp only [treeMessages, List.mem_cons] at htree
  -- the two commitments give one output key, so they have one internal key and one root
  obtain ⟨-, hroots⟩ := hb.outputKey_inj (hmessages _ (.inr (.inr (by simp)))) (htree _ (.inr (.inr (.inr (.inl rfl)))))
    hopens hroot
  have hleaf := hb.pathRoot_eq_branch (hmessages _ (.inl rfl)) (htree _ (.inl rfl)) (htree _ (.inr (.inl rfl)))
    (htree _ (.inr (.inr (.inl rfl)))) (fun m hm => hmessages m (.inr (.inl hm))) hroots
  rcases hleaf with h | h
  · obtain ⟨hversion, hscript⟩ := leafMessage_inj hlength o.claim_length h
    exact ⟨hversion, .inl hscript⟩
  · obtain ⟨hversion, hscript⟩ := leafMessage_inj hlength o.refund_length h
    exact ⟨hversion, .inr hscript⟩

theorem OpenedTree.declaredOutput_iff :
    DeclaredOutput c bound package ↔
      ∃ parity, taprootOutputKey c o.key o.declaredRoot = .ok (o.outputKey, parity) := by
  constructor
  · rintro ⟨verifier, key, hverifier, hkey, hdeclared⟩
    obtain rfl := Option.some.inj (o.verifier_eq.symm.trans hverifier)
    obtain rfl := Option.some.inj (o.output_eq.symm.trans hkey)
    rw [o.declaredOutputKey_eq] at hdeclared
    cases houtput : taprootOutputKey c o.key o.declaredRoot with
    | error e =>
      rw [houtput] at hdeclared
      cases hdeclared
    | ok output =>
      rw [houtput] at hdeclared
      exact ⟨output.2, by rw [← Option.some.inj hdeclared]⟩
  · rintro ⟨parity, houtput⟩
    refine ⟨o.verifier, o.outputKey, o.verifier_eq, o.output_eq, ?_⟩
    rw [o.declaredOutputKey_eq, houtput]
    rfl

end Result

/-- **Spending paths of an accepted package.** For every accepted package list and every requester package in
    it, the funding output is the declared one and only the two declared leaves can spend it by script, exactly
    when the leaf version bits of the package's control block are `0xc0`. -/
theorem declared_paths_iff_leaf_version (c : Crypto) (providerClaim : BoundSession → Checked ExitPackage)
    (known : Set Bytes) (hb : c.Binding known) (bound : BoundSession) (packages : List ExitPackage)
    (haccepted : verifyExitPackages c providerClaim packages bound = .ok ())
    (hknown : ∀ package ∈ packages, package.isRequester = true → ∀ m ∈ package.messages c bound, m ∈ known) :
    ∀ package ∈ packages, package.isRequester = true →
      ((DeclaredOutput c bound package ∧ DeclaredSpends c known bound package) ↔
        package.controlBlock.map controlLeafVersion = some 0xc0) := by
  intro package hmem hrequester
  obtain ⟨contract, commitments, effectBindings, hcontract, -, hall, -⟩ := verifyExitPackages_ok haccepted
  obtain ⟨index, ⟨hadmitted⟩⟩ := hall package hmem
  obtain ⟨o⟩ := opened_of_admitted hcontract hadmitted hrequester
  have hmessages := hknown package hmem hrequester
  rw [o.declaredOutput_iff, o.control_eq, Option.map_some, Option.some.injEq]
  constructor
  · -- the package's own control block is a spend of the declared output
    rintro ⟨⟨parity, hroot⟩, -⟩
    obtain ⟨htree, hcontrol⟩ := o.messages_known hmessages
    exact (o.declared_of_spend hb htree hroot hcontrol o.spends).1
  · intro hversion
    have hroot := o.root_of_version hversion
    refine ⟨⟨o.parity, hroot⟩, ?_⟩
    intro verifier key script controlBlock hverifier hkey hcontrol hspend
    obtain rfl := Option.some.inj (o.verifier_eq.symm.trans hverifier)
    obtain rfl := Option.some.inj (o.output_eq.symm.trans hkey)
    obtain ⟨hspendVersion, hscript⟩ := o.declared_of_spend hb (o.messages_known hmessages).1 hroot hcontrol hspend
    refine ⟨hspendVersion, ?_⟩
    rw [o.claim_eq, o.refund_eq]
    exact hscript.imp (fun h => by rw [h]) (fun h => by rw [h])

/-! ## A session with an undeclared leaf

The submarine session of `tests/fixtures/nipmkt/swp-full-sessions-v1.json`, with the exit package left to the
wallet's signature (`wallet_sign`). -/

def fixturePaymentHash : String := "96c772a829fb7c780410f1d85cf12a89e8b3c78c0bac5fb47f62758bf961ec30"

def fixtureNetwork : String := "bip122:00000000000000000000000000000000"

def fixtureChainAsset : String := "swp:1:" ++ fixtureNetwork ++ ":btc:chain"

def fixtureLightningAsset : String := "swp:1:" ++ fixtureNetwork ++ ":btc:lightning"

def fixtureClaimKey : String := "bbd689549767c8212e45f6c88ed15e0422dddcff33c6b8271f7fdf75c2a3eb24"

def fixtureRefundKey : String := "716022efaca232dd8a7927619a9e5f1eb8f1c8b87436a52a03ae7e1239a1662a"

def fixtureInternalKey : String := "08228c6db36b8b938de59d8021472522e721233bf4f397f951c5f26f15e5d968"

def fixtureTreeSha256 : String := "74b6d711dd4f9a005fed1f42da64b3f34d1cadfdd2bb1627429064bedd9f592c"

def fixtureInvoiceSha256 : String := "b0a570bb4ee56b4c1a2dfa43e1238af4be827e9bee7b17dd5ab85e27f01fead6"

def fixtureSessionId : String := "aaaaaaaaaaaaaaaaaaaaaaaaaaaaaaaaaaaaaaaaaaaaaaaaaaaaaaaaaaaaaaaa"

def fixtureRequesterKey : String := "02f1b8edbd1a8eeb445525be99f424f605c938c71769923591c8a87fcd4b075533"

def fixtureProviderKey : String := "038e2a9fb8bec0fc322553883c11da325c952a37ccb8473a021ce8a7d1198b5ee4"

def fixtureClaimScript : String := "82012088a820" ++ fixturePaymentHash ++ "8820" ++ fixtureClaimKey ++ "ac"

def fixtureRefundScript : String := "028c00b17520" ++ fixtureRefundKey ++ "ac"

/-- The texts in which two variants of the fixture session differ: the first byte of the control block, what
    follows from it, and the refund height of the timeout ladder. -/
structure FixtureTexts where
  leafByte : String
  outputKey : String
  fundingSha256 : String
  fundingId : String
  exitSha256 : String
  verifierDigest : String
  packageSha256 : String
  contractSha256 : String
  quoteId : String
  orderId : String
  requesterContractId : String
  providerContractId : String
  effectId : String
  refundFirst : Int

/-- The hash of the claim leaf at version `0xc0`. -/
def fixtureClaimLeaf : String := "ad4f0cd39b48ad95bd00c6f1f1d08ff3a776c62c9c0e7832b71cdf87d5834bcd"

variable (t : FixtureTexts)

def FixtureTexts.controlBlock : String := t.leafByte ++ fixtureInternalKey ++ fixtureClaimLeaf

def FixtureTexts.fundingTransaction : String :=
  "020000000163353e0378d496c4568be41b110a509d425732f29b8b201cc317d2ee3beba137ffffffff00ffffffff" ++
    "01a086010000000000225120" ++ t.outputKey ++ "00000000"

/-- The claim and refund leaves of the fixture leg. -/
def fixtureTree : Value :=
  .array [
    .object [
      ("condition", .string "hashlock"), ("lock_value", .null), ("participant_role", .string "provider"),
      ("path", .string "claim"), ("script", .string fixtureClaimScript),
      ("signing_pubkey", .string fixtureClaimKey)],
    .object [
      ("condition", .string "cltv"), ("lock_value", .string "140"),
      ("participant_role", .string "requester"), ("path", .string "refund"),
      ("script", .string fixtureRefundScript), ("signing_pubkey", .string fixtureRefundKey)]]

/-- The verifier of the fixture source leg. -/
def fixtureVerifier : Value :=
  .object [
    ("amount", .string "100000"), ("cooperative_internal_key", .string fixtureInternalKey),
    ("cooperative_pubkeys", .array [
      .object [
        ("participant_role", .string "requester"), ("public_key", .string fixtureRequesterKey)],
      .object [
        ("participant_role", .string "provider"), ("public_key", .string fixtureProviderKey)]]),
    ("evidence_authority", .object [
      ("adapter_sha256", .string "efefefefefefefefefefefefefefefefefefefefefefefefefefefefefefefef"),
      ("mode", .string "local"), ("pubkeys", .array [])]),
    ("exit_condition", .string "cltv"), ("exit_lock_value", .string "140"),
    ("exit_path", .string "refund"), ("exit_signing_pubkey", .string fixtureRefundKey),
    ("funding_transaction", .string t.fundingTransaction),
    ("funding_transaction_sha256", .string t.fundingSha256), ("leg_id", .string "source"),
    ("minimum_confirmations", .string "1"), ("output_index", .integer 0),
    ("rbf_policy", .string "reject"), ("reorg_safety_blocks", .string "6"),
    ("replacement_policy", .string "reject"), ("script_pubkey", .string ("5120" ++ t.outputKey)),
    ("swap_tree_sha256", .string fixtureTreeSha256), ("taproot_control_block", .string t.controlBlock),
    ("taproot_merkle_root", .string "4f6ce9a77947dcff265fd172014c0133e99f683b02fe7c9cb70dafe25b1bba0c"),
    ("taproot_output_key", .string t.outputKey), ("taproot_script", .string fixtureRefundScript),
    ("taproot_tree", fixtureTree), ("verifier_policy", .string "mkt-swp-bitcoin-v1"),
    ("zero_confirmation", .string "forbidden")]

/-- The confirmation policy of the fixture source leg. -/
def fixtureConfirmationPolicy : Value :=
  .object [("minimum_confirmations", .string "1"), ("replacement_policy", .string "reject")]

/-- The verifier of the fixture Lightning leg. -/
def fixtureLightningVerifier : Value :=
  .object [
    ("evidence_authority", .object [
      ("adapter_sha256", .string "efefefefefefefefefefefefefefefefefefefefefefefefefefefefefefefef"),
      ("mode", .string "local"), ("pubkeys", .array [])]),
    ("invoice_amount_msat", .string "1000000"), ("invoice_expiry_seconds", .string "604800"),
    ("invoice_minimum_final_cltv_delta", .string "18"), ("invoice_network", .string "bitcoin"),
    ("invoice_sha256", .string fixtureInvoiceSha256), ("leg_id", .string "lightning"),
    ("verifier_policy", .string "mkt-swp-lightning-v1")]

/-- The confirmation policy of the fixture RFQ, Quote and contract. -/
def fixturePolicy : Value :=
  .object [
    ("minimum_confirmations", .string "1"), ("rbf", .string "reject"),
    ("reorg_safety_blocks", .string "6"), ("replacement", .string "reject"),
    ("zero_confirmation", .string "forbidden")]

/-- The legs of the fixture contract. -/
def fixtureLegs : Value :=
  .array [
    .object [
      ("amount", .string "100000"), ("asset_id", .string fixtureChainAsset),
      ("claim_public_key", .string fixtureClaimKey), ("confirmation_policy", fixtureConfirmationPolicy),
      ("funding_role", .string "requester"), ("leg_id", .string "source"),
      ("network_id", .string fixtureNetwork), ("payment_hash", .string fixturePaymentHash),
      ("rail", .string "bitcoin"), ("receiving_role", .string "provider"),
      ("refund_condition", .string "cltv"), ("refund_lock_value", .string "140"),
      ("refund_public_key", .string fixtureRefundKey), ("script_pubkey", .string ("5120" ++ t.outputKey)),
      ("verifier_digest", .string t.verifierDigest), ("verifier_policy", .string "mkt-swp-bitcoin-v1")],
    .object [
      ("amount", .string "1000"), ("asset_id", .string fixtureLightningAsset),
      ("funding_role", .string "provider"), ("invoice_expiry_seconds", .string "604800"),
      ("invoice_minimum_final_cltv_delta", .string "18"), ("invoice_sha256", .string fixtureInvoiceSha256),
      ("leg_id", .string "lightning"), ("network_id", .string fixtureNetwork),
      ("payment_hash", .string fixturePaymentHash), ("rail", .string "lightning"),
      ("receiving_role", .string "requester"),
      ("verifier_digest", .string "aa62d18c31dce0a2bf66086781d3f2f5afe84e878d4763dd20c60c4fc68b4012"),
      ("verifier_policy", .string "mkt-swp-lightning-v1")]]

/-- The timeout ladder of the fixture contract. -/
def fixtureLadder : Value :=
  .object [
    ("broadcast_safety_blocks", .integer 2), ("chain_finality_blocks", .integer 1),
    ("claim_expected_time", .integer 1000), ("claim_last", .integer 120),
    ("current_height", .integer 100), ("fund_last", .integer 110),
    ("invoice_expiration_time", .integer 2000), ("refund_first", .integer t.refundFirst),
    ("reorg_safety_blocks", .integer 6), ("swap_type", .string "submarine")]

/-- The fixture Swap Contract. -/
def fixtureContract : Value :=
  .object [
    ("amount_equation", .string "input_minus_provider_and_quoted_fees"),
    ("asset_pair", .array [.string fixtureChainAsset, .string fixtureLightningAsset]),
    ("cancellation", .object [("effective_before_external_effect", .bool true)]),
    ("clock_skew_seconds", .string "60"), ("confirmation_policy", fixturePolicy),
    ("desired_completion_time", .integer 2000), ("effect_bindings", .array [
      .object [("leg_id", .string "source"), ("role", .string "chain_fund")],
      .object [("leg_id", .string "source"), ("role", .string "chain_refund")]]),
    ("evidence_requirements", .object [("minimum_rung", .string "verified")]), ("evm_leg", .null),
    ("exit_package_commitments", .array [
      .object [
        ("leg_id", .string "source"), ("package_mode", .string "wallet_sign"),
        ("package_sha256", .string t.packageSha256), ("participant_role", .string "requester"),
        ("path", .string "refund")]]),
    ("fee_bps", .string "9800"), ("fee_payer", .string "requester"), ("input_amount", .string "100000"),
    ("legs", fixtureLegs t), ("lightning_routing_fee_budget", .string "0"),
    ("maximum_total_fee", .string "99000"), ("miner_fee_budget", .string "1000"),
    ("order_id", .string t.orderId), ("output_amount", .string "1000"),
    ("payment_hash", .string fixturePaymentHash), ("price_feed", .null), ("provider_fee", .string "98000"),
    ("quote_id", .string t.quoteId), ("recovery", .object [
      ("channel", .string "direct_or_relay_agnostic"), ("exit_policy", .object [
        ("bump_mode", .string "cpfp"), ("earliest_broadcast_height", .string "140"),
        ("latest_safe_broadcast_height", .string "200"), ("maximum_fee", .string "1000"),
        ("target_blocks", .integer 2)])]),
    ("reservation_commitment", .object [
      ("allocation_sequence", .string "1"), ("capacity_bucket_id", .string "test-capacity"),
      ("capacity_commitment_sha256", .string "cdcdcdcdcdcdcdcdcdcdcdcdcdcdcdcdcdcdcdcdcdcdcdcdcdcdcdcdcdcdcdcd"),
      ("covenant_commitment", .null), ("handler_committed_capacity", .string "1000"),
      ("profile_timeout_at", .null), ("proof_class", .string "provider_signed"),
      ("proof_ref_sha256", .string "5ad22cb2ae24ed3188480c4656847d5eda46efdd14cf9c55678a267a722c741d"),
      ("proof_strength", .integer 10), ("quote_id", .string t.quoteId),
      ("reservation_class", .string "soft"), ("reservation_expires_at", .integer 900),
      ("reservation_id", .string "abababababababababababababababababababababababababababababababab"),
      ("reserved_amount", .string "1000"), ("reserved_asset_id", .string fixtureLightningAsset),
      ("rfq_id", .string "3c604f82823c8ce1aa661bc48fbbaf82f9363b563a2f981b0153fe8aca30267b"),
      ("session_id", .string fixtureSessionId)]),
    ("rounding", .string "floor_output_sats"), ("script_mode", .string "taproot-musig2-script-exit"),
    ("swap_type", .string "submarine"), ("timeout_ladder", fixtureLadder t),
    ("verifier_inputs", .array [fixtureVerifier t, fixtureLightningVerifier])]

/-- The fixture exit package. -/
def fixturePackage : ExitPackage :=
  ⟨.object [
    ("asset_id", .string fixtureChainAsset), ("broadcast", .object [
      ("esplora_urls", .array [.string "https://esplora.example/api"]),
      ("minimum_agreeing_sources", .integer 1)]),
    ("contract_sha256", .string t.contractSha256), ("effect_id", .string t.effectId), ("exit", .object [
      ("destination_script_pubkey", .string "51"), ("earliest_broadcast_height", .string "140"),
      ("fee_policy", .object [
        ("bump_mode", .string "cpfp"), ("maximum_fee", .string "1000"), ("target_blocks", .integer 2)]),
      ("input_sequence", .integer 4294967294), ("latest_safe_broadcast_height", .string "200"),
      ("lock_time", .integer 140), ("mode", .string "wallet_sign"), ("path", .string "refund"),
      ("sighash_type", .string "DEFAULT"), ("signed_transaction", .null),
      ("signer_ref", .string "wallet:requester"), ("transaction_template_sha256", .string t.exitSha256),
      ("transaction_version", .integer 2)]),
    ("funding", .object [
      ("amount", .string "100000"),
      ("confirmation_policy_sha256", .string "074cd4b12bd586e64e9c54198456512a825f075c1124d26aaa93a4fa23f59e9c"),
      ("output_index", .integer 0), ("script_pubkey", .string ("5120" ++ t.outputKey)),
      ("transaction_id", .string t.fundingId), ("transaction_template", .string t.fundingTransaction),
      ("transaction_template_sha256", .string t.fundingSha256)]),
    ("leg_id", .string "source"), ("network_id", .string fixtureNetwork), ("order_id", .string t.orderId),
    ("participant_role", .string "requester"), ("profile", .string "mkt-swp"),
    ("profile_version", .integer 1), ("schema", .string "openagents.mkt-swp.exit.v1"),
    ("secret_commitments", .object [
      ("payment_hash", .string fixturePaymentHash), ("preimage_recovery_ref", .null)]),
    ("swap_contract_ids", .array [.string t.requesterContractId, .string t.providerContractId]),
    ("verification", .object [
      ("quote_id", .string t.quoteId), ("swap_tree_sha256", .string fixtureTreeSha256),
      ("taproot_control_block", .string t.controlBlock), ("taproot_script", .string fixtureRefundScript),
      ("taproot_tree", fixtureTree), ("verifier_digest", .string t.verifierDigest)])]⟩

/-- The content of the fixture RFQ. -/
def fixtureRfqContent : Value :=
  .object [
    ("mkt_swp", .object [
      ("constraints", .object [
        ("allowed_script_modes", .array [.string "taproot-musig2-script-exit"]),
        ("asset_pair", .array [.string fixtureChainAsset, .string fixtureLightningAsset]),
        ("confirmation_policy", fixturePolicy), ("desired_completion_time", .integer 2000),
        ("firm_quote_required", .bool true), ("input_amount", .string "100000"),
        ("invoice_sha256", .string fixtureInvoiceSha256), ("maximum_total_fee", .string "99000"),
        ("payment_hash", .string fixturePaymentHash), ("requester_public_keys", .array [
          .object [
            ("leg_id", .string "source"), ("path", .string "refund"),
            ("public_key", .string fixtureRefundKey)]]),
        ("swap_type", .string "submarine")])]),
    ("profile", .string "mkt-swp"), ("profile_version", .integer 1),
    ("schema", .string "openagents.mkt.v1"), ("session_id", .string fixtureSessionId)]

/-- The content of the fixture Quote. -/
def fixtureQuoteContent : Value :=
  .object [
    ("mkt_swp", .object [
      ("reservation_terms", .object [
        ("allocation_sequence", .string "1"), ("capacity_bucket_id", .string "test-capacity"),
        ("capacity_commitment_sha256", .string "cdcdcdcdcdcdcdcdcdcdcdcdcdcdcdcdcdcdcdcdcdcdcdcdcdcdcdcdcdcdcdcd"),
        ("handler_committed_capacity", .string "1000"), ("proof_class", .string "provider_signed"),
        ("proof_ref", .string "provider-signed:test-capacity:1"),
        ("reservation_expires_at", .integer 900),
        ("reservation_id", .string "abababababababababababababababababababababababababababababababab"),
        ("reserved_amount", .string "1000"), ("reserved_asset_id", .string fixtureLightningAsset)]),
      ("terms", .object [
        ("amount_equation", .string "input_minus_provider_and_quoted_fees"),
        ("asset_pair", .array [.string fixtureChainAsset, .string fixtureLightningAsset]),
        ("cancellation", .object [("effective_before_external_effect", .bool true)]),
        ("clock_skew_seconds", .string "60"), ("confirmation_policy", fixturePolicy),
        ("desired_completion_time", .integer 2000),
        ("evidence_requirements", .object [("minimum_rung", .string "verified")]), ("evm_leg", .null),
        ("fee_bps", .string "9800"), ("fee_payer", .string "requester"),
        ("input_amount", .string "100000"), ("legs", fixtureLegs t),
        ("lightning_routing_fee_budget", .string "0"), ("maximum_total_fee", .string "99000"),
        ("miner_fee_budget", .string "1000"), ("output_amount", .string "1000"),
        ("payment_hash", .string fixturePaymentHash), ("price_feed", .null),
        ("provider_fee", .string "98000"), ("recovery", .object [
          ("channel", .string "direct_or_relay_agnostic"), ("exit_policy", .object [
            ("bump_mode", .string "cpfp"), ("earliest_broadcast_height", .string "140"),
            ("latest_safe_broadcast_height", .string "200"), ("maximum_fee", .string "1000"),
            ("target_blocks", .integer 2)])]),
        ("reservation_commitment", .object []), ("rounding", .string "floor_output_sats"),
        ("script_mode", .string "taproot-musig2-script-exit"), ("swap_type", .string "submarine"),
        ("timeout_ladder", fixtureLadder t),
        ("verifier_inputs", .array [fixtureVerifier t, fixtureLightningVerifier])])]),
    ("profile", .string "mkt-swp"), ("profile_version", .integer 1),
    ("schema", .string "openagents.mkt.v1"), ("session_id", .string fixtureSessionId)]

/-- The content of the fixture Order. -/
def fixtureOrderContent : Value :=
  .object [
    ("mkt_swp", .object [("accepted_quote_id", .string t.quoteId)]), ("profile", .string "mkt-swp"),
    ("profile_version", .integer 1), ("schema", .string "openagents.mkt.v1"),
    ("session_id", .string fixtureSessionId)]

/-- The content of a fixture Swap Contract record. -/
def fixtureContractContent (role : String) : Value :=
  .object [
    ("mkt_swp", .object [
      ("contract", fixtureContract t), ("contract_sha256", .string t.contractSha256),
      ("signer_role", .string role)]),
    ("profile", .string "mkt-swp"), ("profile_version", .integer 1),
    ("schema", .string "openagents.mkt.v1"), ("session_id", .string fixtureSessionId)]

def fixtureRequester : String := "5feab01607e3e322acc4026be4d9facb5caced28e37ae40b8ee5bd3f90c0b6fc"

def fixtureProvider : String := "17f3ae8fe51d350c3e7e1a38b9fc97e30737d74495bfbe63436adfb89cad71fd"

def fixtureOffering : String := "39601:" ++ fixtureProvider ++ ":btc-lightning-regtest"

def fixtureRfq : Record where
  id := "3c604f82823c8ce1aa661bc48fbbaf82f9363b563a2f981b0153fe8aca30267b"
  pubkey := fixtureRequester
  createdAt := 100
  kind := 39604
  tags := [["d", "1111111111111111111111111111111111111111111111111111111111111111"],
    ["session", fixtureSessionId], ["profile", "mkt-swp", "1"], ["p", fixtureProvider, "", "provider"],
    ["alt", "MKT-SWP RFQ"], ["a", fixtureOffering, "", "offering"], ["expiration", "1000"]]
  content := .ok fixtureRfqContent

def fixtureQuote : Record where
  id := t.quoteId
  pubkey := fixtureProvider
  createdAt := 101
  kind := 39605
  tags := [["d", "1212121212121212121212121212121212121212121212121212121212121212"],
    ["session", fixtureSessionId], ["profile", "mkt-swp", "1"], ["p", fixtureRequester, "", "requester"],
    ["alt", "MKT-SWP Quote"], ["e", fixtureRfq.id, "", "rfq"], ["expiration", "1000"], ["quote", "firm"],
    ["reservation", "soft"]]
  content := .ok (fixtureQuoteContent t)

def fixtureOrder : Record where
  id := t.orderId
  pubkey := fixtureRequester
  createdAt := 102
  kind := 39606
  tags := [["d", "1313131313131313131313131313131313131313131313131313131313131313"],
    ["session", fixtureSessionId], ["profile", "mkt-swp", "1"], ["p", fixtureProvider, "", "provider"],
    ["alt", "MKT-SWP Order"], ["e", t.quoteId, "", "quote"]]
  content := .ok (fixtureOrderContent t)

def fixtureSwapContract (id d pubkey counterparty role counterpartyRole : String)
    (createdAt : Nat) : Record where
  id := id
  pubkey := pubkey
  createdAt := createdAt
  kind := 39610
  tags := [["d", d], ["session", fixtureSessionId], ["profile", "mkt-swp", "1"], ["p", counterparty, "", counterpartyRole],
    ["alt", "MKT-SWP swap contract"], ["e", t.orderId, "", "order"], ["e", t.quoteId, "", "quote"],
    ["x", t.contractSha256], ["role", role]]
  content := .ok (fixtureContractContent t role)

def fixtureBound : BoundSession where
  sessionId := fixtureSessionId
  rfq := fixtureRfq
  quote := fixtureQuote t
  order := fixtureOrder t
  requesterContract :=
    fixtureSwapContract t t.requesterContractId "1414141414141414141414141414141414141414141414141414141414141414"
      fixtureRequester fixtureProvider "requester" "provider" 103
  providerContract :=
    fixtureSwapContract t t.providerContractId "1515151515151515151515151515151515151515151515151515151515151515"
      fixtureProvider fixtureRequester "provider" "requester" 104
  contract := fixtureContract t
  contractSha256 := t.contractSha256
  swapType := .submarine
  paymentHash := fixturePaymentHash

/-- The fixture session with a control block at leaf version `0xc2` and the output it opens. -/
def wrongLeafVersion : FixtureTexts where
  leafByte := "c2"
  outputKey := "4cc7d8775180f663f177d67d7a8f848c41a36bbcc5e8ea0bba318a2bd7f16ba6"
  fundingSha256 := "cf9df721ab53685477635172989a8a0fcb6cd8f46cee90ff5aa3ba5f4951dc59"
  fundingId := "767fa43cf30978fedc7c4f7aa2f2d6213bbe34d33856ec412e817e9898c0a5e1"
  exitSha256 := "767387892a1e97afa0e2484932f39a7ebc432724b5ac1a03e155f805b7011949"
  verifierDigest := "13d8b1c5546760aa8535e52727bcc9489f4e9007ac7d6aeef6de999b52b348af"
  packageSha256 := "7ea66fbfaf6cb983494d220128eed7c865966ffd3c0cf70bfbb4b63aca4f4f95"
  contractSha256 := "0f7706df6be9e3826822ac6df682d2258be71bc08c51904206441b79ce73f4ad"
  quoteId := "b022f61a4726be24e578f983499c8df3e2f9912a011d726bdaa241b3f45422c2"
  orderId := "2c507f134ba6ab69c331f4007c84819080cdff00c172a4a9bff8ce50e40e2cc0"
  requesterContractId := "9797e64588619cf5c1e81af34c7f9fce48911c65a821076769145f56798fe90b"
  providerContractId := "b076ea9c8e7d25b2858d7858be5c4e85f984c771dba9a40ef166be926355d686"
  effectId := "c3699091d87b26e4c1245c82f2b57e9d30ebd3af127b0c2b4d6af061308765dc"
  refundFirst := 140

/-! ### SHA-256 and secp256k1 on the fixture -/

def hexBytes (text : String) : Bytes := (decodeHexPairs (utf8 text)).toOption.getD []

def hexBytes32 (text : String) : Bytes32 := (Bytes32.ofBytes (hexBytes text)).getD ⟨List.replicate 32 0, rfl⟩

def hexBytes33 (text : String) : Bytes33 :=
  if h : (hexBytes text).length = 33 then ⟨hexBytes text, h⟩ else ⟨List.replicate 33 0, length_zeroKey⟩

def canonicalBytes (value : Value) : Bytes := (canonicalJson value).toOption.getD []

/-- A message under the tag with this hash. -/
def underTag (tagHash : String) (message : Bytes) : Bytes := hexBytes tagHash ++ hexBytes tagHash ++ message

def tapLeafTag : String := "aeea8fdc4208983105734b58081d1e2638d35f1cb54008d4d357ca03be78e9ee"

def tapBranchTag : String := "1941a1f2e56eb95fa2a9f194be5c01f7216f33ed82b091463490d05bf516a015"

def tapTweakTag : String := "e80fe1639c9ca050e3af1b39c143c63e429cbceb15d940fbb5c5a1f4af57c5e9"

def keyAggListTag : String := "481c971c3c0b46d7f0b275ae598d4e2c7ed7319c594a5c6ec79ea0d4990294f0"

def keyAggCoefficientTag : String := "bfc904034d1c88e8c80e22e53d24566d64824ed6427281c09100f94dcd52c981"

def fixtureKeyList : String := "8682cf6d6dfd1805b20518fb111abc2ebc969ff4afa8bf540a006d36d0e6a86a"

def fixtureCoefficient : String := "9779e1117c721479d3d05fc7ea6763356dc5f8b2e334a0ccbb69098458e53d74"

/-- The hashes of the refund leaf at versions `0xc0` and `0xc2`. -/
def fixtureRefundLeaf : String := "c9102c945e81d8e107f059dfbf0474b47add42aa4405947cecc6aa72052a68c4"

def fixtureRefundLeafC2 : String := "bc74ba48eccae7c43e3684f5d4bbaf33a311110f962826f182b1c0065a6bf0a3"

/-- The roots over the claim leaf and each of them, and the tweaks they give. -/
def fixtureRoot : String := "4f6ce9a77947dcff265fd172014c0133e99f683b02fe7c9cb70dafe25b1bba0c"

def fixtureRootC2 : String := "48abdcbc4ca7715c043472161aecd04e4b84b6b4afac6549f722a21999e3c703"

def fixtureTweak : String := "4446ea2d3b21134206de713145d7b970f2b98a95b080df5f7c6a5bf8f8e0bce2"

def fixtureTweakC2 : String := "f36c4a469285a1904d8a8bbe9d718c94e0c72f607e1d9dfa674c7e81500e6dab"

/-- The output keys under those tweaks. -/
def fixtureOutput : String := "691cb9148317aaca08b589b420d7ce5134110f1c1dd92a44af0b10631ee495eb"

def fixtureOutputC2 : String := "4cc7d8775180f663f177d67d7a8f848c41a36bbcc5e8ea0bba318a2bd7f16ba6"

/-- The package without the members its commitment leaves out. -/
def fixtureCommitment : Value :=
  .object ((((fixturePackage t).document.asObject.getD []).remove "swap_contract_ids").remove "contract_sha256")

/-- The SHA-256 digests of the messages a check of the fixture hashes. -/
def fixtureHashes : List (Bytes × String) :=
  [(tagBytes "TapLeaf", tapLeafTag), (tagBytes "TapBranch", tapBranchTag), (tagBytes "TapTweak", tapTweakTag),
    (tagBytes "KeyAgg list", keyAggListTag), (tagBytes "KeyAgg coefficient", keyAggCoefficientTag),
    (underTag keyAggListTag (hexBytes fixtureRequesterKey ++ hexBytes fixtureProviderKey), fixtureKeyList),
    (underTag keyAggCoefficientTag (hexBytes fixtureKeyList ++ hexBytes fixtureRequesterKey), fixtureCoefficient),
    (underTag tapLeafTag ([0xc0, 73] ++ hexBytes fixtureClaimScript), fixtureClaimLeaf),
    (underTag tapLeafTag ([0xc0, 39] ++ hexBytes fixtureRefundScript), fixtureRefundLeaf),
    (underTag tapLeafTag ([0xc2, 39] ++ hexBytes fixtureRefundScript), fixtureRefundLeafC2),
    (underTag tapBranchTag (hexBytes fixtureClaimLeaf ++ hexBytes fixtureRefundLeaf), fixtureRoot),
    (underTag tapBranchTag (hexBytes fixtureClaimLeaf ++ hexBytes fixtureRefundLeafC2), fixtureRootC2),
    (underTag tapTweakTag (hexBytes fixtureInternalKey ++ hexBytes fixtureRoot), fixtureTweak),
    (underTag tapTweakTag (hexBytes fixtureInternalKey ++ hexBytes fixtureRootC2), fixtureTweakC2),
    (canonicalBytes fixtureTree, fixtureTreeSha256),
    (canonicalBytes fixtureConfirmationPolicy, "074cd4b12bd586e64e9c54198456512a825f075c1124d26aaa93a4fa23f59e9c"),
    (utf8 "openagents.mkt-swp.v1" ++ [0] ++ hexBytes t.orderId ++ [0] ++ utf8 "chain_refund" ++ [0] ++ utf8 "source",
      t.effectId),
    (canonicalBytes (fixtureVerifier t), t.verifierDigest),
    (canonicalBytes (fixtureCommitment t), t.packageSha256)]

/-- `sha2` and `secp256k1` on the inputs a check of the fixture gives them. -/
def fixtureCrypto : Crypto where
  sha256 message := hexBytes32 (((fixtureHashes t).lookup message).getD "")
  isXOnly key :=
    [fixtureClaimKey, fixtureRefundKey, fixtureInternalKey, fixtureOutput, fixtureOutputC2].any (hexBytes32 · = key)
  publicKey bytes :=
    ([fixtureRequesterKey, fixtureProviderKey].find? fun key => hexBytes key = bytes).map hexBytes33
  addTweak key tweak :=
    if key = hexBytes32 fixtureInternalKey ∧ tweak = hexBytes32 fixtureTweak then
      some (hexBytes32 fixtureOutput, .odd)
    else if key = hexBytes32 fixtureInternalKey ∧ tweak = hexBytes32 fixtureTweakC2 then
      some (hexBytes32 fixtureOutputC2, .even)
    else none
  mulTweak key scalar :=
    if scalar = scalarOne then some key
    else if key = hexBytes33 fixtureRequesterKey ∧ scalar = hexBytes32 fixtureCoefficient then
      some (hexBytes33 "037425f02d525bc7ae3e5977e4e025803620dd110a52d59bc9b9e57a714533e075")
    else none
  combineKeys keys :=
    if keys = [hexBytes33 "037425f02d525bc7ae3e5977e4e025803620dd110a52d59bc9b9e57a714533e075",
        hexBytes33 fixtureProviderKey] then
      some (hexBytes33 ("03" ++ fixtureInternalKey))
    else none

/-! ### The run -/

/-- The client derives no provider package for a session whose packages are all the requester's. -/
def fixtureProviderClaim : BoundSession → Checked ExitPackage :=
  fun _ => .error ⟨"swp_exit_package_unusable", "provider claim package is not part of this session"⟩

/-- The package is accepted, and the output of the two declared leaves is not the one it opens. -/
theorem wrongLeafVersion_evaluated :
    verifyExitPackages (fixtureCrypto wrongLeafVersion) fixtureProviderClaim [fixturePackage wrongLeafVersion]
        (fixtureBound wrongLeafVersion) = .ok () ∧
      (fixturePackage wrongLeafVersion).isRequester = true ∧
      (fixturePackage wrongLeafVersion).fundingOutputKey (fixtureCrypto wrongLeafVersion) =
        some (hexBytes32 fixtureOutputC2) ∧
      ((fixturePackage wrongLeafVersion).legVerifier (fixtureBound wrongLeafVersion)).bind
        (declaredOutputKey (fixtureCrypto wrongLeafVersion)) = some (hexBytes32 fixtureOutput) :=
  ⟨by decide +kernel, by decide +kernel, by decide +kernel, by decide +kernel⟩

/-- **An accepted package whose output has a third script path.** The control block opens the funding output
    with the refund script at leaf version `0xc2`, which no declared leaf has. -/
theorem wrongLeafVersion_undeclared :
    verifyExitPackages (fixtureCrypto wrongLeafVersion) fixtureProviderClaim [fixturePackage wrongLeafVersion]
        (fixtureBound wrongLeafVersion) = .ok () ∧
      (fixturePackage wrongLeafVersion).isRequester = true ∧
      ¬ DeclaredOutput (fixtureCrypto wrongLeafVersion) (fixtureBound wrongLeafVersion)
        (fixturePackage wrongLeafVersion) := by
  obtain ⟨haccepted, hrequester, houtput, hdeclared'⟩ := wrongLeafVersion_evaluated
  refine ⟨haccepted, hrequester, ?_⟩
  rintro ⟨verifier, key, hverifier, hkey, hdeclared⟩
  rw [hverifier, Option.bind_some, hdeclared, ← hkey] at hdeclared'
  exact absurd hdeclared' (by decide +kernel)

/-- The messages hashed for the fixture's tree, and the two tags. -/
def wrongLeafVersionMessages : List Bytes :=
  tagBytes "TapLeaf" :: tagBytes "TapBranch" ::
    (fixturePackage wrongLeafVersion).messages (fixtureCrypto wrongLeafVersion) (fixtureBound wrongLeafVersion)

theorem wrongLeafVersion_binding :
    (fixtureCrypto wrongLeafVersion).Binding { m | m ∈ wrongLeafVersionMessages } := by
  apply Crypto.Binding.of_list
  · decide +kernel
  · decide +kernel
  · exact List.mem_cons_self
  · exact .tail _ List.mem_cons_self

theorem declared_paths_wrongLeafVersion :
    (DeclaredOutput (fixtureCrypto wrongLeafVersion) (fixtureBound wrongLeafVersion)
        (fixturePackage wrongLeafVersion) ∧
      DeclaredSpends (fixtureCrypto wrongLeafVersion) { m | m ∈ wrongLeafVersionMessages }
        (fixtureBound wrongLeafVersion) (fixturePackage wrongLeafVersion)) ↔
      (fixturePackage wrongLeafVersion).controlBlock.map controlLeafVersion = some 0xc0 := by
  apply declared_paths_iff_leaf_version (fixtureCrypto wrongLeafVersion) fixtureProviderClaim
    { m | m ∈ wrongLeafVersionMessages } wrongLeafVersion_binding (fixtureBound wrongLeafVersion)
    [fixturePackage wrongLeafVersion] wrongLeafVersion_evaluated.1
  · intro package hpackage _ m hm
    obtain rfl := List.mem_singleton.mp hpackage
    exact List.mem_cons_of_mem _ (List.mem_cons_of_mem _ hm)
  · exact List.mem_singleton.mpr rfl
  · exact wrongLeafVersion_evaluated.2.1

end Immortal.Client
