import Immortal.Provider.IntentJournal

/-!
# `Immortal.Provider.IntentJournalValid` — what every journal the operations build satisfies

An operation either leaves the journal alone or hands one changed journal to `persist`, and a change is one of four: a
  new binding, a claimed effect, a recorded outcome, a stored receipt (`Change`). A valid journal stays
valid under every change, and a valid journal passes `validate_snapshot`, so what is persisted can be restored.
-/

namespace Immortal.Provider

open Immortal.Domain Immortal.Market Txn Collections Std.ExtTreeMap List

/-! ## Checks -/

variable {code : ProviderHardeningErrorCode}

theorem refuseWhen_eq_ok {condition : Prop} [Decidable condition]
    {detail : String} {u : Unit} : refuseWhen condition code detail = .ok u ↔ ¬ condition := by
  unfold refuseWhen
  split <;> simp_all

theorem required_eq_ok {α : Type} {value : Option α} {detail : String} {a : α} :
    required value code detail = .ok a ↔ value = some a := by
  cases value <;> simp [required]

section Valid

variable {Snapshot : Type}

/-- What is assumed of the code outside the journal: a snapshot reads back as the journal it was written from, and
    an event id binds the event's author and tags. -/
structure JournalEnv.Lawful (env : JournalEnv Snapshot) : Prop where
  roundTrip : ∀ journal, env.fromSlice (env.toVec journal) = .ok journal
  idsBind : ∀ event event', env.validateSigned event = .ok () → env.validateSigned event' = .ok () →
    event.id = event'.id → event.pubkey = event'.pubkey ∧ event.tags = event'.tags

variable (env : JournalEnv Snapshot)

variable {acknowledgment event intent : Event} {binding changed : IntentBinding}
  {record : MktHardeningRecord} {journal : ProviderIntentJournal} {providerPubkey scope sessionId : String}

theorem requireSigned_eq_ok {env : JournalEnv Snapshot} {u : Unit} :
    requireSigned env event = .ok u ↔ env.validateSigned event = .ok () := mapError_eq_ok

theorem hardeningEnvelope_eq_ok {env : JournalEnv Snapshot} {envelope : MktPrivateEnvelope} :
    hardeningEnvelope env event = .ok envelope ↔ env.validateMktPrivate event = .ok envelope := mapError_eq_ok

theorem hardeningRecord_eq_ok {env : JournalEnv Snapshot} {observedAt : Option Nat} :
    hardeningRecord env event observedAt = .ok record ↔ ∃ envelope, env.validateMktPrivate event = .ok envelope ∧
      validateMktHardeningEvent event envelope observedAt = .ok record := by
  simp only [hardeningRecord, bind_eq_ok, hardeningEnvelope_eq_ok, mapError_eq_ok]

/-- The record read against a clock is the record read without one. -/
theorem hardeningRecord_observed {env : JournalEnv Snapshot} {observedAt : Nat} :
    hardeningRecord env event (some observedAt) = .ok record ↔
      hardeningRecord env event none = .ok record ∧
        ∀ nonceAt ∈ record.nonceAt, withinNonceWindow observedAt nonceAt := by
  simp only [hardeningRecord_eq_ok, validateMktHardeningEvent_observed]
  constructor
  · rintro ⟨envelope, henvelope, hrecord, hwindow⟩
    exact ⟨⟨envelope, henvelope, hrecord⟩, hwindow⟩
  · rintro ⟨⟨envelope, henvelope, hrecord⟩, hwindow⟩
    exact ⟨envelope, henvelope, hrecord, hwindow⟩

/-! ## Keys -/

/-- The value of a tag, where a record has been accepted that requires it. -/
def tagText (event : Event) (name : String) : String := (hardeningTag event name).toOption.getD ""

/-- The key an intent is bound under. -/
def intentScope (intent : Event) : String := scopeKey intent.pubkey (tagText intent "d")

/-- The key its nonce is bound under. -/
def intentNonceKey (intent : Event) : String := nonceKey intent.pubkey (tagText intent "nonce")

theorem tagText_of_ok {name value : String} (h : hardeningTag event name = .ok value) : tagText event name = value := by
  simp [tagText, h, Except.toOption]

/-- An intent's record has the keys that the intent's tags give. -/
theorem hardeningRecord_keys {env : JournalEnv Snapshot} {observedAt : Option Nat}
    (h : hardeningRecord env intent observedAt = .ok record) (hkind : record.kind ≠ .acknowledgment) :
    record.idempotencyKey = tagText intent "d" ∧ record.nonce = some (tagText intent "nonce") ∧
      (∃ head, intentHead intent = .ok head ∧ record.nonceAt = some head.nonceAt) ∧
      record.kind = if intent.kind = mktSwpRedriveKind then .redriveIntent else .effectfulIntent := by
  obtain ⟨envelope, -, hrecord⟩ := hardeningRecord_eq_ok.mp h
  obtain ⟨head, hhead, hintent⟩ := validateMktHardeningEvent_intent hrecord hkind
  obtain ⟨hkey, hnonce⟩ := intentHead_ok hhead
  rw [tagText_of_ok hkey, tagText_of_ok hnonce]
  exact ⟨hintent.idempotencyKey, hintent.nonce, ⟨head, hhead, hintent.nonceAt⟩, hintent.kind⟩

/-! ## Valid journals -/

/-- What holds of a binding under its key. -/
structure BindingValid (providerPubkey sessionId scope : String) (binding : IntentBinding) : Prop where
  scope_eq : scope = intentScope binding.intent
  signed : env.validateSigned binding.intent = .ok ()
  record : ∃ record, hardeningRecord env binding.intent none = .ok record ∧ record.kind ≠ .acknowledgment ∧
    validateAcknowledgment env providerPubkey binding.intent record binding.acknowledgment = .ok ()
  session : ∃ envelope, env.validateMktPrivate binding.intent = .ok envelope ∧ envelope.sessionId = sessionId
  recipient : requireProviderRecipient binding.intent providerPubkey = .ok ()
  outcomes : ∀ outcome ∈ binding.outcomes, validateStoredOutcome env binding.intent.id outcome = .ok ()
  receipts : ∀ stored ∈ binding.receipts, validateStoredReceipt env binding stored = .ok ()
  readOnly : binding.intent.kind ≠ mktOrderKind → binding.effectAttemptClaimed = false ∧ binding.receipts = []

/-- What holds of every journal the operations build. -/
structure JournalValid (journal : ProviderIntentJournal) : Prop where
  schema : journal.schema = journalSchema
  provider : isLowerHex32 journal.providerPubkey = true
  session : isLowerHex32 journal.sessionId = true
  bindings_le : journal.bindings.size ≤ maxIntentBindings
  outcomes_le : journal.total (·.outcomes.length) ≤ maxOutcomes
  receipts_le : journal.total (·.receipts.length) ≤ maxReceipts
  bindings : ∀ scope binding, journal.bindings[scope]? = some binding →
    BindingValid env journal.providerPubkey journal.sessionId scope binding
  nonces_of_bindings : ∀ (scope : String) binding, journal.bindings[scope]? = some binding →
    journal.nonces[intentNonceKey binding.intent]? = some binding.intent.id
  bindings_of_nonces : ∀ (key : String) id, journal.nonces[key]? = some id →
    ∃ (scope : String) (binding : IntentBinding), journal.bindings[scope]? = some binding ∧ intentNonceKey
      binding.intent = key

variable {env}

theorem BindingValid.validateBinding (h : BindingValid env journal.providerPubkey journal.sessionId scope binding)
    (nonces : Std.ExtTreeMap String String) :
    validateBinding env journal nonces (scope, binding) =
      .ok (nonces.insert (intentNonceKey binding.intent) binding.intent.id) := by
  obtain ⟨record, hrecord, hkind, hack⟩ := h.record
  obtain ⟨envelope, henvelope, hsession⟩ := h.session
  obtain ⟨hkey, hnonce, -, -⟩ := hardeningRecord_keys hrecord hkind
  simp only [Provider.validateBinding, bind_eq_ok, requireSigned_eq_ok, refuseWhen_eq_ok, hardeningEnvelope_eq_ok,
    required_eq_ok, forM_eq_ok]
  refine ⟨(), h.signed, record, hrecord, (), ?_, envelope, henvelope, (), not_not.mpr hsession, (), hack, _, hnonce, (),
    h.outcomes, (), h.receipts, (), ?_, rfl⟩
  · rw [hkey]
    exact not_not.mpr h.scope_eq
  · rintro ⟨hredrive, hstate⟩
    obtain ⟨hclaimed, hreceipts⟩ := h.readOnly hredrive
    simp [hclaimed, hreceipts] at hstate

/-- The loop over the bindings of a valid journal ends with the index rebuilt. -/
theorem JournalValid.foldlM_validateBinding (h : JournalValid env journal) (entries : List (String × IntentBinding))
    (hentries : ∀ entry ∈ entries, journal.bindings[entry.1]? = some entry.2) (nonces : Std.ExtTreeMap String String) :
    entries.foldlM (Provider.validateBinding env journal) nonces =
      .ok (entries.foldl (fun index entry => index.insert (intentNonceKey entry.2.intent) entry.2.intent.id)
        nonces) := by
  induction entries generalizing nonces with
  | nil => rfl
  | cons entry entries ih =>
    have hvalid := h.bindings entry.1 entry.2 (hentries entry mem_cons_self)
    rw [foldlM_cons, hvalid.validateBinding nonces]
    exact ih (fun e he => hentries e (.tail _ he)) _

theorem JournalValid.validateSnapshot (h : JournalValid env journal) : journal.validateSnapshot env = .ok () := by
  have hmem : ∀ entry ∈ journal.bindings.toList, journal.bindings[entry.1]? = some entry.2 :=
    fun entry hentry => mem_toList_iff_getElem?_eq_some.mp hentry
  have hindex : journal.bindings.toList.foldl
      (fun index entry => index.insert (intentNonceKey entry.2.intent) entry.2.intent.id) ∅ = journal.nonces := by
    apply foldl_insert_eq
    · exact fun entry hentry => h.nonces_of_bindings entry.1 entry.2 (hmem entry hentry)
    · intro key id hid
      obtain ⟨scope, binding, hbinding, hkey⟩ := h.bindings_of_nonces key id hid
      exact ⟨(scope, binding), mem_toList_iff_getElem?_eq_some.mpr hbinding, hkey⟩
  simp only [ProviderIntentJournal.validateSnapshot, journalHex32, bind_eq_ok, refuseWhen_eq_ok, not_not,
    h.foldlM_validateBinding _ hmem, hindex]
  refine ⟨(), fun hschema => hschema.1 h.schema, (), by simp [h.provider], (), by simp [h.session], (), ?_, _, rfl, rfl⟩
  have hsize := h.bindings_le
  have houtcomes := h.outcomes_le
  have hreceipts := h.receipts_le
  omega

/-- **A valid journal is restored from its snapshot.** -/
theorem restore_toVec (henv : env.Lawful) (h : JournalValid env journal) :
    restore env (env.toVec journal) = .ok journal := by
  simp only [restore, henv.roundTrip, h.validateSnapshot, Except.mapError, bind, Except.bind, pure, Except.pure]
  rw [← h.schema]

/-! ## What the operations do -/

variable (env) in
/-- An intent that may be bound: what `admit_with_ack` has checked when it changes the journal. -/
structure Bindable (journal : ProviderIntentJournal) (intent : Event) (record : MktHardeningRecord)
    (acknowledgment : Event) : Prop where
  signed : env.validateSigned intent = .ok ()
  record_eq : hardeningRecord env intent none = .ok record
  kind : record.kind ≠ .acknowledgment
  session : ∃ envelope, env.validateMktPrivate intent = .ok envelope ∧ envelope.sessionId = journal.sessionId
  recipient : requireProviderRecipient intent journal.providerPubkey = .ok ()
  fresh : journal.bindings[intentScope intent]? = none
  nonce : ∀ id, journal.nonces[intentNonceKey intent]? = some id → id = intent.id
  room : journal.bindings.size < maxIntentBindings
  acknowledged : validateAcknowledgment env journal.providerPubkey intent record acknowledgment = .ok ()

/-- The binding an admission makes. -/
def newBinding (intent acknowledgment : Event) : IntentBinding :=
  { intent, acknowledgment, outcomes := [], receipts := [], effectAttemptClaimed := false }

/-- The journal after an admission. -/
def ProviderIntentJournal.withIntent (journal : ProviderIntentJournal) (intent acknowledgment : Event) :
    ProviderIntentJournal :=
  { journal with
    bindings := journal.bindings.insert (intentScope intent) (newBinding intent acknowledgment)
    nonces := journal.nonces.insert (intentNonceKey intent) intent.id }

theorem bind_eq_withIntent {nonce : String} (hkey : record.idempotencyKey = tagText intent "d")
    (hnonce : nonce = tagText intent "nonce") :
    journal.bind intent record nonce acknowledgment = journal.withIntent intent acknowledgment := by
  simp [ProviderIntentJournal.bind, ProviderIntentJournal.withIntent, newBinding, intentScope, intentNonceKey, hkey, hnonce]

theorem verifySigned_ok {request : SigningRequest} {subject : String} {result : Event}
    (h : request.verifySigned env subject event = .ok result) :
    result = event ∧ event.tags = request.tags ∧ env.validateSigned event = .ok () := by
  simp only [SigningRequest.verifySigned, bind_eq_ok, refuseWhen_eq_ok, requireSigned_eq_ok, not_or, not_not, pure_eq_ok] at h
  obtain ⟨_, ⟨-, -, -, htags, -⟩, _, hsigned, rfl⟩ := h
  exact ⟨rfl, htags, hsigned⟩

/-- `admit_with_ack`: a refusal, the binding that is already there, or a new binding to persist. -/
theorem admitWithAck_cases (journal : ProviderIntentJournal) (intent : Event) (observedAt : Nat)
    (sign : SigningRequest → Except String Event) (persist : Snapshot → Except String Unit) :
    (∃ error signed, journal.admitWithAck env intent observedAt sign persist = unchanged journal (.error error)
      signed) ∨
    (∃ binding, journal.bindings[intentScope intent]? = some binding ∧ binding.intent = intent ∧
      journal.admitWithAck env intent observedAt sign persist =
        unchanged journal (.ok (.replay binding.acknowledgment binding.outcomes binding.receiptEvents)) []) ∨
    ∃ record acknowledgment request, Bindable env journal intent record acknowledgment ∧
      journal.admitWithAck env intent observedAt sign persist =
        commit env journal (journal.withIntent intent acknowledgment) (.new acknowledgment) [request] persist
          "intent acknowledgment was not persisted: " := by
  unfold ProviderIntentJournal.admitWithAck
  cases hcheck : journal.checkIntent env intent observedAt with
  | error error => exact .inl ⟨error, [], rfl⟩
  | ok checked =>
    simp only [ProviderIntentJournal.checkIntent, bind_eq_ok, requireSigned_eq_ok, refuseWhen_eq_ok,
      hardeningEnvelope_eq_ok, not_not] at hcheck
    obtain ⟨_, hsigned, record, hobserved, _, hkind, envelope, henvelope, _, hsession, _, hrecipient, hcheck⟩ :=
      hcheck
    have hrecord := (hardeningRecord_observed.mp hobserved).1
    obtain ⟨hkey, hnonce, -, -⟩ := hardeningRecord_keys hrecord hkind
    have hscope : scopeKey intent.pubkey record.idempotencyKey = intentScope intent := by rw [hkey, intentScope]
    rw [hscope] at hcheck
    cases hbinding : journal.bindings[intentScope intent]? with
    | some existing =>
      simp only [hbinding, bind_eq_ok, refuseWhen_eq_ok, not_not, pure_eq_ok] at hcheck
      obtain ⟨_, hsame, rfl⟩ := hcheck
      exact .inr (.inl ⟨existing, rfl, hsame, rfl⟩)
    | none =>
      simp only [hbinding, bind_eq_ok, refuseWhen_eq_ok, required_eq_ok, pure_eq_ok] at hcheck
      obtain ⟨nonce, hfound, _, hnonces, _, hroom, _, -, request, -, rfl⟩ := hcheck
      obtain rfl : nonce = tagText intent "nonce" := Option.some.inj (hfound.symm.trans hnonce)
      cases hsign : signedAcknowledgment env journal intent record request sign with
      | error error => exact .inl ⟨error, [request], by simp [hsign]⟩
      | ok acknowledgment =>
        refine .inr (.inr ⟨record, acknowledgment, request, ?_, ?_⟩)
        · simp only [signedAcknowledgment, bind_eq_ok, pure_eq_ok] at hsign
          obtain ⟨_, -, _, -, _, hack, rfl⟩ := hsign
          refine ⟨hsigned, hrecord, hkind, ⟨envelope, henvelope, hsession.symm⟩, hrecipient, hbinding,
            fun id hid => ?_, not_le.mp hroom, hack⟩
          rw [intentNonceKey] at hid
          simpa [hid] using hnonces
        · simp only [hsign, bind_eq_withIntent hkey rfl]

/-- The journal with a binding for that event, and the binding. -/
theorem scopeForIntent_eq_ok {eventId : String} (h : journal.scopeForIntent eventId = .ok scope) :
    ∃ binding, journal.bindings[scope]? = some binding ∧ binding.intent.id = eventId := by
  unfold ProviderIntentJournal.scopeForIntent at h
  split at h
  · rename_i entry hfound
    cases h
    exact ⟨entry.2, mem_toList_iff_getElem?_eq_some.mp (mem_of_find?_eq_some hfound),
      by simpa using find?_some hfound⟩
  · cases h

/-- Looking an intent up by its id, and then its binding by the key. -/
theorem binding_of_scope {eventId message : String} (hscope : journal.scopeForIntent eventId = .ok scope)
    (hbinding : journal.binding scope message = .ok binding) :
    journal.bindings[scope]? = some binding ∧ binding.intent.id = eventId := by
  obtain ⟨found, hfound, hid⟩ := scopeForIntent_eq_ok hscope
  have hsome := required_eq_ok.mp hbinding
  rw [hfound] at hsome
  cases hsome
  exact ⟨hfound, hid⟩

/-- `claim_effect_attempt`: a refusal, the claim that is already there, or the claim to persist. -/
theorem claimEffectAttempt_cases (journal : ProviderIntentJournal) (orderEventId : String)
    (persist : Snapshot → Except String Unit) :
    (∃ error, journal.claimEffectAttempt env orderEventId persist = unchanged journal (.error error) []) ∨
    ∃ scope binding, journal.bindings[scope]? = some binding ∧ binding.intent.id = orderEventId ∧
      binding.intent.kind = mktOrderKind ∧
      ((binding.effectAttemptClaimed = true ∧
        journal.claimEffectAttempt env orderEventId persist = unchanged journal (.ok .alreadyClaimed) []) ∨
      (binding.effectAttemptClaimed = false ∧ journal.claimEffectAttempt env orderEventId persist =
        commit env journal (journal.update scope { binding with effectAttemptClaimed := true }) .claimed [] persist
          "effect-attempt claim was not persisted: ")) := by
  unfold ProviderIntentJournal.claimEffectAttempt
  cases htarget : journal.claimTarget orderEventId with
  | error error => exact .inl ⟨error, rfl⟩
  | ok target =>
    simp only [ProviderIntentJournal.claimTarget, bind_eq_ok, refuseWhen_eq_ok, not_not, pure_eq_ok] at htarget
    obtain ⟨scope, hscope, binding, hbinding, _, hkind, rfl⟩ := htarget
    obtain ⟨hfound, hid⟩ := binding_of_scope hscope hbinding
    refine .inr ⟨scope, binding, hfound, hid, hkind, ?_⟩
    cases hclaimed : binding.effectAttemptClaimed with
    | true => exact .inl ⟨rfl, by simp [hclaimed]⟩
    | false => exact .inr ⟨rfl, by simp [hclaimed]⟩

/-- `record_outcome`: a refusal, an outcome that is already there, or an outcome to persist. -/
theorem recordOutcome_cases (journal : ProviderIntentJournal) (orderEventId : String) (outcome : Event)
    (persist : Snapshot → Except String Unit) :
    (∃ error, journal.recordOutcome env orderEventId outcome persist = unchanged journal (.error error) []) ∨
    ∃ scope binding, journal.bindings[scope]? = some binding ∧ binding.intent.id = orderEventId ∧
      ((outcome ∈ binding.outcomes ∧
        journal.recordOutcome env orderEventId outcome persist = unchanged journal (.ok false) []) ∨
      (validateStoredOutcome env binding.intent.id outcome = .ok () ∧
        journal.total (·.outcomes.length) < maxOutcomes ∧
        journal.recordOutcome env orderEventId outcome persist =
          commit env journal (journal.update scope { binding with outcomes := binding.outcomes ++ [outcome] }) true []
            persist "outcome was not persisted: ")) := by
  unfold ProviderIntentJournal.recordOutcome
  cases hcheck : journal.checkOutcome env orderEventId outcome with
  | error error => exact .inl ⟨error, rfl⟩
  | ok checked =>
    simp only [ProviderIntentJournal.checkOutcome, bind_eq_ok] at hcheck
    obtain ⟨_, hsigned, _, -, _, hreference, scope, hscope, binding, hbinding, hcheck⟩ := hcheck
    obtain ⟨hfound, hid⟩ := binding_of_scope hscope hbinding
    refine .inr ⟨scope, binding, hfound, hid, ?_⟩
    cases hexisting : binding.outcomes.find? fun event => event.id = outcome.id with
    | some existing =>
      simp only [hexisting, bind_eq_ok, refuseWhen_eq_ok, not_not, pure_eq_ok] at hcheck
      obtain ⟨_, rfl, rfl⟩ := hcheck
      exact .inl ⟨mem_of_find?_eq_some hexisting, rfl⟩
    | none =>
      simp only [hexisting, bind_eq_ok, refuseWhen_eq_ok, pure_eq_ok] at hcheck
      obtain ⟨_, hroom, rfl⟩ := hcheck
      refine .inr ⟨?_, not_le.mp hroom, rfl⟩
      simp only [validateStoredOutcome, check_bind_eq_ok, hid]
      exact ⟨hsigned, hreference⟩

/-- The outcome reference of a receipt is the first tag that carries the marker. -/
theorem receiptSigningRequest_outcome {receipt : MktSettlementReceipt} {createdAt : Nat} {request : SigningRequest}
    (h : receiptSigningRequest env providerPubkey intent sessionId receipt createdAt = .ok request) :
    (request.tags.find? fun tag => tag[3]? = some "outcome").bind (·[1]?) = some receipt.outcomeEventId := by
  simp only [receiptSigningRequest, signingRequest, bind_eq_ok, pure_eq_ok] at h
  obtain ⟨_, -, _, -, rfl⟩ := h
  simp [recordTags, eventReference]

/-- A receipt to store with its binding: what `emit_receipt_with_sign` has checked when it changes the journal. -/
structure Storable (env : JournalEnv Snapshot) (binding : IntentBinding) (stored : StoredReceipt)
    (outcomeEventId : String) : Prop where
  kind : binding.intent.kind = mktOrderKind
  valid : validateStoredReceipt env binding stored = .ok ()
  settles : stored.settles outcomeEventId = true
  first : binding.receipts.find? (·.settles outcomeEventId) = none

/-- What is known of a request for a receipt that has passed its checks. -/
structure Founded (journal : ProviderIntentJournal) (request : SettlementReceiptEmissionRequest)
    (target : ReceiptTarget) : Prop where
  found : journal.bindings[target.scope]? = some target.binding
  id_eq : target.binding.intent.id = request.orderEventId
  kind : target.binding.intent.kind = mktOrderKind
  outcome : (target.binding.outcomes.find? fun event => event.id = request.outcomeEventId) = some target.outcome
  claim : target.claim.outcomeEventId = request.outcomeEventId

variable {request : SettlementReceiptEmissionRequest}

theorem checkReceipt_ok {target : ReceiptTarget}
    (h : journal.checkReceipt env request = .ok target) : Founded journal request target := by
  simp only [ProviderIntentJournal.checkReceipt, bind_eq_ok, refuseWhen_eq_ok, required_eq_ok, not_not, pure_eq_ok] at h
  obtain ⟨_, -, _, -, scope, hscope, binding, hbinding, _, hkind, _, -, outcome, houtcome, outcomeName, -, _, -,
    intentEnvelope, -, _, -, _, -, claim, hclaim, rfl⟩ := h
  obtain ⟨hfound, hid⟩ := binding_of_scope hscope hbinding
  obtain ⟨hfind, -⟩ := Option.filter_eq_some_iff.mp houtcome
  have hclaimOutcome : claim.outcomeEventId = request.outcomeEventId := by
    simp only [receiptClaim, bind_eq_ok, pure_eq_ok] at hclaim
    obtain ⟨_, -, rfl⟩ := hclaim
    simpa using find?_some hfind
  exact ⟨hfound, hid, hkind, hfind, hclaimOutcome⟩

/-- A signed receipt refers to its Close and passes the checks of a stored one. -/
theorem signedReceipt_storable {target : ReceiptTarget}
    (hfounded : Founded journal request target)
    (hfirst : target.binding.receipts.find? (·.settles request.outcomeEventId) = none) {createdAt : Nat}
    {signing : SigningRequest} (hprepare : journal.prepareReceipt env target createdAt = .ok signing)
    {sign : SigningRequest → Except String Event} {receipt : Event}
    (hsign : signedReceipt env target request signing sign = .ok receipt) :
    Storable env target.binding ⟨receipt, request.quote, request.clientConfirmation⟩ request.outcomeEventId ∧
      journal.total (·.receipts.length) < maxReceipts := by
  simp only [ProviderIntentJournal.prepareReceipt, bind_eq_ok, refuseWhen_eq_ok, pure_eq_ok] at hprepare
  obtain ⟨_, hroom, prepared, hsigning, _, -, hsame⟩ := hprepare
  subst hsame
  simp only [signedReceipt, bind_eq_ok, mapError_eq_ok, pure_eq_ok] at hsign
  obtain ⟨event, -, _, hverify, _, hchain, rfl⟩ := hsign
  obtain ⟨rfl, htags, -⟩ := verifySigned_ok hverify
  -- the receipt's first outcome reference is the Close the request names
  have hreference := receiptSigningRequest_outcome hsigning
  rw [← htags, hfounded.claim] at hreference
  refine ⟨⟨hfounded.kind, ?_, ?_, hfirst⟩, not_le.mp hroom⟩
  · simp only [validateStoredReceipt, bind_eq_ok, required_eq_ok, mapError_eq_ok, pure, Except.pure]
    exact ⟨_, hreference, target.outcome, hfounded.outcome, _, hchain, trivial⟩
  · obtain ⟨tag, htag, hvalue⟩ := Option.bind_eq_some_iff.mp hreference
    have hmarker := find?_some htag
    simp only [StoredReceipt.settles, any_eq_true]
    exact ⟨tag, mem_of_find?_eq_some htag, by simpa [hvalue] using hmarker⟩

/-- `emit_receipt_with_sign`: a refusal, which has called the signer only for a Close without a receipt, a receipt
    that is already there, or a receipt to persist. -/
theorem emitReceiptWithSign_cases (journal : ProviderIntentJournal) (request : SettlementReceiptEmissionRequest)
    (sign : SigningRequest → Except String Event) (persist : Snapshot → Except String Unit) :
    (∃ error signed, journal.emitReceiptWithSign env request sign persist = unchanged journal (.error error) signed ∧
      (signed ≠ [] → ∃ (scope : String) (binding : IntentBinding), journal.bindings[scope]? = some binding ∧
        binding.intent.id = request.orderEventId ∧
        binding.receipts.find? (·.settles request.outcomeEventId) = none)) ∨
    ∃ scope binding, journal.bindings[scope]? = some binding ∧ binding.intent.id = request.orderEventId ∧
      ((∃ existing ∈ binding.receipts,
        journal.emitReceiptWithSign env request sign persist = unchanged journal (.ok (.replay existing.receipt)) []) ∨
      ∃ receipt signing, Storable env binding ⟨receipt, request.quote, request.clientConfirmation⟩
        request.outcomeEventId ∧
        journal.total (·.receipts.length) < maxReceipts ∧
        journal.emitReceiptWithSign env request sign persist =
          commit env journal (journal.update scope { binding with
            receipts := binding.receipts ++ [⟨receipt, request.quote, request.clientConfirmation⟩] })
            (.new receipt) [signing] persist "receipt was not persisted: ") := by
  unfold ProviderIntentJournal.emitReceiptWithSign
  cases hcheck : journal.checkReceipt env request with
  | error error => exact .inl ⟨error, [], rfl, fun h => absurd rfl h⟩
  | ok target =>
    have hfounded := checkReceipt_ok hcheck
    cases hexisting : target.binding.receipts.find? (·.settles request.outcomeEventId) with
    | some existing =>
      simp only [hexisting]
      cases hreplay : replayReceipt env target request existing with
      | error error => exact .inl ⟨error, [], rfl, fun h => absurd rfl h⟩
      | ok receipt =>
        simp only [replayReceipt, bind_eq_ok, pure_eq_ok] at hreplay
        obtain ⟨_, -, _, -, rfl⟩ := hreplay
        exact .inr ⟨target.scope, target.binding, hfounded.found, hfounded.id_eq,
          .inl ⟨existing, mem_of_find?_eq_some hexisting, rfl⟩⟩
    | none =>
      simp only [hexisting]
      cases hprepare : journal.prepareReceipt env target request.createdAt with
      | error error => exact .inl ⟨error, [], rfl, fun h => absurd rfl h⟩
      | ok signing =>
        cases hsign : signedReceipt env target request signing sign with
        | error error =>
          exact .inl ⟨error, [signing], by simp [hsign],
            fun _ => ⟨target.scope, target.binding, hfounded.found, hfounded.id_eq, hexisting⟩⟩
        | ok receipt =>
          obtain ⟨hstorable, hroom⟩ := signedReceipt_storable hfounded hexisting hprepare hsign
          exact .inr ⟨target.scope, target.binding, hfounded.found, hfounded.id_eq,
            .inr ⟨receipt, signing, hstorable, hroom, by simp only [hsign]⟩⟩

/-! ## Changes -/

variable (env) in
/-- **The four ways a journal changes.** -/
inductive Change (journal : ProviderIntentJournal) : ProviderIntentJournal → Prop
  | admitted {intent acknowledgment : Event} {record : MktHardeningRecord}
      (h : Bindable env journal intent record acknowledgment) : Change journal (journal.withIntent intent acknowledgment)
  | claimed {scope : String} {binding : IntentBinding} (hfound : journal.bindings[scope]? = some binding)
      (hkind : binding.intent.kind = mktOrderKind) :
      Change journal (journal.update scope { binding with effectAttemptClaimed := true })
  | recorded {scope : String} {binding : IntentBinding} {outcome : Event}
      (hfound : journal.bindings[scope]? = some binding)
      (hvalid : validateStoredOutcome env binding.intent.id outcome = .ok ())
      (hroom : journal.total (·.outcomes.length) < maxOutcomes) :
      Change journal (journal.update scope { binding with outcomes := binding.outcomes ++ [outcome] })
  | emitted {scope : String} {binding : IntentBinding} {stored : StoredReceipt} {outcomeEventId : String}
      (hfound : journal.bindings[scope]? = some binding) (h : Storable env binding stored outcomeEventId)
      (hroom : journal.total (·.receipts.length) < maxReceipts) :
      Change journal (journal.update scope { binding with receipts := binding.receipts ++ [stored] })

theorem update_lookup {other : String} {found : IntentBinding}
    (h : (journal.update scope changed).bindings[other]? = some found) :
    (other = scope ∧ found = changed) ∨ journal.bindings[other]? = some found := by
  simp only [ProviderIntentJournal.update] at h
  by_cases hscope : scope = other
  · subst hscope
    rw [getElem?_insert_self] at h
    exact .inl ⟨rfl, (Option.some.inj h).symm⟩
  · rw [getElem?_insert_of_ne hscope] at h
    exact .inr h

/-- Replacing a binding by a valid one for the same intent. -/
theorem JournalValid.update (h : JournalValid env journal) (hfound : journal.bindings[scope]? = some binding)
    (hintent : changed.intent = binding.intent)
    (hvalid : BindingValid env journal.providerPubkey journal.sessionId scope changed)
    (houtcomes : journal.total (·.outcomes.length) + changed.outcomes.length ≤ maxOutcomes + binding.outcomes.length)
    (hreceipts : journal.total (·.receipts.length) + changed.receipts.length ≤ maxReceipts + binding.receipts.length) :
    JournalValid env (journal.update scope changed) := by
  have houtcomesTotal := total_insert_of_some hfound changed (·.outcomes.length)
  have hreceiptsTotal := total_insert_of_some hfound changed (·.receipts.length)
  refine ⟨h.schema, h.provider, h.session, ?_, ?_, ?_, ?_, ?_, ?_⟩
  · simp only [ProviderIntentJournal.update, size_insert]
    rw [if_pos (contains_eq_isSome_getElem?.trans (by simp [hfound]))]
    exact h.bindings_le
  · simp only [ProviderIntentJournal.total] at houtcomes ⊢
    simp only [ProviderIntentJournal.update]
    omega
  · simp only [ProviderIntentJournal.total] at hreceipts ⊢
    simp only [ProviderIntentJournal.update]
    omega
  · intro other found hother
    rcases update_lookup hother with ⟨rfl, rfl⟩ | hother
    · exact hvalid
    · exact h.bindings other found hother
  · intro other found hother
    rcases update_lookup hother with ⟨rfl, rfl⟩ | hother
    · rw [hintent]
      exact h.nonces_of_bindings other binding hfound
    · exact h.nonces_of_bindings other found hother
  · intro key id hid
    obtain ⟨other, found, hother, hkey⟩ := h.bindings_of_nonces key id hid
    by_cases hscope : scope = other
    · subst hscope
      rw [hfound] at hother
      cases hother
      exact ⟨scope, changed, getElem?_insert_self, by rw [hintent, hkey]⟩
    · exact ⟨other, found, (getElem?_insert_of_ne hscope).trans hother, hkey⟩

/-- A stored receipt stays valid when outcomes are added to its binding. -/
theorem validateStoredReceipt_append {stored : StoredReceipt} (h : validateStoredReceipt env binding stored = .ok ())
    (claimed : Bool) (outcomes : List Event) (receipts : List StoredReceipt) :
    validateStoredReceipt env { binding with
      outcomes := binding.outcomes ++ outcomes, receipts := receipts, effectAttemptClaimed := claimed } stored =
        .ok () := by
  simp only [validateStoredReceipt, bind_eq_ok, required_eq_ok, pure, Except.pure] at h ⊢
  obtain ⟨id, hid, outcome, houtcome, claim, hchain, -⟩ := h
  exact ⟨id, hid, outcome, by rw [find?_append, houtcome, Option.some_or], claim, hchain, trivial⟩

/-- Adding to a binding's state keeps it valid when what is added is. -/
theorem BindingValid.grow (h : BindingValid env providerPubkey sessionId scope binding) (claimed : Bool)
    (outcomes : List Event) (receipts : List StoredReceipt)
    (houtcomes : ∀ outcome ∈ outcomes, validateStoredOutcome env binding.intent.id outcome = .ok ())
    (hreceipts : ∀ stored ∈ receipts, validateStoredReceipt env binding stored = .ok ())
    (hreadOnly : binding.intent.kind ≠ mktOrderKind → claimed = false ∧ receipts = []) :
    BindingValid env providerPubkey sessionId scope { binding with
      outcomes := binding.outcomes ++ outcomes, receipts := binding.receipts ++ receipts,
      effectAttemptClaimed := claimed } := by
  refine ⟨h.scope_eq, h.signed, h.record, h.session, h.recipient,
    forall_mem_append.mpr ⟨h.outcomes, houtcomes⟩, ?_, ?_⟩
  · intro stored hstored
    apply validateStoredReceipt_append
    exact forall_mem_append.mpr ⟨h.receipts, hreceipts⟩ stored hstored
  · intro hkind
    obtain ⟨hclaimed, hnone⟩ := hreadOnly hkind
    exact ⟨hclaimed, by simp [hnone, (h.readOnly hkind).2]⟩

theorem Bindable.bindingValid (h : Bindable env journal intent record acknowledgment) :
    BindingValid env journal.providerPubkey journal.sessionId (intentScope intent) (newBinding intent acknowledgment) :=
  ⟨rfl, h.signed, ⟨record, h.record_eq, h.kind, h.acknowledged⟩, h.session, h.recipient, by simp [newBinding],
    by simp [newBinding], fun _ => ⟨rfl, rfl⟩⟩

theorem JournalValid.withIntent (h : JournalValid env journal)
    (hbindable : Bindable env journal intent record acknowledgment) :
    JournalValid env (journal.withIntent intent acknowledgment) := by
  refine ⟨h.schema, h.provider, h.session, ?_, ?_, ?_, ?_, ?_, ?_⟩
  · simp only [ProviderIntentJournal.withIntent, size_insert]
    have hroom := hbindable.room
    split <;> omega
  · have htotal := total_insert_of_none hbindable.fresh (newBinding intent acknowledgment)
      (·.outcomes.length)
    exact htotal.trans_le h.outcomes_le
  · have htotal := total_insert_of_none hbindable.fresh (newBinding intent acknowledgment)
      (·.receipts.length)
    exact htotal.trans_le h.receipts_le
  · intro other found hother
    rcases update_lookup hother with ⟨rfl, rfl⟩ | hother
    · exact hbindable.bindingValid
    · exact h.bindings other found hother
  · intro other found hother
    simp only [ProviderIntentJournal.withIntent]
    rcases update_lookup hother with ⟨-, rfl⟩ | hother
    · exact getElem?_insert_self
    · -- a nonce that is already bound is bound to this very event
      have hbound := h.nonces_of_bindings other found hother
      by_cases hkey : intentNonceKey intent = intentNonceKey found.intent
      · rw [← hkey, getElem?_insert_self]
        rw [← hkey] at hbound
        rw [hbindable.nonce _ hbound]
      · rw [getElem?_insert_of_ne hkey, hbound]
  · intro key id hid
    simp only [ProviderIntentJournal.withIntent] at hid ⊢
    by_cases hkey : intentNonceKey intent = key
    · exact ⟨intentScope intent, newBinding intent acknowledgment, getElem?_insert_self, hkey⟩
    · rw [getElem?_insert_of_ne hkey] at hid
      obtain ⟨other, found, hother, hfound⟩ := h.bindings_of_nonces key id hid
      have hscope : intentScope intent ≠ other := by
        rintro rfl
        rw [hbindable.fresh] at hother
        cases hother
      exact ⟨other, found, (getElem?_insert_of_ne hscope).trans hother, hfound⟩

/-- **Every change keeps a journal valid.** -/
theorem JournalValid.change {changed : ProviderIntentJournal} (h : JournalValid env journal)
    (hchange : Change env journal changed) : JournalValid env changed := by
  have houtcomes := h.outcomes_le
  have hreceipts := h.receipts_le
  cases hchange with
  | admitted hbindable => exact h.withIntent hbindable
  | @claimed scope binding hfound hkind =>
    have hgrown := (h.bindings scope binding hfound).grow true [] [] (by simp) (by simp)
      fun hredrive => absurd hkind hredrive
    simp only [append_nil] at hgrown
    exact h.update hfound rfl hgrown (by simpa using houtcomes) (by simpa using hreceipts)
  | @recorded scope binding outcome hfound hvalid hroom =>
    have hbinding := h.bindings scope binding hfound
    have hgrown := hbinding.grow binding.effectAttemptClaimed [outcome] [] (by simpa using hvalid) (by simp)
      fun hredrive => ⟨(hbinding.readOnly hredrive).1, rfl⟩
    simp only [append_nil] at hgrown
    refine h.update hfound rfl hgrown ?_ (by simpa using hreceipts)
    simp only [length_append, length_singleton]
    omega
  | @emitted scope binding stored outcomeEventId hfound hstorable hroom =>
    have hgrown := (h.bindings scope binding hfound).grow binding.effectAttemptClaimed [] [stored] (by simp)
      (by simpa using hstorable.valid) fun hredrive => absurd hstorable.kind hredrive
    simp only [append_nil] at hgrown
    refine h.update hfound rfl hgrown (by simpa using houtcomes) ?_
    simp only [length_append, length_singleton]
    omega

theorem JournalValid.new (h : ProviderIntentJournal.new providerPubkey sessionId = .ok journal) :
    JournalValid env journal := by
  simp only [ProviderIntentJournal.new, journalHex32, bind_eq_ok, refuseWhen_eq_ok, pure_eq_ok, Bool.not_eq_false] at h
  obtain ⟨_, hprovider, _, hsession, rfl⟩ := h
  exact ⟨rfl, hprovider, hsession, by simp, by simp [ProviderIntentJournal.total, total_empty],
    by simp [ProviderIntentJournal.total, total_empty], by simp, by simp, by simp⟩

/-! ## What a journal keeps -/

/-- A binding that has only been added to. -/
structure Grows (binding later : IntentBinding) : Prop where
  intent : later.intent = binding.intent
  acknowledgment : later.acknowledgment = binding.acknowledgment
  outcomes : binding.outcomes <+: later.outcomes
  receipts : binding.receipts <+: later.receipts
  claimed : binding.effectAttemptClaimed = true → later.effectAttemptClaimed = true

theorem Grows.refl (binding : IntentBinding) : Grows binding binding :=
  ⟨rfl, rfl, prefix_refl _, prefix_refl _, id⟩

/-- A journal all of whose bindings are kept. -/
def Keeps (journal later : ProviderIntentJournal) : Prop :=
  ∀ (scope : String) binding, journal.bindings[scope]? = some binding →
    ∃ grown, later.bindings[scope]? = some grown ∧ Grows binding grown

theorem Keeps.refl (journal : ProviderIntentJournal) : Keeps journal journal :=
  fun _ binding hfound => ⟨binding, hfound, Grows.refl binding⟩

theorem Keeps.update (hfound : journal.bindings[scope]? = some binding) (hgrows : Grows binding changed) :
    Keeps journal (journal.update scope changed) := by
  intro other found hother
  by_cases hscope : scope = other
  · subst hscope
    rw [hfound] at hother
    cases hother
    exact ⟨changed, getElem?_insert_self, hgrows⟩
  · exact ⟨found, (getElem?_insert_of_ne hscope).trans hother, Grows.refl found⟩

theorem Change.keeps {changed : ProviderIntentJournal} (h : Change env journal changed) : Keeps journal changed := by
  cases h with
  | @admitted intent acknowledgment record hbindable =>
    intro other found hother
    have hscope : intentScope intent ≠ other := by
      rintro rfl
      rw [hbindable.fresh] at hother
      cases hother
    exact ⟨found, (getElem?_insert_of_ne hscope).trans hother, Grows.refl found⟩
  | claimed hfound _ =>
    exact Keeps.update hfound ⟨rfl, rfl, prefix_refl _, prefix_refl _, fun _ => rfl⟩
  | recorded hfound _ _ =>
    exact Keeps.update hfound ⟨rfl, rfl, prefix_append _ _, prefix_refl _, id⟩
  | emitted hfound _ _ =>
    exact Keeps.update hfound ⟨rfl, rfl, prefix_refl _, prefix_append _ _, id⟩

/-- The binding of an event is found under one key only, because an id binds the event's author and tags. -/
theorem JournalValid.scope_unique (henv : env.Lawful) (h : JournalValid env journal) {scope' : String}
    {binding' : IntentBinding} (hfound : journal.bindings[scope]? = some binding)
    (hfound' : journal.bindings[scope']? = some binding') (hid : binding.intent.id = binding'.intent.id) :
    scope = scope' ∧ binding = binding' := by
  have hvalid := h.bindings scope binding hfound
  have hvalid' := h.bindings scope' binding' hfound'
  obtain ⟨hpubkey, htags⟩ := henv.idsBind _ _ hvalid.signed hvalid'.signed hid
  have hscope : scope = scope' := by
    rw [hvalid.scope_eq, hvalid'.scope_eq]
    simp only [intentScope, tagText, hardeningTag, singleValue, named, hpubkey, htags]
  subst hscope
  exact ⟨rfl, Option.some.inj (hfound.symm.trans hfound')⟩

end Valid

end Immortal.Provider
