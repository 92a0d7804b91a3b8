import Immortal.Provider.IntentJournalValid

/-!
# `Immortal.Provider.IntentJournalRuns` — the journal over whole runs, with crashes

A run is a sequence of calls. Any `persist` callback may fail, and the process may stop in any call, before or after
the call's snapshot is durable; it then resumes from the last snapshot whose `persist` succeeded. The world keeps
what the callers were given, each with the snapshot that was durable at that moment.
-/

namespace Immortal.Provider

open Immortal.Domain Immortal.Market Txn List
open Client (Value lowerHex utf8)
open ProviderIntentJournal (restate new checkIntent admitWithAck)

/-! ## Calls -/

inductive JournalCall (Snapshot : Type) where
  | admitIntent (intent : Event) (observedAt : Nat) (sign : SigningRequest → Except String Event)
      (persist : Snapshot → Except String Unit)
  | claim (orderEventId : String) (persist : Snapshot → Except String Unit)
  | record (orderEventId : String) (outcome : Event) (persist : Snapshot → Except String Unit)
  | emit (request : SettlementReceiptEmissionRequest) (sign : SigningRequest → Except String Event)
      (persist : Snapshot → Except String Unit)
  | restate (redriveEventId : String)

/-- What a call gives its caller, beside what the caller asked for. -/
inductive Returned where
  | admitted (intent : Event) (admission : IntentAdmission)
  | claim (orderEventId : String) (claim : EffectAttemptClaim)
  | recorded (orderEventId : String) (outcome : Event) (fresh : Bool)
  | emitted (request : SettlementReceiptEmissionRequest) (emission : ReceiptEmission)
  | restated (redriveEventId : String) (restatement : RedriveRestatement)
deriving DecidableEq

def Answer.map {Snapshot α β : Type} (answer : Answer Snapshot α) (f : α → β) : Answer Snapshot β :=
  { answer with result := answer.result.map f }

/-- The process: its journal, the last snapshot that was stored, every snapshot handed to `persist`, and what the
    callers were given, with the snapshot that was durable at that moment. -/
structure JournalWorld (Snapshot : Type) where
  journal : ProviderIntentJournal
  durable : Option Snapshot
  handed : List Snapshot
  log : List (Returned × Option Snapshot)

section Runs

variable {Snapshot : Type} (env : JournalEnv Snapshot)

def JournalCall.perform (journal : ProviderIntentJournal) : JournalCall Snapshot → Answer Snapshot Returned
  | .admitIntent intent observedAt sign persist =>
    (journal.admitWithAck env intent observedAt sign persist).map (.admitted intent)
  | .claim orderEventId persist => (journal.claimEffectAttempt env orderEventId persist).map (.claim orderEventId)
  | .record orderEventId outcome persist =>
    (journal.recordOutcome env orderEventId outcome persist).map (.recorded orderEventId outcome)
  | .emit request sign persist => (journal.emitReceiptWithSign env request sign persist).map (.emitted request)
  | .restate redriveEventId => (unchanged journal (journal.restate env redriveEventId) []).map (.restated redriveEventId)

/-- The journal of a process that starts again: from the durable snapshot, or as at first. -/
def resume (start : ProviderIntentJournal) : Option Snapshot → Hardened ProviderIntentJournal
  | some snapshot => restore env snapshot
  | none => .ok start

/-- One call. A process that does not survive the call gives nothing back and resumes. -/
def JournalWorld.step (start : ProviderIntentJournal) (world : JournalWorld Snapshot)
    (action : JournalCall Snapshot × Bool) : Hardened (JournalWorld Snapshot) :=
  let answer := action.1.perform env world.journal
  let durable := answer.stored.or world.durable
  let handed := world.handed ++ answer.persisted
  if action.2 then
    .ok { journal := answer.journal, durable, handed,
          log := world.log ++ (answer.result.toOption.map fun value => (value, durable)).toList }
  else
    (resume env start durable).map fun journal => { journal, durable, handed, log := world.log }

def JournalWorld.init (start : ProviderIntentJournal) : JournalWorld Snapshot :=
  { journal := start, durable := none, handed := [], log := [] }

def runJournal (start : ProviderIntentJournal) (actions : List (JournalCall Snapshot × Bool)) :
    Hardened (JournalWorld Snapshot) :=
  actions.foldlM (JournalWorld.step env start) (JournalWorld.init start)

end Runs

/-! ## What a caller is given -/

/-- The journal has such a binding. -/
def Holds (journal : ProviderIntentJournal) (holds : IntentBinding → Prop) : Prop :=
  ∃ (scope : String) (binding : IntentBinding), journal.bindings[scope]? = some binding ∧ holds binding

/-- What was given to a caller is in the journal. -/
def Contained (journal : ProviderIntentJournal) : Returned → Prop
  | .admitted intent (.new acknowledgment) =>
    Holds journal fun binding => binding.intent = intent ∧ binding.acknowledgment = acknowledgment
  | .admitted intent (.replay acknowledgment outcomes receipts) =>
    Holds journal fun binding => binding.intent = intent ∧ binding.acknowledgment = acknowledgment ∧
      binding.outcomes = outcomes ∧ binding.receiptEvents = receipts
  | .claim orderEventId _ =>
    Holds journal fun binding => binding.intent.id = orderEventId ∧ binding.effectAttemptClaimed = true
  | .recorded orderEventId outcome _ =>
    Holds journal fun binding => binding.intent.id = orderEventId ∧ outcome ∈ binding.outcomes
  | .emitted request emission =>
    Holds journal fun binding => binding.intent.id = request.orderEventId ∧ emission.receipt ∈ binding.receiptEvents
  | .restated redriveEventId restatement =>
    (Holds journal fun binding => binding.intent.id = redriveEventId ∧
      binding.acknowledgment = restatement.redriveAcknowledgment) ∧
    Holds journal fun binding => binding.acknowledgment = restatement.originalAcknowledgment ∧
      binding.outcomes = restatement.outcomes ∧ binding.receiptEvents = restatement.receipts

/-- The acknowledgment of an admission. -/
def IntentAdmission.acknowledgment : IntentAdmission → Event
  | .new acknowledgment => acknowledgment
  | .replay acknowledgment _ _ => acknowledgment

/-- What stays in the journal of what was given to a caller. -/
def Remains (journal : ProviderIntentJournal) : Returned → Prop
  | .admitted intent admission =>
    Holds journal fun binding => binding.intent = intent ∧ binding.acknowledgment = admission.acknowledgment
  | .restated _ _ => True
  | given => Contained journal given

variable {journal : ProviderIntentJournal} {value : Returned}

theorem Contained.remains (h : Contained journal value) : Remains journal value := by
  cases value with
  | admitted intent admission =>
    cases admission with
    | new acknowledgment => exact h
    | replay acknowledgment outcomes receipts =>
      obtain ⟨scope, binding, hfound, hintent, hack, -⟩ := h
      exact ⟨scope, binding, hfound, hintent, hack⟩
  | claim orderEventId claim => exact h
  | recorded orderEventId outcome fresh => exact h
  | emitted request emission => exact h
  | restated redriveEventId restatement => trivial

/-- Only a journal with a binding gives anything away. -/
theorem Contained.exists_binding (h : Contained journal value) : Holds journal fun _ => True := by
  cases value with
  | admitted intent admission =>
    cases admission <;>
    · obtain ⟨scope, binding, hfound, -⟩ := h
      exact ⟨scope, binding, hfound, trivial⟩
  | claim | recorded | emitted =>
    obtain ⟨scope, binding, hfound, -⟩ := h
    exact ⟨scope, binding, hfound, trivial⟩
  | restated =>
    obtain ⟨⟨scope, binding, hfound, -⟩, -⟩ := h
    exact ⟨scope, binding, hfound, trivial⟩

variable {later : ProviderIntentJournal}

theorem Holds.keeps {before after : IntentBinding → Prop} (h : Holds journal before)
    (hkeeps : Keeps journal later) (hgrow : ∀ binding grown, Grows binding grown → before binding → after grown) :
    Holds later after := by
  obtain ⟨scope, binding, hfound, hholds⟩ := h
  obtain ⟨grown, hgrown, hgrows⟩ := hkeeps scope binding hfound
  exact ⟨scope, grown, hgrown, hgrow binding grown hgrows hholds⟩

theorem Remains.keeps (h : Remains journal value) (hkeeps : Keeps journal later) :
    Remains later value := by
  cases value with
  | admitted intent admission =>
    refine Holds.keeps h hkeeps fun binding grown hgrows hholds => ?_
    exact ⟨hgrows.intent.trans hholds.1, hgrows.acknowledgment.trans hholds.2⟩
  | claim orderEventId claim =>
    refine Holds.keeps h hkeeps fun binding grown hgrows hholds => ?_
    exact ⟨by rw [hgrows.intent, hholds.1], hgrows.claimed hholds.2⟩
  | recorded orderEventId outcome fresh =>
    refine Holds.keeps h hkeeps fun binding grown hgrows hholds => ?_
    exact ⟨by rw [hgrows.intent, hholds.1], hgrows.outcomes.subset hholds.2⟩
  | emitted request emission =>
    refine Holds.keeps h hkeeps fun binding grown hgrows hholds => ?_
    exact ⟨by rw [hgrows.intent, hholds.1], (hgrows.receipts.map (·.receipt)).subset hholds.2⟩
  | restated => trivial

/-! ## What one call does -/

section Steps

variable {Snapshot : Type} {env : JournalEnv Snapshot}

/-- A commit stores the changed journal or puts the old one back. -/
theorem commit_cases (env : JournalEnv Snapshot) {α : Type} (journal changed : ProviderIntentJournal) (value : α)
    (signed : List SigningRequest) (persist : Snapshot → Except String Unit) (message : String) :
    commit env journal changed value signed persist message =
        ⟨.ok value, changed, signed, [env.toVec changed], some (env.toVec changed)⟩ ∨
      ∃ error, commit env journal changed value signed persist message =
        ⟨.error error, journal, signed, [env.toVec changed], none⟩ := by
  unfold commit
  rcases hpersist : persist (env.toVec changed) with detail | _
  · exact .inr ⟨⟨.persistence, message ++ detail⟩, by simp only [hpersist]⟩
  · exact .inl (by simp only [hpersist])

theorem map_commit {α β : Type} (journal changed : ProviderIntentJournal) (value : α) (signed : List SigningRequest)
    (persist : Snapshot → Except String Unit) (message : String) (f : α → β) :
    (commit env journal changed value signed persist message).map f =
      commit env journal changed (f value) signed persist message := by
  simp only [commit]
  rcases hpersist : persist (env.toVec changed) with detail | _ <;> rfl

/-- How a binding after a call differs from the one before it. -/
inductive BindingStep (env : JournalEnv Snapshot) (journal : ProviderIntentJournal) (scope : String)
    (binding : IntentBinding) : JournalCall Snapshot → Prop
  /-- The binding was there, with the same intent and receipts. -/
  | kept {call : JournalCall Snapshot} (before : IntentBinding) (hfound : journal.bindings[scope]? = some before)
      (hintent : binding.intent = before.intent) (hreceipts : binding.receipts = before.receipts) :
      BindingStep env journal scope binding call
  /-- The binding is a new one. -/
  | admitted {observedAt : Nat} {sign : SigningRequest → Except String Event}
      {persist : Snapshot → Except String Unit} (hreceipts : binding.receipts = []) :
      BindingStep env journal scope binding (.admitIntent binding.intent observedAt sign persist)
  /-- The binding was there and has one receipt more. -/
  | settled {request : SettlementReceiptEmissionRequest} {sign : SigningRequest → Except String Event}
      {persist : Snapshot → Except String Unit} (before : IntentBinding) (stored : StoredReceipt)
      (hfound : journal.bindings[scope]? = some before) (hid : before.intent.id = request.orderEventId)
      (hintent : binding.intent = before.intent) (hstorable : Storable env before stored request.outcomeEventId)
      (hreceipts : binding.receipts = before.receipts ++ [stored]) :
      BindingStep env journal scope binding (.emit request sign persist)

variable (env) in
/-- A call gives back what is in the journal and leaves it alone, or it commits one change and gives back what the
    change has put there. A claim that is given out was not there before. -/
inductive Performed (journal : ProviderIntentJournal) (call : JournalCall Snapshot) : Answer Snapshot Returned → Prop
  | quiet {result : Hardened Returned} {signed : List SigningRequest}
      (hcontained : ∀ value, result = .ok value → Contained journal value ∧ ∀ id, value ≠ .claim id .claimed) :
      Performed journal call (unchanged journal result signed)
  | commits {changed : ProviderIntentJournal} {value : Returned} {signed : List SigningRequest}
      {persist : Snapshot → Except String Unit} {message : String} (hchange : Change env journal changed)
      (hcontained : Contained changed value)
      (hfresh : ∀ id, value = .claim id .claimed →
        Holds journal fun binding => binding.intent.id = id ∧ binding.effectAttemptClaimed = false)
      (hbindings : ∀ (scope : String) (binding : IntentBinding), changed.bindings[scope]? = some binding →
        BindingStep env journal scope binding call) :
      Performed journal call (commit env journal changed value signed persist message)

variable {world : JournalWorld Snapshot} {start : ProviderIntentJournal} {call : JournalCall Snapshot}

/-- An update of one binding steps that binding and keeps the others. -/
theorem bindingStep_update {scope : String} {changed : IntentBinding}
    (h : BindingStep env journal scope changed call) (other : String) (binding : IntentBinding)
    (hfound : (journal.update scope changed).bindings[other]? = some binding) :
    BindingStep env journal other binding call := by
  rcases update_lookup hfound with ⟨rfl, rfl⟩ | hfound
  · exact h
  · exact .kept binding hfound rfl rfl

theorem Performed.refused (error : ProviderHardeningError)
    (signed : List SigningRequest) : Performed env journal call (unchanged journal (.error error) signed) :=
  .quiet fun value hvalue => by cases hvalue

theorem Performed.given (signed : List SigningRequest)
    (hcontained : Contained journal value) (hclaim : ∀ id, value ≠ .claim id .claimed) :
    Performed env journal call (unchanged journal (.ok value) signed) :=
  .quiet fun _ hvalue => by cases hvalue; exact ⟨hcontained, hclaim⟩

section Perform

variable (journal : ProviderIntentJournal) (sign : SigningRequest → Except String Event)
  (persist : Snapshot → Except String Unit)

theorem perform_admitIntent (intent : Event) (observedAt : Nat) :
    Performed env journal (.admitIntent intent observedAt sign persist)
      ((JournalCall.admitIntent intent observedAt sign persist).perform env journal) := by
  simp only [JournalCall.perform]
  rcases admitWithAck_cases journal intent observedAt sign persist with
    ⟨error, signed, h⟩ | ⟨binding, hfound, hintent, h⟩ | ⟨record, acknowledgment, request, hbindable, h⟩
  · rw [h]
    exact .refused error signed
  · rw [h]
    exact .given [] ⟨_, binding, hfound, hintent, rfl, rfl, rfl⟩ (by simp)
  · rw [h, map_commit]
    refine .commits (.admitted hbindable)
      ⟨_, newBinding intent acknowledgment, Std.ExtTreeMap.getElem?_insert_self, rfl, rfl⟩ (by simp) ?_
    intro scope binding hfound
    rcases update_lookup hfound with ⟨-, rfl⟩ | hfound
    · exact .admitted rfl
    · exact .kept binding hfound rfl rfl

theorem perform_claim (orderEventId : String) :
    Performed env journal (.claim orderEventId persist)
      ((JournalCall.claim orderEventId persist).perform env journal) := by
  simp only [JournalCall.perform]
  rcases claimEffectAttempt_cases journal orderEventId persist with
    ⟨error, h⟩ | ⟨scope, binding, hfound, hid, hkind, ⟨hclaimed, h⟩ | ⟨hclaimed, h⟩⟩
  · rw [h]
    exact .refused error []
  · rw [h]
    exact .given [] ⟨scope, binding, hfound, hid, hclaimed⟩ (by simp)
  · rw [h, map_commit]
    refine .commits (.claimed hfound hkind) ⟨scope, _, Std.ExtTreeMap.getElem?_insert_self, hid, rfl⟩ ?_
      (bindingStep_update (.kept binding hfound rfl rfl))
    intro id hvalue
    cases hvalue
    exact ⟨scope, binding, hfound, hid, hclaimed⟩

theorem perform_record (orderEventId : String) (outcome : Event) :
    Performed env journal (.record orderEventId outcome persist)
      ((JournalCall.record orderEventId outcome persist).perform env journal) := by
  simp only [JournalCall.perform]
  rcases recordOutcome_cases journal orderEventId outcome persist with
    ⟨error, h⟩ | ⟨scope, binding, hfound, hid, ⟨hknown, h⟩ | ⟨hvalid, hroom, h⟩⟩
  · rw [h]
    exact .refused error []
  · rw [h]
    exact .given [] ⟨scope, binding, hfound, hid, hknown⟩ (by simp)
  · rw [h, map_commit]
    exact .commits (.recorded hfound hvalid hroom)
      ⟨scope, _, Std.ExtTreeMap.getElem?_insert_self, hid, by simp⟩ (by simp)
      (bindingStep_update (.kept binding hfound rfl rfl))

theorem perform_emit (request : SettlementReceiptEmissionRequest) :
    Performed env journal (.emit request sign persist)
      ((JournalCall.emit request sign persist).perform env journal) := by
  simp only [JournalCall.perform]
  rcases emitReceiptWithSign_cases journal request sign persist with
    ⟨error, signed, h, -⟩ | ⟨scope, binding, hfound, hid, ⟨existing, hmem, h⟩ | ⟨receipt, signing, hstorable, hroom, h⟩⟩
  · rw [h]
    exact .refused error signed
  · rw [h]
    exact .given [] ⟨scope, binding, hfound, hid, mem_map_of_mem hmem⟩ (by simp)
  · rw [h, map_commit]
    exact .commits (.emitted hfound hstorable hroom)
      ⟨scope, _, Std.ExtTreeMap.getElem?_insert_self, hid, by simp [IntentBinding.receiptEvents, ReceiptEmission.receipt]⟩
      (by simp) (bindingStep_update (.settled binding _ hfound hid rfl hstorable rfl))

end Perform

/-- A restatement is about two bindings of the journal. -/
theorem restate_eq_ok {redriveEventId : String} {restatement : RedriveRestatement}
    (h : journal.restate env redriveEventId = .ok restatement) :
    ∃ (redriveScope orderScope orderEventId : String) (redrive order : IntentBinding) (record : MktHardeningRecord),
      journal.bindings[redriveScope]? = some redrive ∧ redrive.intent.id = redriveEventId ∧
      hardeningRecord env redrive.intent none = .ok record ∧ record.kind = .redriveIntent ∧
      record.orderEventId = some orderEventId ∧
      journal.bindings[orderScope]? = some order ∧ order.intent.id = orderEventId ∧
      restatement = ⟨redrive.acknowledgment, order.acknowledgment, order.outcomes, order.receiptEvents⟩ := by
  simp only [restate, bind_eq_ok, refuseWhen_eq_ok, required_eq_ok, not_not, pure_eq_ok] at h
  obtain ⟨redriveScope, hredriveScope, redrive, hredrive, record, hrecord, _, hkind, orderEventId, horderId, orderScope,
    horderScope, order, horder, rfl⟩ := h
  obtain ⟨hredriveFound, hredriveId⟩ := binding_of_scope hredriveScope hredrive
  obtain ⟨horderFound, horderId'⟩ := binding_of_scope horderScope horder
  exact ⟨redriveScope, orderScope, orderEventId, redrive, order, record, hredriveFound, hredriveId, hrecord, hkind,
    horderId, horderFound, horderId', rfl⟩

theorem perform_restate (journal : ProviderIntentJournal) (redriveEventId : String) :
    Performed env journal (.restate redriveEventId) ((JournalCall.restate redriveEventId).perform env journal) := by
  simp only [JournalCall.perform]
  cases hrestate : journal.restate env redriveEventId with
  | error error => exact .refused error []
  | ok restatement =>
    obtain ⟨redriveScope, orderScope, _, redrive, order, _, hredrive, hid, -, -, -, horder, -, rfl⟩ :=
      restate_eq_ok hrestate
    exact .given [] ⟨⟨redriveScope, redrive, hredrive, hid, rfl⟩, orderScope, order, horder, rfl, rfl, rfl⟩ (by simp)

/-- **Every call is quiet or commits one change.** -/
theorem perform_cases (journal : ProviderIntentJournal) (call : JournalCall Snapshot) :
    Performed env journal call (call.perform env journal) := by
  cases call with
  | admitIntent intent observedAt sign persist => exact perform_admitIntent journal sign persist intent observedAt
  | claim orderEventId persist => exact perform_claim journal persist orderEventId
  | record orderEventId outcome persist => exact perform_record journal persist orderEventId outcome
  | emit request sign persist => exact perform_emit journal sign persist request
  | restate redriveEventId => exact perform_restate journal redriveEventId

/-! ## The invariant of a run -/

/-- The Orders whose effect attempt was given out. -/
def claimedIds (log : List (Returned × Option Snapshot)) : List String :=
  log.filterMap fun entry =>
    match entry.1 with
    | .claim id .claimed => some id
    | _ => none

theorem mem_claimedIds {log : List (Returned × Option Snapshot)} {id : String} :
    id ∈ claimedIds log ↔ ∃ durable, (Returned.claim id .claimed, durable) ∈ log := by
  simp only [claimedIds, mem_filterMap]
  constructor
  · rintro ⟨⟨value, durable⟩, hmem, hvalue⟩
    split at hvalue
    · cases hvalue
      rename_i hclaim
      subst hclaim
      exact ⟨durable, hmem⟩
    · cases hvalue
  · rintro ⟨durable, hmem⟩
    exact ⟨_, hmem, rfl⟩

variable (env) in
/-- **What holds after every step of a run.** The journal in memory is the durable one, so nothing a caller was given
    can be lost, and a restart changes nothing. -/
structure WorldInv (start : ProviderIntentJournal) (world : JournalWorld Snapshot) : Prop where
  valid : JournalValid env world.journal
  synced : world.durable = some (env.toVec world.journal) ∨ (world.durable = none ∧ world.journal = start)
  handed : ∀ snapshot ∈ world.handed, ∃ journal, JournalValid env journal ∧ snapshot = env.toVec journal
  contained : ∀ entry ∈ world.log, ∃ journal, JournalValid env journal ∧ entry.2 = some (env.toVec journal) ∧
    Contained journal entry.1
  remains : ∀ entry ∈ world.log, Remains world.journal entry.1
  claims : (claimedIds world.log).Nodup

/-- A step that changes nothing durable and gives nothing back. -/
theorem WorldInv.resumed (henv : env.Lawful) (h : WorldInv env start world) :
    resume env start world.durable = .ok world.journal := by
  rcases h.synced with hdurable | ⟨hdurable, hjournal⟩
  · rw [hdurable]
    exact restore_toVec henv h.valid
  · rw [hdurable, hjournal]
    rfl

/-- The world after a call that survived, whatever was given back. -/
theorem WorldInv.advance (h : WorldInv env start world) (hvalid : JournalValid env journal)
    (hkeeps : Keeps world.journal journal) {durable : Option Snapshot}
    (hsynced : durable = some (env.toVec journal) ∨ (durable = none ∧ journal = start)) {persisted : List Snapshot}
    (hpersisted : ∀ snapshot ∈ persisted, ∃ j, JournalValid env j ∧ snapshot = env.toVec j) {value : Option Returned}
    (hcontained : ∀ v ∈ value, Contained journal v ∧ durable = some (env.toVec journal))
    (hclaim : ∀ id, value = some (.claim id .claimed) → id ∉ claimedIds world.log) :
    WorldInv env start
      { journal, durable, handed := world.handed ++ persisted,
        log := world.log ++ (value.map fun v => (v, durable)).toList } := by
  refine ⟨hvalid, hsynced, forall_mem_append.mpr ⟨h.handed, hpersisted⟩,
    forall_mem_append.mpr ⟨h.contained, ?_⟩,
    forall_mem_append.mpr ⟨fun entry hentry => (h.remains entry hentry).keeps hkeeps, ?_⟩, ?_⟩
  · intro entry hentry
    obtain ⟨v, hv, rfl⟩ := Option.map_eq_some_iff.mp (Option.mem_toList.mp hentry)
    obtain ⟨hin, hdurable⟩ := hcontained v hv
    exact ⟨journal, hvalid, hdurable, hin⟩
  · intro entry hentry
    obtain ⟨v, hv, rfl⟩ := Option.map_eq_some_iff.mp (Option.mem_toList.mp hentry)
    exact (hcontained v hv).1.remains
  · cases value with
    | none => simpa using h.claims
    | some v =>
      simp only [claimedIds, Option.map_some, Option.toList_some, filterMap_append]
      rw [nodup_append]
      refine ⟨h.claims, ?_, ?_⟩
      · rw [filterMap_cons]
        split <;> simp
      · intro id hid id' hid' heq
        subst heq
        have hgiven : v = .claim id .claimed := by
          obtain ⟨durable', hmem⟩ := mem_claimedIds.mp hid'
          simpa [eq_comm] using (Prod.mk.inj (mem_singleton.mp hmem)).1
        exact hclaim id (by rw [hgiven]) hid

/-- What a call gives out as a new claim was not given out before. -/
theorem WorldInv.claim_fresh (henv : env.Lawful) (h : WorldInv env start world) {id scope : String}
    {binding : IntentBinding} (hfound : world.journal.bindings[scope]? = some binding) (hid : binding.intent.id = id)
    (hclaimed : binding.effectAttemptClaimed = false) : id ∉ claimedIds world.log := by
  intro hmem
  obtain ⟨durable, hentry⟩ := mem_claimedIds.mp hmem
  obtain ⟨scope', binding', hfound', hid', hclaimed'⟩ := h.remains _ hentry
  obtain ⟨-, rfl⟩ := h.valid.scope_unique henv hfound hfound' (hid.trans hid'.symm)
  rw [hclaimed] at hclaimed'
  cases hclaimed'

/-- The durable snapshot of a world whose journal holds something. -/
theorem WorldInv.durable_of_contained (hstart : start.bindings = ∅) (h : WorldInv env start world)
    (hcontained : Contained world.journal value) : world.durable = some (env.toVec world.journal) := by
  rcases h.synced with hdurable | ⟨-, hjournal⟩
  · exact hdurable
  · obtain ⟨scope, binding, hfound, -⟩ := hcontained.exists_binding
    rw [hjournal, hstart] at hfound
    simp at hfound

/-- The world after a call whose process survived. -/
def JournalWorld.answered (world : JournalWorld Snapshot) (answer : Answer Snapshot Returned) : JournalWorld Snapshot :=
  { journal := answer.journal, durable := answer.stored.or world.durable, handed := world.handed ++ answer.persisted,
    log := world.log ++ (answer.result.toOption.map fun value => (value, answer.stored.or world.durable)).toList }

theorem WorldInv.answered (henv : env.Lawful) (hstart : start.bindings = ∅) (h : WorldInv env start world)
    {answer : Answer Snapshot Returned} (hperformed : Performed env world.journal call answer) :
    WorldInv env start (world.answered answer) ∧ Keeps world.journal answer.journal := by
  cases hperformed with
  | @quiet result signed hcontained =>
    refine ⟨?_, Keeps.refl _⟩
    refine h.advance h.valid (Keeps.refl _) h.synced (by simp [unchanged]) ?_ ?_
    · intro value hvalue
      obtain ⟨hin, -⟩ := hcontained value (by cases result <;> simp_all [Except.toOption, unchanged])
      exact ⟨hin, h.durable_of_contained hstart hin⟩
    · intro id hvalue
      have := (hcontained (.claim id .claimed) (by cases result <;> simp_all [Except.toOption, unchanged])).2 id
      exact absurd rfl this
  | @commits changed value signed persist message hchange hcontained hfresh _ =>
    have hpersisted : ∀ snapshot ∈ [env.toVec changed], ∃ j, JournalValid env j ∧ snapshot = env.toVec j :=
      fun snapshot hsnapshot => ⟨changed, h.valid.change hchange, mem_singleton.mp hsnapshot⟩
    rcases commit_cases env world.journal changed value signed persist message with hcommit | ⟨error, hcommit⟩
    · -- stored: the change is in memory and durable
      rw [hcommit]
      refine ⟨?_, hchange.keeps⟩
      refine h.advance (h.valid.change hchange) hchange.keeps (.inl rfl) hpersisted ?_ ?_
      · intro v hv
        obtain rfl : value = v := by simpa [Except.toOption] using hv
        exact ⟨hcontained, rfl⟩
      · intro id hid
        obtain ⟨scope, binding, hfound, hintent, hclaimed⟩ := hfresh id (by simpa [Except.toOption] using hid)
        exact h.claim_fresh henv hfound hintent hclaimed
    · -- refused: the old journal is back
      rw [hcommit]
      refine ⟨?_, Keeps.refl _⟩
      exact h.advance h.valid (Keeps.refl _) h.synced hpersisted (by simp [Except.toOption]) (by simp [Except.toOption])

/-- A step never fails and keeps the invariant. -/
theorem WorldInv.step (henv : env.Lawful) (hstart : start.bindings = ∅) (h : WorldInv env start world)
    (action : JournalCall Snapshot × Bool) :
    ∃ next, world.step env start action = .ok next ∧ WorldInv env start next ∧
      next.journal = (action.1.perform env world.journal).journal := by
  obtain ⟨call, survives⟩ := action
  obtain ⟨hanswered, hkeeps⟩ := h.answered henv hstart (perform_cases world.journal call)
  cases survives with
  | true => exact ⟨_, rfl, hanswered, rfl⟩
  | false =>
    -- the process resumes with the journal it would have had
    have hresumed := hanswered.resumed henv
    refine ⟨{ world.answered (call.perform env world.journal) with log := world.log }, ?_, ?_, rfl⟩
    · simp only [JournalWorld.step]
      simp only [JournalWorld.answered] at hresumed ⊢
      rw [hresumed]
      rfl
    · exact ⟨hanswered.valid, hanswered.synced, hanswered.handed, h.contained,
        fun entry hentry => (h.remains entry hentry).keeps hkeeps, h.claims⟩

theorem WorldInv.init (hvalid : JournalValid env start) : WorldInv env start (JournalWorld.init start) :=
  ⟨hvalid, .inr ⟨rfl, rfl⟩, by simp [JournalWorld.init], by simp [JournalWorld.init], by simp [JournalWorld.init],
    by simp [JournalWorld.init, claimedIds]⟩

theorem new_bindings {providerPubkey sessionId : String}
    (h : new providerPubkey sessionId = .ok start) : start.bindings = ∅ := by
  simp only [new, bind_eq_ok, pure_eq_ok] at h
  obtain ⟨_, -, _, -, rfl⟩ := h
  rfl

/-- What a property of journals needs to hold after every run: that it holds at first and is kept by every call that
    the run takes. -/
theorem runJournal_induct {providerPubkey sessionId : String} (henv : env.Lawful)
    (hstart : new providerPubkey sessionId = .ok start) (holds : ProviderIntentJournal → Prop)
    (actions : List (JournalCall Snapshot × Bool)) (hinit : holds start)
    (hstep : ∀ journal, ∀ action ∈ actions, holds journal → holds (action.1.perform env journal).journal) :
    ∃ world, runJournal env start actions = .ok world ∧ WorldInv env start world ∧ holds world.journal := by
  induction actions using reverseRecOn with
  | nil => exact ⟨_, rfl, WorldInv.init (JournalValid.new hstart), hinit⟩
  | append_singleton actions action ih =>
    obtain ⟨world, hrun, hinv, hholds⟩ := ih fun journal a ha => hstep journal a (mem_append_left _ ha)
    obtain ⟨next, hnext, hinv', hjournal⟩ := hinv.step henv (new_bindings hstart) action
    refine ⟨next, ?_, hinv', by rw [hjournal]; exact hstep _ action (by simp) hholds⟩
    simp only [runJournal] at hrun ⊢
    rw [foldlM_append, hrun]
    show foldlM (JournalWorld.step env start) world [action] = .ok next
    rw [foldlM_cons, hnext]
    rfl

theorem runJournal_inv {providerPubkey sessionId : String} (henv : env.Lawful)
    (hstart : new providerPubkey sessionId = .ok start)
    (actions : List (JournalCall Snapshot × Bool)) :
    ∃ world, runJournal env start actions = .ok world ∧ WorldInv env start world := by
  obtain ⟨world, hrun, hinv, -⟩ := runJournal_induct henv hstart (fun _ => True) actions trivial fun _ _ _ _ => trivial
  exact ⟨world, hrun, hinv⟩

end Steps

/-! ## A session with a third key -/

def redriveKey : String := "6666666666666666666666666666666666666666666666666666666666666666"

def redriveNonce : String := "dddddddddddddddddddddddddddddddddddddddddddddddddddddddddddddddd"

/-- A Re-drive of the Order by a key that is not the requester's, and its acknowledgment. -/
def strangerRedrive : Event where
  id := "a7a7f6dc0ba94ec8ab68f2c5e31ebf6757a855b03b2d6b20ec6e1b9a4ec21a99"
  pubkey := demoSuccessor
  createdAt := 1200
  kind := 39612
  tags := sessionTags redriveKey demoProvider "provider" "MKT-SWP Re-drive" ++
    [["e", chainOrder.id, "", "order"], ["e", chainAck.id, "", "ack"], ["intent", "redrive"], ["nonce", redriveNonce],
      ["nonce_at", "1200"]]
  content :=
    "\x7b\"intent\":\x7b\"ack_deadline_seconds\":30,\"ack_event_id\":\"" ++ chainAck.id ++
    "\",\"idempotency_key\":\"" ++ redriveKey ++ "\",\"last_known_event_id\":null,\"nonce\":\"" ++ redriveNonce ++
    "\",\"nonce_at\":1200,\"order_event_id\":\"" ++ chainOrder.id ++
    "\",\"outcome_deadline_seconds\":300,\"response_pubkey\":\"" ++ demoSuccessor ++
    "\"\x7d,\"profile\":\"mkt-swp\",\"profile_version\":1,\"protocol_rev\":2,\"schema\":\"openagents.mkt.v2\",\"sess" ++
    "ion_id\":\"" ++ chainSession ++ "\"\x7d"
  sig := "af8da46d1a12a47cd47683e0eaf78f55f5a3b19b2b71ad42838980433030f138" ++
    "287a3f60ab0f7fd7dd6a7d1946d26809cb22305b59e551197a7c756527578f98"

def strangerRedriveAck : Event where
  id := "cf1ea093dc8e1db7bfd2c98b4d25a1015d45a09c5c3904a09105789ecac0e25d"
  pubkey := demoProvider
  createdAt := 1200
  kind := 39611
  tags := ackTags "0806fdaf1e13bf93e131d66d7a98a2128a66e20093c1aadfb77eae1105adff09" demoSuccessor
    strangerRedrive.id "1500"
  content := ackContent strangerRedrive.id redriveKey "1200"
  sig := "e105cc1cad198a0d76f18750b5cf8f6d44b16eb23a4e9ec89a0280b5dd2b1056" ++
    "5d248f7fd4b4a6c6b33df559e896bc837fa877fb86d2e51ef2041e66dea242af"

def redriveEnvelope : MktPrivateEnvelope :=
  hardenedEnvelope "intent"
    [("ack_deadline_seconds", .integer 30), ("ack_event_id", .string chainAck.id),
      ("idempotency_key", .string redriveKey), ("last_known_event_id", .null), ("nonce", .string redriveNonce),
      ("nonce_at", .integer 1200), ("order_event_id", .string chainOrder.id),
      ("outcome_deadline_seconds", .integer 300), ("response_pubkey", .string demoSuccessor)] []

def sessionRecords : List (Event × MktPrivateEnvelope) :=
  chainRecords ++
    [(strangerRedrive, redriveEnvelope), (strangerRedriveAck, ackEnvelope strangerRedrive.id redriveKey 1200)]

/-- The text of the content of an acknowledgment. -/
def ackText : Value → String
  | .object [_, _, _, _, _, (_, .object [(_, .string intentId), (_, .string key), _, (_, .integer acceptedAt), _])] =>
    ackContent intentId key (toString acceptedAt)
  | _ => ""

/-- The digests of the names of the two acknowledgments, which one byte tells apart. -/
def ackDigest (bytes : Bytes) : Bytes32 :=
  Bitcoin.beBytes32 <|
    if bytes[76]? = some 53 then 0x126199e2af54ea45839ed050c9c6bbd8845f6fecd26794371b8fa04ed3a20f2b
    else 0x0806fdaf1e13bf93e131d66d7a98a2128a66e20093c1aadfb77eae1105adff09

def sessionMarket : ReceiptEnv := recordsEnv sessionRecords [] ackText ackDigest

def sessionEnv : JournalEnv ProviderIntentJournal where
  toReceiptEnv := sessionMarket
  toVec := id
  fromSlice := .ok

def sessionStart : ProviderIntentJournal := ⟨journalSchema, demoProvider, chainSession, ∅, ∅⟩

def orderRecord : MktHardeningRecord :=
  ⟨.effectfulIntent, chainKey, some chainNonce, some 1000, chainRequester, some 30, some 300, none, none, none, none,
    none, none, none⟩

def redriveRecord : MktHardeningRecord :=
  ⟨.redriveIntent, redriveKey, some redriveNonce, some 1200, demoSuccessor, some 30, some 300, none,
    some chainOrder.id, some chainAck.id, none, none, none, none⟩

def ackRecord (intentId key response : String) (acceptedAt : Nat) : MktHardeningRecord :=
  ⟨.acknowledgment, key, none, none, response, none, none, some intentId, none, none, none, some "accepted",
    some acceptedAt, none⟩

/-- The texts of the session, evaluated. -/
class SessionTexts : Prop where
  party : isLowerHex32 demoProvider = true ∧ isLowerHex32 chainSession = true
  redrives : strangerRedrive.validateStructure = .ok () ∧ strangerRedriveAck.validateStructure = .ok ()
  tags : ∀ record ∈ sessionRecords, sessionTag record.1 = .ok record.2.sessionId
  ids : (sessionRecords.map (·.1.id)).Nodup
  digests : ∀ pair ∈ [(chainOrder, chainAck), (strangerRedrive, strangerRedriveAck)],
    lowerHex (sessionEnv.sha256 (utf8 ("mkt-v2-ack:" ++ demoProvider ++ ":" ++ pair.1.id))).1 = tagText pair.2 "d"
  order : validateMktHardeningEvent chainOrder orderEnvelope (some 1001) = .ok orderRecord
  late : validateMktHardeningEvent chainOrder orderEnvelope (some 1301) =
    .error ⟨.nonceWindow, "intent nonce_at is outside the accepted observation window"⟩
  ack : validateMktHardeningEvent chainAck (ackEnvelope chainOrder.id chainKey 1001) none =
    .ok (ackRecord chainOrder.id chainKey chainRequester 1001)
  redrive : validateMktHardeningEvent strangerRedrive redriveEnvelope (some 1200) = .ok redriveRecord
  redriveAck : validateMktHardeningEvent strangerRedriveAck (ackEnvelope strangerRedrive.id redriveKey 1200) none =
    .ok (ackRecord strangerRedrive.id redriveKey demoSuccessor 1200)

instance sessionTexts : SessionTexts := by
  constructor <;> decide +kernel

theorem sessionStart_new : new demoProvider chainSession = .ok sessionStart := by
  simp only [new, journalHex32, bind_eq_ok, refuseWhen_eq_ok]
  exact ⟨(), by simp [sessionTexts.party], (), by simp [sessionTexts.party], rfl⟩

theorem sessionRecords_readable : Readable sessionRecords where
  wellFormed := forall_mem_append.mpr ⟨chainRecords_wellFormed, by simp [sessionTexts.redrives]⟩
  found := by
    simp only [sessionRecords, chainRecords, cons_append, nil_append, forall_mem_cons, not_mem_nil,
      false_imp_iff, implies_true, and_true]
    exact ⟨rfl, rfl, rfl, rfl, rfl⟩
  session := sessionTexts.tags

section
variable {event : Event} {body : MktPrivateEnvelope} (h : (event, body) ∈ sessionRecords)
include h

theorem session_signed : sessionEnv.validateSigned event = .ok () :=
  show sessionMarket.validateSigned event = .ok () from sessionRecords_readable.signed h

theorem session_envelope : sessionEnv.validateMktPrivate event = .ok body :=
  show sessionMarket.validateMktPrivate event = .ok body from sessionRecords_readable.envelope h

end

theorem sessionEnv_lawful : sessionEnv.Lawful where
  roundTrip _ := rfl
  idsBind event event' hsigned hsigned' hid := by
    have hknown : ∀ {event}, sessionEnv.validateSigned event = .ok () → ∃ record ∈ sessionRecords, record.1 = event := by
      intro event hsigned
      have hcrypto := (MktEnv.validateSigned_eq_ok.mp hsigned).2
      by_contra hnone
      simp [sessionEnv, sessionMarket, recordsEnv, hnone] at hcrypto
    obtain ⟨record, hmem, rfl⟩ := hknown hsigned
    obtain ⟨record', hmem', rfl⟩ := hknown hsigned'
    rw [inj_on_of_nodup_map sessionTexts.ids hmem hmem' hid]
    exact ⟨rfl, rfl⟩

/-- The request that an event answers. -/
def requestOf (event : Event) : SigningRequest :=
  ⟨event.pubkey, event.createdAt, event.kind, event.tags, event.content, event.id⟩

def persists (_ : ProviderIntentJournal) : Except String Unit := .ok ()

variable {observedAt : Nat}

/-- An intent and an acknowledgment of the session that the journal has room for are admitted. -/
theorem admission_new {intent ack : Event} {intentBody ackBody : MktPrivateEnvelope}
    {record acknowledged : MktHardeningRecord} {nonce : String}
    (hintent : (intent, intentBody) ∈ sessionRecords) (hack : (ack, ackBody) ∈ sessionRecords)
    (hrecord : validateMktHardeningEvent intent intentBody (some observedAt) = .ok record)
    (hackRecord : validateMktHardeningEvent ack ackBody none = .ok acknowledged)
    (hrequest : acknowledgmentRequest sessionEnv journal.providerPubkey intent record observedAt = .ok (requestOf ack))
    (hfresh : record.kind ≠ .acknowledgment ∧ record.nonce = some nonce ∧ journal.sessionId = intentBody.sessionId ∧
      requireProviderRecipient intent journal.providerPubkey = .ok () ∧
      journal.bindings[scopeKey intent.pubkey record.idempotencyKey]? = none ∧
      journal.nonces[nonceKey intent.pubkey nonce]? = none ∧ journal.bindings.size < maxIntentBindings ∧
      journal.checkTarget record = .ok ())
    (hbinds : ack.pubkey = journal.providerPubkey ∧ acknowledged.kind = .acknowledgment ∧
      acknowledged.intentEventId = some intent.id ∧ acknowledged.idempotencyKey = record.idempotencyKey ∧
      acknowledged.responsePubkey = record.responsePubkey ∧ acknowledged.disposition = some "accepted") :
    journal.admitWithAck sessionEnv intent observedAt (fun _ => .ok ack) persists =
      ⟨.ok (.new ack), journal.bind intent record nonce ack, [requestOf ack], [journal.bind intent record nonce ack],
        some (journal.bind intent record nonce ack)⟩ := by
  obtain ⟨hkind, hnonce, hsession, hrecipient, hscope, hunused, hroom, htarget⟩ := hfresh
  have hchecked : journal.checkIntent sessionEnv intent observedAt = .ok (.fresh record nonce (requestOf ack)) := by
    simp only [checkIntent, bind_eq_ok, requireSigned_eq_ok, refuseWhen_eq_ok,
      hardeningRecord_eq_ok, hardeningEnvelope_eq_ok]
    refine ⟨(), session_signed hintent, record, ⟨_, session_envelope hintent, hrecord⟩, (), hkind, intentBody,
      session_envelope hintent, (), not_not.mpr hsession, (), hrecipient, ?_⟩
    simp [hscope, hnonce, hunused, htarget, hrequest, required, refuseWhen, Nat.not_le.mpr hroom, bind, Except.bind, pure,
      Except.pure]
  have hacknowledged : signedAcknowledgment sessionEnv journal intent record (requestOf ack) (fun _ => .ok ack) =
      .ok ack := by
    simp only [signedAcknowledgment, SigningRequest.verifySigned, validateAcknowledgment, bind_eq_ok,
      requireSigned_eq_ok, refuseWhen_eq_ok, hardeningRecord_eq_ok]
    exact ⟨ack, rfl, ack, ⟨(), by simp [requestOf], (), session_signed hack, rfl⟩, (), ⟨(), session_signed hack,
      acknowledged, ⟨ackBody, session_envelope hack, hackRecord⟩, by simp [hbinds]⟩, rfl⟩
  simp only [admitWithAck, hchecked, hacknowledged]
  rfl

theorem order_mem : (chainOrder, orderEnvelope) ∈ sessionRecords := by simp [sessionRecords, chainRecords]

theorem redrive_mem : (strangerRedrive, redriveEnvelope) ∈ sessionRecords := by simp [sessionRecords]

/-- The journal asks for the acknowledgments that the session has. -/
theorem session_ackRequests :
    acknowledgmentRequest sessionEnv demoProvider chainOrder orderRecord 1001 = .ok (requestOf chainAck) ∧
      acknowledgmentRequest sessionEnv demoProvider strangerRedrive redriveRecord 1200 =
        .ok (requestOf strangerRedriveAck) := by
  have hdigest := sessionTexts.digests
  simp only [forall_mem_cons] at hdigest
  simp only [acknowledgmentRequest, signingRequest, bind_eq_ok, hardeningEnvelope_eq_ok,
    hdigest]
  exact ⟨⟨300, rfl, orderEnvelope, session_envelope order_mem, chainAck.id, rfl, rfl⟩,
    ⟨300, rfl, redriveEnvelope, session_envelope redrive_mem, strangerRedriveAck.id, rfl, rfl⟩⟩

/-- The journal with the Order bound. -/
def orderJournal : ProviderIntentJournal := sessionStart.bind chainOrder orderRecord chainNonce chainAck

theorem order_admitted :
    sessionStart.admitWithAck sessionEnv chainOrder 1001 (fun _ => .ok chainAck) persists =
      ⟨.ok (.new chainAck), orderJournal, [requestOf chainAck], [orderJournal], some orderJournal⟩ := by
  have hack : (chainAck, ackEnvelope chainOrder.id chainKey 1001) ∈ sessionRecords := by
    simp [sessionRecords, chainRecords]
  exact admission_new order_mem hack sessionTexts.order sessionTexts.ack session_ackRequests.1 (by decide +kernel)
    (by decide)

def orderAdmission : JournalCall ProviderIntentJournal := .admitIntent chainOrder 1001 (fun _ => .ok chainAck) persists

def orderAdmitted : JournalWorld ProviderIntentJournal :=
  ⟨orderJournal, some orderJournal, [orderJournal], [(.admitted chainOrder (.new chainAck), some orderJournal)]⟩

theorem run_orderAdmission : runJournal sessionEnv sessionStart [(orderAdmission, true)] = .ok orderAdmitted := by
  simp only [runJournal, foldlM_cons, JournalWorld.step, orderAdmission, JournalCall.perform,
    JournalWorld.init, order_admitted]
  rfl

/-! ## Results -/

section Results

variable {Snapshot : Type}

/-- **At-most-once effects across crashes.** In every run, with any `persist` callback failing and the process stopping
    in any call, the claim of an Order's effect attempt is given out at most once; whatever a caller is given is in
    the snapshot that is durable at that moment, which restores to a journal that holds it; two admissions of one
    requester under one idempotency key or one nonce are of one intent event; and every snapshot handed to `persist`
    restores to the journal it was made from. -/
theorem effects_at_most_once (env : JournalEnv Snapshot) (henv : env.Lawful) (providerPubkey sessionId : String)
    (start : ProviderIntentJournal) (hstart : ProviderIntentJournal.new providerPubkey sessionId = .ok start)
    (actions : List (JournalCall Snapshot × Bool)) :
    ∃ world, runJournal env start actions = .ok world ∧
      (claimedIds world.log).Nodup ∧
      (∀ entry ∈ world.log, ∃ snapshot journal, entry.2 = some snapshot ∧ restore env snapshot = .ok journal ∧
        Contained journal entry.1) ∧
      (∀ intent admission durable intent' admission' durable',
        (Returned.admitted intent admission, durable) ∈ world.log →
        (Returned.admitted intent' admission', durable') ∈ world.log → intent.pubkey = intent'.pubkey →
        (tagText intent "d" = tagText intent' "d" ∨ tagText intent "nonce" = tagText intent' "nonce") →
        intent.id = intent'.id) ∧
      ∀ snapshot ∈ world.handed, ∃ journal, snapshot = env.toVec journal ∧ restore env snapshot = .ok journal := by
  obtain ⟨world, hrun, hinv⟩ := runJournal_inv henv hstart actions
  refine ⟨world, hrun, hinv.claims, ?_, ?_, ?_⟩
  · intro entry hentry
    obtain ⟨journal, hvalid, hdurable, hcontained⟩ := hinv.contained entry hentry
    exact ⟨_, journal, hdurable, restore_toVec henv hvalid, hcontained⟩
  · intro intent admission durable intent' admission' durable' hentry hentry' hpubkey hkey
    obtain ⟨scope, binding, hfound, rfl, -⟩ := hinv.remains _ hentry
    obtain ⟨scope', binding', hfound', rfl, -⟩ := hinv.remains _ hentry'
    rcases hkey with hkey | hkey
    · -- one key, one binding
      have hscope : scope = scope' := by
        rw [(hinv.valid.bindings scope binding hfound).scope_eq, (hinv.valid.bindings scope' binding' hfound').scope_eq,
          intentScope, intentScope, hpubkey, hkey]
      rw [hscope, hfound'] at hfound
      cases hfound
      rfl
    · -- one nonce, one id in the index
      have hnonce := hinv.valid.nonces_of_bindings scope binding hfound
      have hnonce' := hinv.valid.nonces_of_bindings scope' binding' hfound'
      rw [intentNonceKey, hpubkey, hkey, ← intentNonceKey, hnonce'] at hnonce
      exact (Option.some.inj hnonce).symm
  · intro snapshot hsnapshot
    obtain ⟨journal, hvalid, rfl⟩ := hinv.handed snapshot hsnapshot
    exact ⟨journal, rfl, restore_toVec henv hvalid⟩

/-- The process stops in the call that claims the effect of the Order. -/
theorem effects_at_most_once_order :
    ∃ world, runJournal sessionEnv sessionStart [(orderAdmission, true), (.claim chainOrder.id persists, false)] =
      .ok world ∧ (claimedIds world.log).Nodup := by
  obtain ⟨world, hrun, hclaims, -⟩ := effects_at_most_once sessionEnv sessionEnv_lawful demoProvider chainSession
    sessionStart sessionStart_new [(orderAdmission, true), (.claim chainOrder.id persists, false)]
  exact ⟨world, hrun, hclaims⟩

variable {binding : IntentBinding} {env : JournalEnv Snapshot} {scope : String}

/-- An intent that passes the checks of admission is within the window of its nonce. -/
theorem checkIntent_window {intent : Event} {checked : CheckedIntent}
    (h : journal.checkIntent env intent observedAt = .ok checked) :
    ∃ head, intentHead intent = .ok head ∧ withinNonceWindow observedAt head.nonceAt := by
  simp only [checkIntent, bind_eq_ok, refuseWhen_eq_ok, hardeningRecord_observed] at h
  obtain ⟨_, -, record, ⟨hrecord, hwindow⟩, _, hkind, -⟩ := h
  obtain ⟨-, -, ⟨head, hhead, hnonceAt⟩, -⟩ := hardeningRecord_keys hrecord hkind
  exact ⟨head, hhead, hwindow head.nonceAt hnonceAt⟩

/-- A bound intent within the window passes them all, and its binding is found. -/
theorem checkIntent_bound (h : JournalValid env journal) (hfound : journal.bindings[scope]? = some binding) {head : IntentHead} (hhead : intentHead binding.intent = .ok head)
    (hwindow : withinNonceWindow observedAt head.nonceAt) :
    journal.checkIntent env binding.intent observedAt = .ok (.bound binding) := by
  have hvalid := h.bindings scope binding hfound
  obtain ⟨record, hrecord, hkind, -⟩ := hvalid.record
  obtain ⟨envelope, henvelope, hsession⟩ := hvalid.session
  obtain ⟨hkey, -, ⟨head', hhead', hnonceAt⟩, -⟩ := hardeningRecord_keys hrecord hkind
  rw [hhead] at hhead'
  cases hhead'
  simp only [checkIntent, bind_eq_ok, requireSigned_eq_ok, refuseWhen_eq_ok,
    hardeningEnvelope_eq_ok, not_not, hardeningRecord_observed]
  refine ⟨(), hvalid.signed, record, ⟨hrecord, ?_⟩, (), hkind, envelope, henvelope, (), hsession.symm, (),
    hvalid.recipient, ?_⟩
  · intro nonceAt hmem
    rw [hnonceAt] at hmem
    cases hmem
    exact hwindow
  · have hscope : journal.bindings[scopeKey binding.intent.pubkey record.idempotencyKey]? = some binding := by
      rw [hkey, ← intentScope, ← hvalid.scope_eq, hfound]
    simp [hscope, refuseWhen, bind, Except.bind, pure, Except.pure]

/-- **Exact replay.** After any run, admitting an intent again that was admitted before returns a replay with the
    original acknowledgment and the outcomes and receipts recorded by then, calls neither `sign` nor `persist` and
    leaves the journal as it is, exactly when the clock is within the window of the intent's nonce. -/
theorem replay_iff_in_window (env : JournalEnv Snapshot) (henv : env.Lawful) (providerPubkey sessionId : String)
    (start : ProviderIntentJournal) (hstart : ProviderIntentJournal.new providerPubkey sessionId = .ok start)
    (actions : List (JournalCall Snapshot × Bool)) (world : JournalWorld Snapshot)
    (hrun : runJournal env start actions = .ok world) (intent : Event) (admission : IntentAdmission)
    (durable : Option Snapshot) (hadmitted : (Returned.admitted intent admission, durable) ∈ world.log) :
    ∃ (scope : String) (binding : IntentBinding), world.journal.bindings[scope]? = some binding ∧
      binding.intent = intent ∧ binding.acknowledgment = admission.acknowledgment ∧
      ∀ observedAt sign persist,
        world.journal.admitWithAck env intent observedAt sign persist = unchanged world.journal
            (.ok (.replay binding.acknowledgment binding.outcomes binding.receiptEvents)) [] ↔
          ∃ head, intentHead intent = .ok head ∧ withinNonceWindow observedAt head.nonceAt := by
  obtain ⟨world', hrun', hinv⟩ := runJournal_inv henv hstart actions
  obtain rfl : world' = world := Except.ok.inj (hrun'.symm.trans hrun)
  obtain ⟨scope, binding, hfound, rfl, hack⟩ := hinv.remains _ hadmitted
  refine ⟨scope, binding, hfound, rfl, hack, fun observedAt sign persist => ?_⟩
  constructor
  · intro hanswer
    rcases hcheck : world'.journal.checkIntent env binding.intent observedAt with error | checked
    · -- a refusal is not a replay
      simp only [ProviderIntentJournal.admitWithAck, hcheck, unchanged, Answer.mk.injEq] at hanswer
      cases hanswer.1
    · exact checkIntent_window hcheck
  · rintro ⟨head, hhead, hwindow⟩
    simp only [ProviderIntentJournal.admitWithAck, checkIntent_bound hinv.valid hfound hhead hwindow]

/-- The Order is replayed until its nonce is 300 seconds old. -/
theorem replay_iff_in_window_order : ∃ binding : IntentBinding, binding.acknowledgment = chainAck ∧
    orderJournal.admitWithAck sessionEnv chainOrder 1300 (fun _ => .ok chainAck) persists = unchanged orderJournal
      (.ok (.replay binding.acknowledgment binding.outcomes binding.receiptEvents)) [] := by
  obtain ⟨_, binding, -, -, hack, hreplay⟩ := replay_iff_in_window sessionEnv sessionEnv_lawful demoProvider chainSession
    sessionStart sessionStart_new _ orderAdmitted run_orderAdmission chainOrder (.new chainAck) _ (List.mem_singleton_self _)
  refine ⟨binding, hack, (hreplay 1300 _ _).mpr ?_⟩
  exact ⟨⟨chainKey, chainNonce, 1000⟩, rfl, by decide⟩

/-- One second later the provider refuses the event it has acknowledged. -/
theorem late_replay_refused :
    runJournal sessionEnv sessionStart [(orderAdmission, true)] = .ok orderAdmitted ∧
      (orderAdmitted.journal.admitWithAck sessionEnv chainOrder 1301 (fun _ => .ok chainAck) persists).result =
        .error ⟨.nonceWindow, "intent nonce_at is outside the accepted observation window"⟩ := by
  have hsigned : requireSigned sessionEnv chainOrder = .ok () := requireSigned_eq_ok.mpr (session_signed order_mem)
  refine ⟨run_orderAdmission, ?_⟩
  rw [ProviderIntentJournal.admitWithAck, ProviderIntentJournal.checkIntent, hsigned]
  rfl

/-! ### One requester, one Close -/

/-- A binding after a commit is one of the journal's or one of the changed journal's. -/
theorem commit_binding {α : Type} {changed : ProviderIntentJournal} {value : α} {signed : List SigningRequest}
    {persist : Snapshot → Except String Unit} {message : String}
    (h : (commit env journal changed value signed persist message).journal.bindings[scope]? = some binding) :
    journal.bindings[scope]? = some binding ∨ changed.bindings[scope]? = some binding := by
  rcases commit_cases env journal changed value signed persist message with hcommit | ⟨error, hcommit⟩
  · rw [hcommit] at h
    exact .inr h
  · rw [hcommit] at h
    exact .inl h

theorem bindingStep (call : JournalCall Snapshot)
    (h : (call.perform env journal).journal.bindings[scope]? = some binding) :
    BindingStep env journal scope binding call := by
  have hperformed : Performed env journal call (call.perform env journal) := perform_cases journal call
  generalize call.perform env journal = answer at h hperformed
  cases hperformed with
  | quiet _ => exact .kept binding h rfl rfl
  | commits _ _ _ hbindings =>
    rcases commit_binding h with h | h
    · exact .kept binding h rfl rfl
    · exact hbindings scope binding h

/-- Every receipt asked for that Order is asked for that Close. -/
def NamesOneClose (orderEventId outcomeEventId : String) (actions : List (JournalCall Snapshot × Bool)) : Prop :=
  ∀ request sign persist survives, (JournalCall.emit request sign persist, survives) ∈ actions →
    request.orderEventId = orderEventId → request.outcomeEventId = outcomeEventId

/-- The Order's binding has no receipt, or the one of that Close. -/
def OneReceipt (orderEventId outcomeEventId : String) (journal : ProviderIntentJournal) : Prop :=
  ∀ (scope : String) binding, journal.bindings[scope]? = some binding → binding.intent.id = orderEventId →
    binding.receipts = [] ∨ ∃ stored, binding.receipts = [stored] ∧ stored.settles outcomeEventId = true

theorem OneReceipt.perform {orderEventId outcomeEventId : String} (h : OneReceipt orderEventId outcomeEventId journal)
    (call : JournalCall Snapshot) (hcall : ∀ request sign persist, call = .emit request sign persist →
      request.orderEventId = orderEventId → request.outcomeEventId = outcomeEventId) :
    OneReceipt orderEventId outcomeEventId (call.perform env journal).journal := by
  intro scope binding hfound hid
  cases bindingStep call hfound with
  | kept before hbefore hintent hreceipts =>
    rw [hreceipts]
    exact h scope before hbefore (by rw [← hintent, hid])
  | admitted hreceipts => exact .inl hreceipts
  | @settled request sign persist before stored hbefore hbeforeId hintent hstorable hreceipts =>
    have horder : before.intent.id = orderEventId := by rw [← hintent, hid]
    have hclose : request.outcomeEventId = outcomeEventId := hcall _ _ _ rfl (hbeforeId.symm.trans horder)
    rcases h scope before hbefore horder with hnone | ⟨earlier, hone, hsettles⟩
    · exact .inr ⟨stored, by rw [hreceipts, hnone, nil_append], hclose ▸ hstorable.settles⟩
    · -- a Close with a receipt gets no second one
      have hfirst := hstorable.first
      simp [hone, hclose, hsettles] at hfirst

/-- **One Settlement Receipt for one Close.** In a run in which every receipt asked for an Order is asked for the same
    Close, the receipts emitted for the Order are one event, and asking for it again fails or returns that event,
    without signing, persisting or changing anything. -/
theorem one_receipt_of_one_close (env : JournalEnv Snapshot) (henv : env.Lawful) (providerPubkey sessionId : String)
    (start : ProviderIntentJournal) (hstart : new providerPubkey sessionId = .ok start)
    (orderEventId outcomeEventId : String) (actions : List (JournalCall Snapshot × Bool))
    (hone : NamesOneClose orderEventId outcomeEventId actions) :
    ∃ world, runJournal env start actions = .ok world ∧
      ∀ request emission durable, (Returned.emitted request emission, durable) ∈ world.log →
        request.orderEventId = orderEventId →
        (∀ request' emission' durable', (Returned.emitted request' emission', durable') ∈ world.log →
          request'.orderEventId = orderEventId → emission'.receipt = emission.receipt) ∧
        ∀ later sign persist, later.orderEventId = orderEventId → later.outcomeEventId = outcomeEventId →
          ∃ result, world.journal.emitReceiptWithSign env later sign persist = unchanged world.journal result [] ∧
            ∀ given, result = .ok given → given = .replay emission.receipt := by
  obtain ⟨world, hrun, hinv, hreceipts⟩ := runJournal_induct henv hstart (OneReceipt orderEventId outcomeEventId) actions
    (by simp [OneReceipt, new_bindings hstart]) (by
    rintro journal ⟨call, survives⟩ hmem hreceipts
    apply hreceipts.perform call
    rintro request sign persist rfl
    exact hone request sign persist survives hmem)
  refine ⟨world, hrun, fun request emission durable hentry horder => ?_⟩
  -- the one binding of the Order holds the one receipt
  obtain ⟨scope, binding, hfound, hid, hmem⟩ := hinv.remains _ hentry
  have hbindingId : binding.intent.id = orderEventId := hid.trans horder
  obtain ⟨stored, hstored, hsettles⟩ : ∃ stored, binding.receipts = [stored] ∧ stored.settles outcomeEventId = true := by
    rcases hreceipts scope binding hfound hbindingId with hnone | hsome
    · rw [IntentBinding.receiptEvents, hnone] at hmem
      cases hmem
    · exact hsome
  have hemission : emission.receipt = stored.receipt := by simpa [IntentBinding.receiptEvents, hstored] using hmem
  have hunique : ∀ (scope' : String) binding', world.journal.bindings[scope']? = some binding' →
      binding'.intent.id = orderEventId → binding' = binding := by
    intro scope' binding' hfound' hid'
    exact (hinv.valid.scope_unique henv hfound' hfound (hid'.trans hbindingId.symm)).2
  refine ⟨?_, ?_⟩
  · intro request' emission' durable' hentry' horder'
    obtain ⟨scope', binding', hfound', hid', hmem'⟩ := hinv.remains _ hentry'
    rw [hunique scope' binding' hfound' (hid'.trans horder')] at hmem'
    rw [hemission]
    simpa [IntentBinding.receiptEvents, hstored] using hmem'
  · intro later sign persist hlater hclose
    rcases emitReceiptWithSign_cases world.journal later sign persist with
      ⟨error, signed, hcase, hsigned⟩ | ⟨scope', binding', hfound', hid', ⟨existing, hexisting, hcase⟩ |
        ⟨receipt, signing, hstorable, -, -⟩⟩
    · -- a refusal after signing would be about a Close without a receipt
      have hquiet : signed = [] := by
        by_contra hne
        obtain ⟨scope', binding', hfound', hid', hnone⟩ := hsigned hne
        rw [hunique scope' binding' hfound' (hid'.trans hlater)] at hnone
        simp [hstored, hclose, hsettles] at hnone
      rw [hquiet] at hcase
      exact ⟨_, hcase, fun given hgiven => by cases hgiven⟩
    · rw [hunique scope' binding' hfound' (hid'.trans hlater), hstored, mem_singleton] at hexisting
      refine ⟨_, hcase, fun given hgiven => ?_⟩
      rw [← Except.ok.inj hgiven, hexisting, hemission]
    · have hfirst := hstorable.first
      rw [hunique scope' binding' hfound' (hid'.trans hlater)] at hfirst
      simp [hstored, hclose, hsettles] at hfirst

end Results

end Immortal.Provider
