import Immortal.Domain.Expanded
import Immortal.Store.MktImmutable
import Immortal.Store.Query

/-!
# `Immortal.Store.Decode` — reading a stored row back

`decode_event_row` rebuilds an event from the columns of `nostr_event` and checks it again: the NIP-01 shape, every
extension rule and the signature. A public admission has made these checks before it stored the event. An import has
not made the extension checks, which it leaves out on purpose, so a row that it stores can be one that no query can
read: the row makes every query that selects it fail.

PostgreSQL gives text back unchanged and a `jsonb` array of arrays of strings as an equal one.
-/

namespace Immortal.Store

open Immortal.Domain Txn

/-! ## The decoder -/

/-- The columns of `nostr_event` that a read selects, in the types of the driver. -/
structure StoredColumns where
  id : String
  pubkey : String
  createdAt : Int
  kind : Int
  tags : List Tag
  content : String
  sig : String
  ingestSeq : Nat
  deriving DecidableEq, Repr

/-- What the insert binds for the event. -/
def EventRow.columns (row : EventRow) : StoredColumns where
  id := row.event.id
  pubkey := row.event.pubkey
  createdAt := row.event.createdAt
  kind := row.event.kind
  tags := row.event.tags
  content := row.event.content
  sig := row.event.sig
  ingestSeq := row.ingestSeq

/-- A domain error of a stored row. -/
def corrupt {α : Type} (result : Except DomainError α) : Except StoreError α :=
  result.mapError (fun error => .corruptRow error.display)

def decodeCreatedAt (createdAt : Int) : Except StoreError Nat :=
  if 0 ≤ createdAt then .ok createdAt.toNat else .error (.corruptRow "negative created_at")

def decodeKind (kind : Int) : Except StoreError Nat :=
  if 0 ≤ kind ∧ kind ≤ u16Max then .ok kind.toNat else .error (.corruptRow "kind outside NIP-01 range")

def decodeEventRow (validateCrypto : Event → Except DomainError Unit) (columns : StoredColumns) :
    Except StoreError EventRow := do
  let createdAt ← decodeCreatedAt columns.createdAt
  let kind ← decodeKind columns.kind
  let event : Event := ⟨columns.id, columns.pubkey, createdAt, kind, columns.tags, columns.content, columns.sig⟩
  corrupt event.validateStructure
  corrupt (validateCrypto event)
  return ⟨event, columns.ingestSeq⟩

/-- The rows of a statement become events, or the query fails at the first row that is not one. -/
def decodeRows (validateCrypto : Event → Except DomainError Unit) (rows : List EventRow) :
    Except StoreError (List EventRow) :=
  rows.mapM fun row => decodeEventRow validateCrypto row.columns

/-! ## What every admission has checked -/

/-- The checks that all admission modes share, on an event as the wire carries it. -/
structure Genuine (validateCrypto : Event → Except DomainError Unit) (event : Event) : Prop where
  shape : event.validateNip01Structure = .ok ()
  crypto : validateCrypto event = .ok ()
  createdAt : event.createdAt ≤ i64Max
  kind : event.kind ≤ u16Max

section
variable {validateCrypto : Event → Except DomainError Unit} {row : EventRow}

/-- A row whose columns are in range decodes exactly when the event passes both checks. -/
theorem decodeEventRow_columns (hkind : row.event.kind ≤ u16Max) :
    decodeEventRow validateCrypto row.columns = (do
      corrupt row.event.validateStructure
      corrupt (validateCrypto row.event)
      return row) := by
  have hrange : decodeKind row.columns.kind = .ok row.event.kind := by
    have hbounds : 0 ≤ row.columns.kind ∧ row.columns.kind ≤ u16Max := ⟨Int.natCast_nonneg _, Int.ofNat_le.mpr hkind⟩
    rw [decodeKind, if_pos hbounds]
    rfl
  rw [decodeEventRow, hrange]
  rfl

/-- **A genuine row** is read back as what was stored exactly when it obeys the extension rules. -/
theorem Genuine.decode_iff (h : Genuine validateCrypto row.event) :
    decodeEventRow validateCrypto row.columns = .ok row ↔ validateExpandedEvent row.event = .ok () := by
  rw [decodeEventRow_columns h.kind]
  simp only [check_bind_eq_ok, corrupt, mapError_eq_ok, Event.validateStructure, h.shape, h.crypto, true_and, pure, Except.pure,
    and_true]

/-- A genuine row that is not read back fails with `CorruptRow`, under the reason of the broken rule. -/
theorem Genuine.decode_error (h : Genuine validateCrypto row.event) {error : DomainError}
    (hbroken : validateExpandedEvent row.event = .error error) :
    decodeEventRow validateCrypto row.columns = .error (.corruptRow error.display) := by
  rw [decodeEventRow_columns h.kind, Event.validateStructure, h.shape, hbroken]
  rfl

end

/-! ## Every stored row is genuine -/

def Write.InsertsGenuine (validateCrypto : Event → Except DomainError Unit) : Write → Prop
  | .insertEvent row => Genuine validateCrypto row.event
  | _ => True

/-- A group action inserts events that the relay signs itself. -/
def GroupActionsInsertGenuine (relay : Relay) : Prop :=
  ∀ groupId call action,
    (relay.applyGroupAction groupId call action).Only (Write.InsertsGenuine relay.validateCrypto)

def RowsGenuine (validateCrypto : Event → Except DomainError Unit) (d : Db) : Prop :=
  ∀ row ∈ d.nostrEvent, Genuine validateCrypto row.event

section
variable {relay : Relay} {call : Call}

variable {validateCrypto : Event → Except DomainError Unit}

theorem RowsGenuine.write {d : Db} {w : Write}
    (hd : RowsGenuine validateCrypto d) (hw : w.InsertsGenuine validateCrypto) :
    RowsGenuine validateCrypto (d.write w) := by
  intro row hrow
  cases w with
  | insertEvent new =>
    rcases List.mem_append.mp hrow with hrow | hrow
    · exact hd row hrow
    · rw [List.mem_singleton.mp hrow]
      exact hw
  | deleteEvents ids => exact hd row (List.mem_of_mem_filter hrow)
  | upsertHead head => exact hd row hrow
  | insertCoordinate coordinate => exact hd row hrow
  | insertTombstone t => exact hd row hrow

theorem RowsGenuine.overlay {log : List Write} {d : Db}
    (hd : RowsGenuine validateCrypto d) (hlog : ∀ w ∈ log, w.InsertsGenuine validateCrypto) :
    RowsGenuine validateCrypto (overlay log d) := by
  induction log generalizing d with
  | nil => exact hd
  | cons w log ih =>
    exact ih (hd.write (hlog w List.mem_cons_self)) fun w' hw' => hlog w' (List.mem_cons_of_mem w hw')

theorem genuine_of_checks (hvalid : validate relay call = .ok ()) (htimes : timestamps call = .ok ())
    (hkind : call.event.kind ≤ u16Max) : Genuine relay.validateCrypto call.event := by
  have hcreated : call.event.createdAt ≤ i64Max := by
    rw [timestamps, bind_eq_ok] at htimes
    obtain ⟨value, hvalue, _⟩ := htimes
    by_contra hbig
    rw [pgI64, if_neg hbig] at hvalue
    cases hvalue
  unfold validate at hvalid
  split at hvalid
  · simp only [check_bind_eq_ok, liftDomain, mapError_eq_ok] at hvalid
    exact ⟨hvalid.1, hvalid.2.2.1, hcreated, hkind⟩
  · simp only [check_bind_eq_ok, liftDomain, mapError_eq_ok] at hvalid
    exact ⟨hvalid.1, hvalid.2, hcreated, hkind⟩

/-- A public admission has checked the extension rules. -/
theorem expanded_of_public (hmode : call.mode = .public) (hvalid : validate relay call = .ok ()) :
    relay.validateExpandedEvent call.event = .ok () := by
  simp only [validate, hmode, check_bind_eq_ok, liftDomain, mapError_eq_ok] at hvalid
  exact hvalid.2.1

theorem allows_insertsGenuine (h : Genuine relay.validateCrypto call.event) :
    Allows (Write.InsertsGenuine relay.validateCrypto) call.event :=
  ⟨fun _ => h, fun _ => trivial, fun _ => trivial, fun _ => trivial⟩

open Prog in
/-- Whatever an admission inserts is genuine: the checks stand in front of every write. -/
theorem only_admitInner (hgroup : GroupActionsInsertGenuine relay) (hkind : call.event.kind ≤ u16Max) :
    (admitInner relay call).Only (Write.InsertsGenuine relay.validateCrypto) := by
  have hro : ∀ {α : Type} (x : Except StoreError α), (ofExcept x : Admission α).ReadOnly NotStored :=
    fun x => readOnly_ofExcept x
  have hactions : ∀ groupId action,
      (relay.applyGroupAction groupId call action).Only (Write.InsertsGenuine relay.validateCrypto) :=
    fun groupId action => hgroup groupId call action
  unfold admitInner
  cases hvalid : validate relay call with
  | error e => trivial
  | ok _ =>
    rw [ofExcept_ok_bind]
    split
    · trivial
    · split
      · cases htimes : timestamps call with
        | error e => trivial
        | ok _ =>
          have hallows := allows_insertsGenuine (genuine_of_checks hvalid htimes hkind)
          rw [ofExcept_ok_bind]
          refine Only.bind (hro _).only fun action => ?_
          split
          · trivial
          · rename_i address _
            refine Only.bind (readOnly_mktReplay call address).only fun _ => Only.bind (hro _).only fun _ =>
              Only.bind (hro _).only fun _ => Only.bind (readOnly_policyCheck call).only fun _ => ?_
            unfold admitMktPrivate
            refine Only.bind (only_acquireAll _) fun _ => Only.bind (readOnly_groupCheck call action).only fun _ =>
              Only.bind (readOnly_mktReplay call address).only fun _ =>
              Only.bind (readOnly_tombstoneCheck call).only fun _ => Only.bind (p := acquire .ingest) trivial fun _ =>
              Only.bind (only_insertEvent hallows) fun inserted => ?_
            cases inserted with
            | none => trivial
            | some ingestSeq =>
              refine Only.bind (only_execUnless fun d w hw => ?_) fun _ =>
                Only.bind (only_storeGroupAction hactions action) fun _ => trivial
              rw [List.mem_singleton] at hw
              subst hw
              trivial
      · refine Only.bind (hro _).only fun _ => ?_
        cases htimes : timestamps call with
        | error e => trivial
        | ok _ =>
          have hallows := allows_insertsGenuine (genuine_of_checks hvalid htimes hkind)
          rw [ofExcept_ok_bind]
          exact Only.bind (hro _).only fun action => Only.bind (readOnly_duplicateCheck call).only fun _ =>
            Only.bind (readOnly_policyCheck call).only fun _ => only_admitOrdinary hallows hactions action

end

def rowsDiscipline (relay : Relay) : Discipline Db LockId :=
  ⟨RowsGenuine relay.validateCrypto, fun _ _ _ => True, Background⟩

/-- The calls of a run: admissions in any mode, of events whose kind is a `u16`. -/
def WireCall (relay : Relay) (_ : Db) (call : Call) (p : Admission Empty) : Prop :=
  p = admitInner relay call ∧ call.event.kind ≤ u16Max

/-- Only an event that passed the checks of its mode is stored. -/
def StoredValid (relay : Relay) (call : Call) (_ : Db) (result : Except StoreError AdmissionOutcome) (_ _ : Db) : Prop :=
  ∀ ingestSeq, result = .ok (.stored ingestSeq) → validate relay call = .ok ()

theorem rows_verified {relay : Relay} (hgroup : GroupActionsInsertGenuine relay) :
    Verified (C := Call) (rowsDiscipline relay) (WireCall relay) (StoredValid relay) (fun _ _ => True) where
  start := by
    rintro d call p hd ⟨rfl, hkind⟩
    cases hvalid : validate relay call with
    | error e =>
      -- the admission ends at its first step
      unfold admitInner
      rw [hvalid]
      intro d' _ ingestSeq h
      cases h
    | ok _ =>
      refine Prog.wp_only (only_admitInner hgroup hkind) ?_ (fun _ _ _ _ _ => hvalid) (fun a _ _ _ => a.elim) hd
        (by simp)
      exact fun held log d' r hd' hlog => ⟨fun _ _ => hvalid, RowsGenuine.overlay hd' hlog, trivial⟩
  env := fun _ _ hd h row hrow => hd row (h.shrinks.1 row hrow)
  settle := fun _ _ => trivial
  keep := fun _ _ _ _ _ _ => trivial

/-! ## Reading -/

section
variable {validateCrypto : Event → Except DomainError Unit} {rows : List EventRow}

/-- Genuine rows are read back as they are when each obeys the extension rules. -/
theorem decodeRows_ok (hrows : ∀ row ∈ rows, Genuine validateCrypto row.event)
    (hobey : ∀ row ∈ rows, validateExpandedEvent row.event = .ok ()) : decodeRows validateCrypto rows = .ok rows := by
  induction rows with
  | nil => rfl
  | cons row rest ih =>
    have hrow := (hrows row List.mem_cons_self).decode_iff.mpr (hobey row List.mem_cons_self)
    have hrest := ih (fun r hr => hrows r (.tail _ hr)) (fun r hr => hobey r (.tail _ hr))
    rw [decodeRows] at hrest ⊢
    rw [List.mapM_cons, hrow, hrest]
    rfl

/-- One row that breaks a rule makes the whole read fail. -/
theorem decodeRows_corrupt (hrows : ∀ row ∈ rows, Genuine validateCrypto row.event)
    (hbroken : ∃ row ∈ rows, validateExpandedEvent row.event ≠ .ok ()) :
    ∃ reason, decodeRows validateCrypto rows = .error (.corruptRow reason) := by
  induction rows with
  | nil =>
    obtain ⟨row, hrow, -⟩ := hbroken
    cases hrow
  | cons row rest ih =>
    have hgenuine := hrows row List.mem_cons_self
    rw [decodeRows, List.mapM_cons]
    cases hexpanded : validateExpandedEvent row.event with
    | error error =>
      rw [hgenuine.decode_error hexpanded]
      exact ⟨_, rfl⟩
    | ok _ =>
      have hlater : ∃ row ∈ rest, validateExpandedEvent row.event ≠ .ok () := by
        obtain ⟨bad, hbad, hne⟩ := hbroken
        rcases List.mem_cons.mp hbad with rfl | hbad
        · exact absurd hexpanded hne
        · exact ⟨bad, hbad, hne⟩
      obtain ⟨reason, hreason⟩ := ih (fun r hr => hrows r (.tail _ hr)) hlater
      rw [decodeRows] at hreason
      rw [hgenuine.decode_iff.mpr hexpanded, hreason]
      exact ⟨reason, rfl⟩

end

/-- What a query returns was stored. -/
theorem mem_of_queryFilterInner {search : TextSearch} {d : Db} {connection : Connection} {filter : Filter}
    {now maxResults through : Nat} {readPubkeys : Option (List String)} {rows : List EventRow}
    (h : queryFilterInner search d connection filter now maxResults through readPubkeys = .ok rows) :
    ∀ row ∈ rows, row ∈ d.nostrEvent := by
  simp only [queryFilterInner, queryFilterSql, bind_eq_ok, pure_eq_ok] at h
  obtain ⟨_, _, params, _, _, _, _, _, rfl⟩ := h
  intro row hrow
  have hsorted := List.mem_of_mem_take hrow
  rw [List.mem_insertionSort] at hsorted
  exact List.mem_of_mem_filter hsorted

/-- **Reading back.** Whatever admissions of any mode, sweeps and operator changes interleave, a stored row is read back
    as the event that was admitted exactly when that event obeys the extension rules; a query fails with `CorruptRow`
    exactly when it selects a row that does not; and what a public admission stored always obeys them. -/
theorem stored_rows_decode_iff (relay : Relay) (hexpanded : relay.validateExpandedEvent = validateExpandedEvent)
    (hgroup : GroupActionsInsertGenuine relay) (administration : Administration)
    (s : System Db Write LockId StoreError AdmissionOutcome Call)
    (h : Reachable (WireCall relay) Background (Db.empty administration) s) :
    (∀ row ∈ s.db.nostrEvent,
      decodeEventRow relay.validateCrypto row.columns = .ok row ↔ validateExpandedEvent row.event = .ok ()) ∧
    (∀ search connection filter now maxResults through readPubkeys rows,
      queryFilterInner search s.db connection filter now maxResults through readPubkeys = .ok rows →
      ((∃ reason, decodeRows relay.validateCrypto rows = .error (.corruptRow reason)) ↔
        ∃ row ∈ rows, validateExpandedEvent row.event ≠ .ok ())) ∧
    (∀ entry ∈ s.history, entry.call.mode = .public → ∀ ingestSeq, entry.result = .ok (.stored ingestSeq) →
      validateExpandedEvent entry.call.event = .ok ()) := by
  have hempty : RowsGenuine relay.validateCrypto (Db.empty administration) := by
    intro row hrow
    cases hrow
  have hsound := Sound.reachable (rows_verified hgroup) hempty h
  have hgenuine : RowsGenuine relay.validateCrypto s.db := hsound.inv
  refine ⟨fun row hrow => (hgenuine row hrow).decode_iff, ?_, ?_⟩
  · intro search connection filter now maxResults through readPubkeys rows hquery
    have hrows : ∀ row ∈ rows, Genuine relay.validateCrypto row.event :=
      fun row hrow => hgenuine row (mem_of_queryFilterInner hquery row hrow)
    constructor
    · rintro ⟨reason, hreason⟩
      by_contra hnone
      push Not at hnone
      rw [decodeRows_ok hrows hnone] at hreason
      cases hreason
    · exact decodeRows_corrupt hrows
  · intro entry hentry hmode ingestSeq hresult
    rw [← hexpanded]
    exact expanded_of_public hmode (hsound.done entry hentry ingestSeq hresult)

/-- A relay that applies the extension rules; the signatures of the events below are taken to be genuine. -/
def checkingRelay : Relay := { acceptingRelay with validateExpandedEvent := validateExpandedEvent }

/-- A run that stores a note and reads it back. -/
theorem stored_rows_decode_note :
    ∃ s : System Db Write LockId StoreError AdmissionOutcome Call,
      Reachable (WireCall checkingRelay) Background (Db.empty openAdministration) s ∧
      s.db.nostrEvent = [⟨noteCall.event, 1⟩] ∧
      ∀ row ∈ s.db.nostrEvent, decodeEventRow checkingRelay.validateCrypto row.columns = .ok row := by
  have hstart : WireCall checkingRelay (Db.empty openAdministration) noteCall (admitInner checkingRelay noteCall) :=
    ⟨rfl, by decide⟩
  obtain ⟨s, hs, hdb⟩ := Reachable.alone Background hstart
  have hrows : s.db.nostrEvent = [⟨noteCall.event, 1⟩] := by
    rw [hdb]
    decide +kernel
  have hgroup : GroupActionsInsertGenuine checkingRelay := fun _ _ _ => trivial
  refine ⟨s, hs, hrows, fun row hrow => ?_⟩
  refine ((stored_rows_decode_iff checkingRelay rfl hgroup openAdministration s hs).1 row hrow).mpr ?_
  rw [hrows, List.mem_singleton] at hrow
  subst hrow
  decide +kernel

/-- An empty relay list that an import brings in. -/
def relayListCall : Call :=
  ⟨⟨hexText 32 'd', hexText 32 'f', 10, 10002, [], "", hexText 64 'e'⟩, 1000, none, none, .legacy⟩

/-- The import is stored, a query of everything selects it, and the row cannot be read back. -/
theorem imported_relay_list_unreadable :
    let row : EventRow := ⟨relayListCall.event, 1⟩
    let stored := (admitInner checkingRelay relayListCall).run (Db.empty openAdministration)
    stored.1 = .ok (.stored 1) ∧ stored.2.nostrEvent = [row] ∧
      queryFilterInner ⟨id, fun _ _ => false, fun _ _ => 0⟩ stored.2 ⟨true, false⟩ Filter.default 1000 500 1 none =
        .ok [row] ∧
      decodeRows checkingRelay.validateCrypto [row] = .error (.corruptRow
        "invalid event: kind 10002 requires valid r relay tags and read/write markers") := by
  decide +kernel

end Immortal.Store
