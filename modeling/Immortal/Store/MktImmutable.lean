import Immortal.Store.Alone

/-!
# `Immortal.Store.MktImmutable` — private market coordinates are bound once and for ever

A private market record is admitted under the coordinate `(pubkey, kind, d)`, and the first one stored there
binds the coordinate to its id and signature. The event row may later be deleted, by a request that names its id
or its address, or expire; the coordinate row has no statement that removes or changes it. So the binding
decides every later admission at the coordinate, and the admission decides on it before it looks at anything
that depends on the store's other tables or on the clock.

The argument is a second instance of the rule of `Immortal.Txn.System`, on the coordinate table alone. Rows are
only appended, and only under the address lock of their coordinate; so the check under that lock still holds
when the row is inserted.
-/

namespace Immortal.Store

open Immortal.Domain Txn Prog

/-! ## Bindings -/

section
variable {d d' : Db} {address : ReplacementAddress}

theorem mktImmutableBinding_none :
    d.mktImmutableBinding address = none ↔ ∀ row ∈ d.mktImmutableCoordinate, row.address ≠ address := by
  simp [Db.mktImmutableBinding]

variable {binding : String × String}

theorem mktImmutableBinding_append {rows : List CoordinateRow}
    (happ : d'.mktImmutableCoordinate = d.mktImmutableCoordinate ++ rows)
    (h : d.mktImmutableBinding address = some binding) : d'.mktImmutableBinding address = some binding := by
  obtain ⟨row, hrow, rfl⟩ := Option.map_eq_some_iff.mp h
  have hfind : d'.mktImmutableCoordinate.find? (fun row => row.address = address) = some row := by
    rw [happ, List.find?_append, hrow]
    rfl
  show Option.map _ (d'.mktImmutableCoordinate.find? _) = _
  rw [hfind]
  rfl

/-- A fresh coordinate is bound by the row that is inserted for it. -/
theorem mktImmutableBinding_insert {row : CoordinateRow}
    (happ : d'.mktImmutableCoordinate = d.mktImmutableCoordinate ++ [row])
    (h : d.mktImmutableBinding row.address = none) :
    d'.mktImmutableBinding row.address = some (row.eventId, row.sig) := by
  have hnone : d.mktImmutableCoordinate.find? (fun r => r.address = row.address) = none := by
    simpa using mktImmutableBinding_none.mp h
  show Option.map _ (d'.mktImmutableCoordinate.find? _) = _
  rw [happ, List.find?_append, hnone]
  simp

end

/-! ## The discipline of the coordinate table -/

/-- The primary key of `mkt_immutable_coordinate`. -/
def CoordinateInv (d : Db) : Prop := (d.mktImmutableCoordinate.map CoordinateRow.address).Nodup

/-- A commit appends coordinates, and holds the address lock of each. -/
def CoordinateChange (relay : Relay) (held : List LockId) (d d' : Db) : Prop :=
  ∃ rows, d'.mktImmutableCoordinate = d.mktImmutableCoordinate ++ rows ∧
    ∀ row ∈ rows, addressLock relay row.address ∈ held

def coordinateDiscipline (relay : Relay) : Discipline Db LockId :=
  ⟨CoordinateInv, CoordinateChange relay, Background⟩

/-- Sweeps and operators leave the coordinates alone. -/
theorem Background.coordinates {d d' : Db} (h : Background d d') :
    d'.mktImmutableCoordinate = d.mktImmutableCoordinate := by
  cases h with
  | sweep now => rfl
  | administer _ => rfl
  | gap _ _ => rfl

section
variable {relay : Relay} {held : List LockId} {d d' : Db}

theorem CoordinateChange.same (h : d'.mktImmutableCoordinate = d.mktImmutableCoordinate) :
    CoordinateChange relay held d d' := by
  refine ⟨[], ?_, ?_⟩
  · rw [h, List.append_nil]
  · intro row hrow
    exact absurd hrow List.not_mem_nil

/-- Whatever else happens, coordinates are appended, none of them under a lock that is held here. -/
theorem interference_coordinates (h : (coordinateDiscipline relay).Interference held d d') :
    ∃ rows, d'.mktImmutableCoordinate = d.mktImmutableCoordinate ++ rows ∧
      ∀ row ∈ rows, addressLock relay row.address ∉ held := by
  obtain ⟨_, henv | ⟨other, hdis, rows, happ, hlocked⟩⟩ := h
  · refine ⟨[], ?_, by simp⟩
    rw [Background.coordinates henv, List.append_nil]
  · refine ⟨rows, happ, fun row hrow hmine => ?_⟩
    exact hdis _ hmine (hlocked row hrow)

variable {address : ReplacementAddress}

/-- One step of interference keeps a binding. -/
theorem interference_bound
    (h : (coordinateDiscipline relay).Interference held d d') (hb : d.mktImmutableBinding address = some binding) :
    d'.mktImmutableBinding address = some binding := by
  obtain ⟨rows, happ, _⟩ := interference_coordinates h
  exact mktImmutableBinding_append happ hb

theorem later_bound (hd : CoordinateInv d)
    (h : (coordinateDiscipline relay).Later held d d') (hb : d.mktImmutableBinding address = some binding) :
    d'.mktImmutableBinding address = some binding :=
  Discipline.Later.stable (P := fun x => x.mktImmutableBinding address = some binding)
    (fun _ _ _ hi ha => interference_bound hi ha) hd h hb

/-- A coordinate that turns out to be free was free at the start. -/
theorem later_was_free (hd : CoordinateInv d)
    (h : (coordinateDiscipline relay).Later held d d') (hfree : d'.mktImmutableBinding address = none) :
    d.mktImmutableBinding address = none := by
  cases hb : d.mktImmutableBinding address with
  | none => rfl
  | some binding =>
    have hlater := later_bound hd h hb
    rw [hfree] at hlater
    exact absurd hlater (by simp)

/-- A free coordinate stays free while its address lock is held. -/
theorem later_stays_free (hheld : addressLock relay address ∈ held)
    (hd : CoordinateInv d) (h : (coordinateDiscipline relay).Later held d d')
    (hfree : d.mktImmutableBinding address = none) : d'.mktImmutableBinding address = none := by
  refine Discipline.Later.stable (P := fun x => x.mktImmutableBinding address = none) ?_ hd h hfree
  intro a b _ hi ha
  obtain ⟨rows, happ, hlocked⟩ := interference_coordinates hi
  rw [mktImmutableBinding_none] at ha ⊢
  intro row hrow haddr
  rw [happ, List.mem_append] at hrow
  rcases hrow with hrow | hrow
  · exact ha row hrow haddr
  · apply hlocked row hrow
    rw [haddr]
    exact hheld

end

/-! ## What never touches a coordinate -/

def Write.SparesCoordinates : Write → Prop
  | .insertCoordinate _ => False
  | _ => True

theorem overlay_sparesCoordinates {log : List Write} (h : ∀ w ∈ log, w.SparesCoordinates) (d : Db) :
    (overlay log d).mktImmutableCoordinate = d.mktImmutableCoordinate := by
  induction log generalizing d with
  | nil => rfl
  | cons w log ih =>
    rw [overlay_cons, ih fun w' hw' => h w' (List.mem_cons_of_mem w hw')]
    have hw : w.SparesCoordinates := h w List.mem_cons_self
    cases w with
    | insertCoordinate row => exact hw.elim
    | insertEvent row => rfl
    | deleteEvents ids => rfl
    | upsertHead row => rfl
    | insertTombstone t => rfl

/-- The writes of a NIP-29 action go to events, heads and group tables. -/
def GroupActionsSpareCoordinates (relay : Relay) : Prop :=
  ∀ groupId call action, (relay.applyGroupAction groupId call action).Only Write.SparesCoordinates

/-- What is written for an event that is no private market record. -/
theorem allows_sparesCoordinates (event : Event) : Allows Write.SparesCoordinates event :=
  ⟨fun _ => trivial, fun _ => trivial, fun _ => trivial, fun _ => trivial⟩

/-! ## One admission at its coordinate -/

/-- What an admission checks before it reads the store. -/
def preflight (relay : Relay) (call : Call) : Except StoreError Unit := do
  validate relay call
  timestamps call

/-- The answer of a bound coordinate: the same event under the same signature is a replay. -/
def replayOutcome (binding : String × String) (event : Event) : AdmissionOutcome :=
  if binding = (event.id, event.sig) then .duplicate else .rejected .mktIdempotencyConflict

theorem notStored_replayOutcome (binding : String × String) (event : Event) :
    NotStored (replayOutcome binding event) := by
  intro ingestSeq
  unfold replayOutcome
  split <;> simp

/-- What an admission that began on `start` and ended between `before` and `after` did to the coordinates. -/
structure CoordinatePost (relay : Relay) (call : Call) (start : Db) (result : Except StoreError AdmissionOutcome)
    (before after : Db) : Prop where
  spared : isMktPrivateKind call.event.kind = false → after.mktImmutableCoordinate = before.mktImmutableCoordinate
  bound : isMktPrivateKind call.event.kind = true → preflight relay call = .ok () → ∀ address binding,
    call.event.replacementAddress = some address → start.mktImmutableBinding address = some binding →
      result = .ok (replayOutcome binding call.event)
  unchanged : isMktPrivateKind call.event.kind = true → (∀ ingestSeq, result ≠ .ok (.stored ingestSeq)) →
    after = before
  stored : isMktPrivateKind call.event.kind = true → ∀ address ingestSeq,
    call.event.replacementAddress = some address → result = .ok (.stored ingestSeq) →
      start.mktImmutableBinding address = none ∧ before.mktImmutableBinding address = none ∧
        after.mktImmutableBinding address = some (call.event.id, call.event.sig)

section
variable {relay : Relay} {call : Call} {start d : Db} {address : ReplacementAddress}

/-- An end that stores nothing, of an admission whose coordinate was free when it began. -/
theorem CoordinatePost.of_free (haddr : call.event.replacementAddress = some address)
    (hstart : start.mktImmutableBinding address = none)
    {result : Except StoreError AdmissionOutcome} (hresult : ∀ ingestSeq, result ≠ .ok (.stored ingestSeq)) :
    CoordinatePost relay call start result d d where
  spared := fun _ => rfl
  bound := by
    intro _ _ address' binding haddr' hbound
    rw [haddr, Option.some.injEq] at haddr'
    subst haddr'
    rw [hstart] at hbound
    exact absurd hbound (by simp)
  unchanged := fun _ _ => rfl
  stored := fun _ _ ingestSeq _ h => absurd h (hresult ingestSeq)

/-- An error before the first look at the store. -/
theorem CoordinatePost.of_preflight {e e' : StoreError} (h : preflight relay call = .error e') :
    CoordinatePost relay call start (.error e) d d where
  spared := fun _ => rfl
  bound := by
    intro _ hok
    rw [h] at hok
    exact absurd hok (by simp)
  unchanged := fun _ _ => rfl
  stored := by simp

theorem coordinate_quiet (relay : Relay) (haddr : call.event.replacementAddress = some address)
    (hstart : start.mktImmutableBinding address = none) :
    Quiet (coordinateDiscipline relay) (CoordinatePost relay call start) NotStored where
  result := by
    intro held d r _ hr
    refine ⟨.of_free haddr hstart ?_, .same rfl⟩
    intro ingestSeq h
    exact hr ingestSeq (Except.ok.inj h)
  error := fun d e _ => .of_free haddr hstart (by simp)

/-- The replay decision: a bound coordinate ends the admission with `replayOutcome`, a free one lets it go on. -/
theorem wp_mktReplay {Post : Except StoreError AdmissionOutcome → Db → Db → Prop}
    {Q : Unit → List LockId → List Write → Db → Prop} {held : List LockId} (hd : CoordinateInv d)
    (hbound : ∀ d' binding, (coordinateDiscipline relay).Later held d d' →
      d'.mktImmutableBinding address = some binding → ∀ d'', Post (.ok (replayOutcome binding call.event)) d'' d'')
    (hfree : ∀ d', (coordinateDiscipline relay).Later held d d' → d'.mktImmutableBinding address = none →
      Q () held [] d') :
    (mktReplay call address).wp (coordinateDiscipline relay) Post Q held [] d := by
  unfold mktReplay
  rw [wp_bind]
  refine wp_query fun d' hl => ?_
  cases hb : d'.mktImmutableBinding address with
  | none => exact hfree d' hl hb
  | some binding =>
    have hpost := hbound d' binding hl hb
    obtain ⟨id, sig⟩ := binding
    -- both decisions on a bound coordinate commit an empty log
    by_cases hsame : id = call.event.id ∧ sig = call.event.sig
    · have hout : replayOutcome (id, sig) call.event = .duplicate := by
        simp [replayOutcome, hsame]
      simp only [decideMktImmutableAdmission, if_pos hsame]
      rw [hout] at hpost
      exact fun d'' hl' => ⟨hpost d'', (hl.trans hl').inv hd, .same rfl⟩
    · have hout : replayOutcome (id, sig) call.event = .rejected .mktIdempotencyConflict := by
        simp only [replayOutcome, Prod.mk.injEq, if_neg hsame]
      simp only [decideMktImmutableAdmission, if_neg hsame]
      rw [hout] at hpost
      exact fun d'' hl' => ⟨hpost d'', (hl.trans hl').inv hd, .same rfl⟩

section Private

variable (hpriv : isMktPrivateKind call.event.kind = true)
include hpriv

/-- The log of an admission that stores a private market record, and what it makes of a free coordinate. -/
theorem coordinate_commit {held : List LockId} {ingestSeq : Nat}
    (haddr : call.event.replacementAddress = some address)
    (hstart : start.mktImmutableBinding address = none) (hheld : addressLock relay address ∈ held)
    (hd : CoordinateInv d) (hfree : d.mktImmutableBinding address = none) :
    let after := overlay [.insertEvent ⟨call.event, ingestSeq⟩,
      .insertCoordinate ⟨address, call.event.id, call.event.sig⟩] d
    CoordinatePost relay call start (.ok (.stored ingestSeq)) d after ∧ CoordinateInv after ∧
      CoordinateChange relay held d after := by
  intro after
  have happ : after.mktImmutableCoordinate =
      d.mktImmutableCoordinate ++ [⟨address, call.event.id, call.event.sig⟩] := rfl
  refine ⟨⟨?_, ?_, ?_, ?_⟩, ?_, ?_⟩
  · intro hpub
    rw [hpriv] at hpub
    exact absurd hpub (by decide)
  · intro _ _ address' binding haddr' hbound
    rw [haddr, Option.some.injEq] at haddr'
    subst haddr'
    rw [hstart] at hbound
    exact absurd hbound (by simp)
  · exact fun _ h => absurd rfl (h ingestSeq)
  · intro _ address' _ haddr' _
    rw [haddr, Option.some.injEq] at haddr'
    subst haddr'
    exact ⟨hstart, hfree, mktImmutableBinding_insert happ hfree⟩
  · show (after.mktImmutableCoordinate.map CoordinateRow.address).Nodup
    rw [happ]
    exact nodup_keys_concat hd (mktImmutableBinding_none.mp hfree)
  · refine ⟨[⟨address, call.event.id, call.event.sig⟩], happ, ?_⟩
    intro row hrow
    rw [List.mem_singleton] at hrow
    subst hrow
    exact hheld

/-- **A private market record from its locks on**, when its coordinate was free at the start. The decision is
    made again under the address lock, so a coordinate found free is still free when its row goes in. -/
theorem wp_admitMktPrivate (haddr : call.event.replacementAddress = some address)
    (hstart : start.mktImmutableBinding address = none) (hd : CoordinateInv d) :
    (admitMktPrivate relay call address none).wp (coordinateDiscipline relay) (CoordinatePost relay call start)
      NoValue [] [] d := by
  have hquiet := coordinate_quiet relay haddr hstart
  unfold admitMktPrivate
  rw [wp_bind]
  refine wp_acquireAll fun d₁ hl₁ => ?_
  generalize hheld : ((admissionLockKeys call.event).map
    (fun key => LockId.text (relay.hashtextextended key))).reverse ++ [] = held
  have hlock : addressLock relay address ∈ held := by
    rw [← hheld, List.append_nil, List.mem_reverse]
    exact addressLock_mem haddr
  have hd₁ : CoordinateInv d₁ := hl₁.inv hd
  rw [wp_bind]
  refine wp_readOnly hquiet (readOnly_groupCheck call none) hd₁ fun _ d₂ hl₂ => ?_
  have hd₂ : CoordinateInv d₂ := hl₂.inv hd₁
  rw [wp_bind]
  apply wp_mktReplay hd₂
  · intro d₃ binding _ _ d₄
    exact .of_free haddr hstart fun ingestSeq h => notStored_replayOutcome _ _ ingestSeq (Except.ok.inj h)
  · intro d₃ hl₃ hfree
    have hd₃ : CoordinateInv d₃ := hl₃.inv hd₂
    rw [wp_bind]
    refine wp_readOnly hquiet (readOnly_tombstoneCheck call) hd₃ fun _ d₄ hl₄ => ?_
    rw [wp_bind]
    refine wp_acquire fun d₅ hl₅ => ?_
    have hd₅ : CoordinateInv d₅ := (hl₄.trans hl₅).inv hd₃
    have hfree₅ : d₅.mktImmutableBinding address = none := later_stays_free hlock hd₃ (hl₄.trans hl₅) hfree
    have hlock' : addressLock relay address ∈ LockId.ingest :: held := .tail _ hlock
    rw [wp_bind]
    refine wp_exec fun d₆ hl₆ => ?_
    by_cases hdup : (overlay ([] : List Write) d₆).duplicate call.event.id = true
    · -- a row without its coordinate: the transaction fails
      simp only [if_pos hdup]
      exact fun _ _ => .of_free haddr hstart (by simp)
    · simp only [if_neg hdup]
      rw [wp_bind]
      refine wp_execUnless (fun _ _ => .of_free haddr hstart (by simp)) fun d₇ hl₇ _ => ?_
      rw [storeGroupAction_none]
      intro d₈ hl₈
      have hl : (coordinateDiscipline relay).Later (LockId.ingest :: held) d₅ d₈ := hl₆.trans (hl₇.trans hl₈)
      exact coordinate_commit hpriv haddr hstart hlock' (hl.inv hd₅) (later_stays_free hlock' hd₅ hl hfree₅)

/-- Private market kinds are no moderation kinds. -/
theorem groupActionOf_private : groupActionOf call = .ok none := by
  have hnone : GroupAction.fromEvent call.event = .ok none := by
    simp only [isMktPrivateKind, List.mem_cons, List.not_mem_nil, or_false, decide_eq_true_eq] at hpriv
    unfold GroupAction.fromEvent
    rcases hpriv with h | h | h | h | h | h | h | h | h | h | h | h | h <;> rw [h] <;> rfl
  unfold groupActionOf
  split
  · rw [hnone]; rfl
  · rfl

/-- **One private market admission**, over arbitrary interference. -/
theorem wp_admitInner_private (hd : CoordinateInv d) :
    (admitInner relay call).wp (coordinateDiscipline relay) (CoordinatePost relay call d) NoValue [] [] d := by
  obtain ⟨address, haddr⟩ := mktPrivate_addressable hpriv
  have hauth : call.event.kind ≠ 22242 := by
    intro hk
    rw [hk] at hpriv
    exact absurd hpriv (by decide)
  unfold admitInner
  cases hval : validate relay call with
  | error e => exact fun _ _ => .of_preflight (by rw [preflight, hval]; rfl)
  | ok u =>
    show wp _ _ (if call.event.kind = 22242 then _ else _) _ _ _ _
    rw [if_neg hauth, if_pos hpriv]
    cases htime : timestamps call with
    | error e => exact fun _ _ => .of_preflight (by rw [preflight, hval]; exact htime)
    | ok u' =>
      rw [groupActionOf_private hpriv, haddr]
      show wp _ _ (mktReplay call address >>= _) _ _ _ _
      rw [wp_bind]
      apply wp_mktReplay hd
      · intro d₁ binding hl₁ hbound d₂
        refine ⟨fun _ => rfl, ?_, fun _ _ => rfl, ?_⟩
        · intro _ _ address' binding' haddr' hstart
          rw [haddr, Option.some.injEq] at haddr'
          subst haddr'
          have hsame := later_bound hd hl₁ hstart
          rw [hbound, Option.some.injEq] at hsame
          rw [hsame]
        · intro _ _ ingestSeq _ h
          exact absurd (Except.ok.inj h) (notStored_replayOutcome _ _ ingestSeq)
      · intro d₁ hl₁ hfree
        have hd₁ : CoordinateInv d₁ := hl₁.inv hd
        have hstart : d.mktImmutableBinding address = none := later_was_free hd hl₁ hfree
        have hquiet := coordinate_quiet relay haddr hstart
        rw [wp_bind]
        refine wp_readOnly hquiet (readOnly_ofExcept _) hd₁ fun _ d₂ hl₂ => ?_
        rw [wp_bind]
        refine wp_readOnly hquiet (readOnly_ofExcept _) (hl₂.inv hd₁) fun _ d₃ hl₃ => ?_
        rw [wp_bind]
        refine wp_readOnly hquiet (readOnly_policyCheck call) ((hl₂.trans hl₃).inv hd₁) fun _ d₄ hl₄ => ?_
        exact wp_admitMktPrivate hpriv haddr hstart ((hl₂.trans (hl₃.trans hl₄)).inv hd₁)

end Private

/-- Every other admission leaves the coordinates alone. -/
theorem wp_admitInner_spared (hgroup : GroupActionsSpareCoordinates relay)
    (hpub : isMktPrivateKind call.event.kind = false) (hd : CoordinateInv d) :
    (admitInner relay call).wp (coordinateDiscipline relay) (CoordinatePost relay call start) NoValue [] [] d := by
  have hro : ∀ {α : Type} (x : Except StoreError α), (ofExcept x : Admission α).ReadOnly NotStored :=
    fun x => readOnly_ofExcept x
  have hpost : ∀ result before after, after.mktImmutableCoordinate = before.mktImmutableCoordinate →
      CoordinatePost relay call start result before after := by
    intro result before after hsame
    refine ⟨fun _ => hsame, ?_, ?_, ?_⟩
    all_goals
      intro hpriv
      rw [hpub] at hpriv
      exact absurd hpriv (by decide)
  have honly : (admitInner relay call).Only Write.SparesCoordinates := by
    refine Prog.Only.bind (hro _).only fun _ => ?_
    rw [hpub]
    split
    · trivial
    · exact Prog.Only.bind (hro _).only fun _ => Prog.Only.bind (hro _).only fun _ =>
        Prog.Only.bind (hro _).only fun action => Prog.Only.bind (readOnly_duplicateCheck call).only fun _ =>
        Prog.Only.bind (readOnly_policyCheck call).only fun _ =>
        only_admitOrdinary (allows_sparesCoordinates call.event) (fun groupId action => hgroup groupId call action) action
  refine wp_only honly ?_ (fun d' e _ => hpost _ _ _ rfl) (fun a _ _ _ => a.elim) hd (by simp)
  intro held log d' r hd' hlog
  have hsame := overlay_sparesCoordinates hlog d'
  refine ⟨hpost _ _ _ hsame, ?_, .same hsame⟩
  show ((overlay log d').mktImmutableCoordinate.map CoordinateRow.address).Nodup
  rw [hsame]
  exact hd'

end

/-! ## Whole runs -/

/-- The calls of a run: admissions of any events at all. -/
def AnyCall (relay : Relay) (_ : Db) (call : Call) (p : Admission Empty) : Prop := p = admitInner relay call

/-- The admission stored a private market record at the coordinate. -/
def StoredAt (address : ReplacementAddress) (entry : Finished Db StoreError AdmissionOutcome Call) : Prop :=
  isMktPrivateKind entry.call.event.kind = true ∧ entry.call.event.replacementAddress = some address ∧
    ∃ ingestSeq, entry.result = .ok (.stored ingestSeq)

/-- Once stored, a private market record's coordinate names it. -/
def CoordinateSettled (entry : Finished Db StoreError AdmissionOutcome Call) (d : Db) : Prop :=
  ∀ address, StoredAt address entry →
    d.mktImmutableBinding address = some (entry.call.event.id, entry.call.event.sig)

theorem coordinates_verified {relay : Relay} (hgroup : GroupActionsSpareCoordinates relay) :
    Verified (coordinateDiscipline relay) (AnyCall relay) (CoordinatePost relay) CoordinateSettled where
  start := by
    rintro d call p hd rfl
    cases hkind : isMktPrivateKind call.event.kind with
    | true => exact wp_admitInner_private hkind hd
    | false => exact wp_admitInner_spared hgroup hkind hd
  env := by
    intro d d' hd henv
    show (d'.mktImmutableCoordinate.map CoordinateRow.address).Nodup
    rw [Background.coordinates henv]
    exact hd
  settle := by
    rintro entry hpost address ⟨hpriv, haddr, ingestSeq, hstored⟩
    exact (hpost.stored hpriv address ingestSeq haddr hstored).2.2
  keep := fun entry d d' _ hi hset address hstored => interference_bound hi (hset address hstored)

/-- **Immutable private market coordinates.** In every run of admissions of any kind, replays, deletions, sweeps
    and operator changes, in any interleaving: a binding, once committed, is the binding of its coordinate in
    every continuation of the run; an admission at a coordinate that was bound when it began stores nothing and,
    unless a check that never looks at the store refuses it, answers `duplicate` to the bound event under the
    bound signature and `mktIdempotencyConflict` to everything else; an admission that finds the coordinate bound
    when it ends stores nothing either; and over the whole run at most one event is stored per coordinate. -/
theorem mkt_coordinates_immutable (relay : Relay) (hgroup : GroupActionsSpareCoordinates relay)
    (administration : Administration) (s : System Db Write LockId StoreError AdmissionOutcome Call)
    (h : Reachable (AnyCall relay) Background (Db.empty administration) s) :
    (∀ s', Relation.ReflTransGen (Step (AnyCall relay) Background) s s' → ∀ address binding,
      s.db.mktImmutableBinding address = some binding → s'.db.mktImmutableBinding address = some binding) ∧
    (∀ entry ∈ s.history, isMktPrivateKind entry.call.event.kind = true → ∀ address binding,
      entry.call.event.replacementAddress = some address →
      (entry.start.mktImmutableBinding address = some binding → entry.after = entry.before ∧
        (preflight relay entry.call = .ok () →
          entry.result = .ok (if binding = (entry.call.event.id, entry.call.event.sig) then .duplicate
            else .rejected .mktIdempotencyConflict))) ∧
      (entry.before.mktImmutableBinding address = some binding → entry.after = entry.before)) ∧
    (∀ address, s.history.Pairwise (fun older newer => ¬ (StoredAt address older ∧ StoredAt address newer))) ∧
    (∀ address, ∀ entry ∈ s.history, StoredAt address entry →
      s.db.mktImmutableBinding address = some (entry.call.event.id, entry.call.event.sig)) := by
  have hv := coordinates_verified hgroup
  have hempty : CoordinateInv (Db.empty administration) := List.nodup_nil
  have hs := Sound.reachable hv hempty h
  -- an admission that stores began and ended on a free coordinate
  have hfree : ∀ address, ∀ entry ∈ s.history, StoredAt address entry →
      entry.start.mktImmutableBinding address = none ∧ entry.before.mktImmutableBinding address = none := by
    rintro address entry hentry ⟨hpriv, haddr, ingestSeq, hstored⟩
    obtain ⟨hstart, hbefore, _⟩ := (hs.done entry hentry).stored hpriv address ingestSeq haddr hstored
    exact ⟨hstart, hbefore⟩
  refine ⟨?_, ?_, ?_, ?_⟩
  · intro s' hsteps address binding hbound
    exact hs.stable hv (P := fun x => x.mktImmutableBinding address = some binding)
      (fun _ _ _ hi ha => interference_bound hi ha) hsteps hbound
  · intro entry hentry hpriv address binding haddr
    have hdone := hs.done entry hentry
    refine ⟨fun hstart => ⟨?_, fun hpre => ?_⟩, fun hbefore => ?_⟩
    · refine hdone.unchanged hpriv fun ingestSeq hstored => ?_
      obtain ⟨hnone, _⟩ := hfree address entry hentry ⟨hpriv, haddr, ingestSeq, hstored⟩
      rw [hstart] at hnone
      exact absurd hnone (by simp)
    · exact hdone.bound hpriv hpre address binding haddr hstart
    · refine hdone.unchanged hpriv fun ingestSeq hstored => ?_
      obtain ⟨_, hnone⟩ := hfree address entry hentry ⟨hpriv, haddr, ingestSeq, hstored⟩
      rw [hbefore] at hnone
      exact absurd hnone (by simp)
  · intro address
    refine hs.ordered.imp_of_mem ?_
    rintro older newer _ hnewer hsettled ⟨hold, hnew⟩
    obtain ⟨_, hnone⟩ := hfree address newer hnewer hnew
    rw [hsettled address hold] at hnone
    exact absurd hnone (by simp)
  · exact fun address entry hentry hstored => hs.settled entry hentry address hstored

/-- A quote with coordinate `("f…f", 39604, "q")`. -/
def quoteCall : Call :=
  ⟨⟨hexText 32 'c', hexText 32 'f', 10, 39604, [["d", "q"]], "", hexText 64 'e'⟩, 1000, none, none, .public⟩

/-- A run that stores a quote: its coordinate stays bound to it in every continuation. -/
theorem mkt_coordinates_immutable_quote :
    ∃ s : System Db Write LockId StoreError AdmissionOutcome Call,
      Reachable (AnyCall acceptingRelay) Background (Db.empty openAdministration) s ∧
      ∀ s', Relation.ReflTransGen (Step (AnyCall acceptingRelay) Background) s s' →
        s'.db.mktImmutableBinding ⟨39604, hexText 32 'f', "q"⟩ = some (hexText 32 'c', hexText 64 'e') := by
  have hgroup : GroupActionsSpareCoordinates acceptingRelay := fun _ _ _ => trivial
  have hstart : AnyCall acceptingRelay (Db.empty openAdministration) quoteCall (admitInner acceptingRelay quoteCall) :=
    rfl
  obtain ⟨s, hs, hdb⟩ := Reachable.alone Background hstart
  refine ⟨s, hs, fun s' hsteps => ?_⟩
  apply (mkt_coordinates_immutable acceptingRelay hgroup openAdministration s hs).1 s' hsteps
  rw [hdb]
  decide +kernel

end Immortal.Store
