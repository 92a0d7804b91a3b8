import Immortal.Gateway.HubHandoff

/-!
# `Immortal.Gateway.Pump` — from commit notifications to an ordered stream

The relay learns of stored events by notifications, which come one for each sequence number and in any order inside a
transaction. The pump turns them into publications: a notification above its cursor makes it read all rows between the
cursor and the number, publish them in order, and move the cursor. Whatever it cannot account for ends the process.

The pump takes several steps for one notification, and the store moves between them: rows are committed, and rows go by
deletion, replacement and sweeps. Commits number their rows in order, which the ingest lock sees to.
-/

namespace Immortal.Gateway

open Immortal.Domain Immortal.Store List

/-! ## The pump -/

def maxNotificationGap : Nat := 4096

/-- Where the pump is with a notification; the clock was read when it was taken. -/
inductive PumpPhase
  | idle
  | catchingUp (through now : Nat)
  | readLatest (through now latest : Nat)
  | publishing (through : Nat) (events : List EventRow)
  deriving DecidableEq

structure PumpWorld where
  stored : List EventRow
  committed : List EventRow
  allocated : Nat
  now : Nat
  cursor : Nat
  phase : PumpPhase
  taken : List Nat
  published : List EventRow
  failed : Bool
  deriving DecidableEq

inductive PumpAction
  /-- A transaction commits its rows. -/
  | commit (rows : List EventRow)
  | forget (ids : List String)
  | tick (now : Nat)
  | notification (ingestSeq : Nat)
  | readLatest (answered : Bool)
  | readEvents (answered : Bool)
  | publishNext (hubRuns : Bool)
  | closed

/-- `EVENTS_AFTER_SQL`. -/
def eventsAfter (rows : List EventRow) (after through now limit : Nat) : List EventRow :=
  ((rows.filter fun row =>
    after < row.ingestSeq ∧ row.ingestSeq ≤ through ∧ row.event.isExpired now = false).insertionSort
      fun row next => row.ingestSeq ≤ next.ingestSeq).take limit

namespace PumpWorld

def failProcess (w : PumpWorld) : PumpWorld := { w with failed := true }

/-- A notification is taken: one at or below the cursor is skipped, and a gap that is too wide is fatal. -/
def takeNotification (w : PumpWorld) (ingestSeq : Nat) : PumpWorld :=
  let w := { w with taken := ingestSeq :: w.taken }
  if ingestSeq ≤ w.cursor then w
  else if maxNotificationGap < ingestSeq - w.cursor then w.failProcess
  else { w with phase := .catchingUp ingestSeq w.now }

/-- The checks on what `catch_up` returned. -/
def accept (w : PumpWorld) (through latest : Nat) (events : List EventRow) : PumpWorld :=
  if through ≤ latest ∧ events.length ≤ maxNotificationGap then { w with phase := .publishing through events }
  else w.failProcess

/-- A step of the store, or of the pump while the process runs. -/
def step (w : PumpWorld) : PumpAction → Option PumpWorld
  | .commit rows =>
    if rows.Pairwise (fun row next => row.ingestSeq < next.ingestSeq) ∧ ∀ row ∈ rows, w.allocated < row.ingestSeq then
      some { w with
        stored := w.stored ++ rows, committed := w.committed ++ rows, allocated := max w.allocated (latestOf rows) }
    else none
  | .forget ids => some { w with stored := w.stored.filter fun row => row.event.id ∉ ids }
  | .tick now => if w.now ≤ now then some { w with now := now } else none
  | .notification ingestSeq =>
    if w.failed = false ∧ w.phase = .idle ∧ ingestSeq ≤ w.allocated then some (w.takeNotification ingestSeq) else none
  | .readLatest answered =>
    if w.failed then none
    else
      match w.phase with
      | .catchingUp through now =>
        some (if answered then { w with phase := .readLatest through now (latestOf w.stored) } else w.failProcess)
      | _ => none
  | .readEvents answered =>
    if w.failed then none
    else
      match w.phase with
      | .readLatest through now latest =>
        some (if answered then
          w.accept through latest (eventsAfter w.stored w.cursor through now (maxNotificationGap + 1))
        else w.failProcess)
      | _ => none
  | .publishNext hubRuns =>
    if w.failed then none
    else
      match w.phase with
      | .publishing through (row :: rest) =>
        some (if hubRuns then { w with published := w.published ++ [row], phase := .publishing through rest }
          else w.failProcess)
      | .publishing through [] => some { w with cursor := through, phase := .idle }
      | _ => none
  | .closed => if w.failed then none else some w.failProcess

def run (w : PumpWorld) : List PumpAction → Option PumpWorld
  | [] => some w
  | action :: rest => (w.step action).bind fun w => run w rest

end PumpWorld

/-! ## Pages -/

/-- Rows with numbers of their own in a range are no more than the range is wide. -/
theorem length_le_of_range {rows : List EventRow} {after through : Nat}
    (hordered : rows.Pairwise (fun row next => row.ingestSeq < next.ingestSeq))
    (hrange : ∀ row ∈ rows, after < row.ingestSeq ∧ row.ingestSeq ≤ through) : rows.length ≤ through - after := by
  have hnodup : (rows.map (·.ingestSeq)).Nodup := by
    rw [nodup_iff_pairwise_ne, pairwise_map]
    exact hordered.imp fun hlt => hlt.ne
  have hsubset : rows.map (·.ingestSeq) ⊆ range' (after + 1) (through - after) := by
    intro number hnumber
    obtain ⟨row, hrow, rfl⟩ := mem_map.mp hnumber
    obtain ⟨hafter, hthrough⟩ := hrange row hrow
    rw [mem_range'_1]
    omega
  have hle := (hnodup.subperm hsubset).length_le
  simpa using hle

/-- **A page is whole**: in a range that is not wider than the limit nothing is cut off, and nothing is reordered. -/
theorem eventsAfter_whole {rows : List EventRow} {after through now limit : Nat}
    (hordered : rows.Pairwise (fun row next => row.ingestSeq < next.ingestSeq)) (hgap : through - after ≤ limit) :
    eventsAfter rows after through now limit = rows.filter fun row =>
      after < row.ingestSeq ∧ row.ingestSeq ≤ through ∧ row.event.isExpired now = false := by
  unfold eventsAfter
  generalize hkept : (rows.filter fun row =>
    after < row.ingestSeq ∧ row.ingestSeq ≤ through ∧ row.event.isExpired now = false) = kept
  have hpairwise : kept.Pairwise (fun row next => row.ingestSeq < next.ingestSeq) :=
    hkept ▸ hordered.sublist filter_sublist
  have hsort : kept.insertionSort (fun row next => row.ingestSeq ≤ next.ingestSeq) = kept :=
    (hpairwise.imp fun hlt => hlt.le).insertionSort_eq
  have hlength : kept.length ≤ through - after := by
    refine length_le_of_range hpairwise fun row hrow => ?_
    rw [← hkept, mem_filter, decide_eq_true_eq] at hrow
    exact ⟨hrow.2.1, hrow.2.2.1⟩
  rw [hsort, take_of_length_le (hlength.trans hgap)]

/-! ## The invariant -/

/-- The number up to which rows have been read, and the rows that were read and not published yet. -/
def PumpWorld.horizon (w : PumpWorld) : Nat × List EventRow :=
  match w.phase with
  | .publishing through events => (through, events)
  | _ => (w.cursor, [])

/-- The number of the notification under way. -/
def PumpPhase.through : PumpPhase → Option Nat
  | .idle => none
  | .catchingUp through _ => some through
  | .readLatest through _ _ => some through
  | .publishing through _ => some through

def PumpPhase.clock : PumpPhase → Nat
  | .catchingUp _ now => now
  | .readLatest _ now _ => now
  | _ => 0

/-- What was published and what is about to be are the rows above the start up to the horizon: in order, and all of
them that are still stored and not expired. -/
structure PumpInv (start : Nat) (w : PumpWorld) : Prop where
  stored : w.stored.Sublist w.committed
  ordered : w.committed.Pairwise (fun row next => row.ingestSeq < next.ingestSeq)
  committed_le : ∀ row ∈ w.committed, row.ingestSeq ≤ w.allocated
  start_le : start ≤ w.cursor
  cursor_le : w.cursor ≤ w.horizon.1
  horizon_le : w.horizon.1 ≤ w.allocated
  stream : (w.published ++ w.horizon.2).Pairwise (fun row next => row.ingestSeq < next.ingestSeq)
  sound : ∀ row ∈ w.published ++ w.horizon.2,
    row ∈ w.committed ∧ start < row.ingestSeq ∧ row.ingestSeq ≤ w.horizon.1
  complete : ∀ row ∈ w.stored, start < row.ingestSeq → row.ingestSeq ≤ w.horizon.1 →
    row.event.isExpired w.now = false → row ∈ w.published ++ w.horizon.2
  gap : ∀ through ∈ w.phase.through,
    w.cursor < through ∧ through ≤ w.allocated ∧ through - w.cursor ≤ maxNotificationGap
  clock : w.phase.clock ≤ w.now
  taken : w.failed = false → ∀ ingestSeq ∈ w.taken, ingestSeq ≤ w.cursor ∨ w.phase.through = some ingestSeq

variable {start : Nat} {w : PumpWorld}

section Steps

variable (h : PumpInv start w)
include h

/-- Rows that are committed or go, and time, leave the pump where it was. -/
theorem PumpInv.storeMoves {stored committed : List EventRow} {allocated now : Nat}
    (hsub : stored.Sublist committed)
    (hordered : committed.Pairwise (fun row next => row.ingestSeq < next.ingestSeq))
    (hle : ∀ row ∈ committed, row.ingestSeq ≤ allocated) (hgrows : ∀ row ∈ w.committed, row ∈ committed)
    (hallocated : w.allocated ≤ allocated) (hnow : w.now ≤ now)
    (hold : ∀ row ∈ stored, row.ingestSeq ≤ w.allocated → row ∈ w.stored) :
    PumpInv start { w with stored := stored, committed := committed, allocated := allocated, now := now } where
  __ := h
  stored := hsub
  ordered := hordered
  committed_le := hle
  horizon_le := h.horizon_le.trans hallocated
  sound row hrow := by
    obtain ⟨hcommitted, hrest⟩ := h.sound row hrow
    exact ⟨hgrows row hcommitted, hrest⟩
  complete row hrow hstart hhorizon hfresh := by
    have hthere : row ∈ w.stored := hold row hrow (hhorizon.trans h.horizon_le)
    exact h.complete row hthere hstart hhorizon (Event.isExpired_mono hfresh hnow)
  gap through hthrough := by
    obtain ⟨habove, hbelow, hwidth⟩ := h.gap through hthrough
    exact ⟨habove, hbelow.trans hallocated, hwidth⟩
  clock := h.clock.trans hnow

/-- When the process fails, nothing more is promised about notifications. -/
theorem PumpInv.fail (taken : List Nat) : PumpInv start { w with taken := taken, failed := true } where
  __ := h
  taken hrunning := by cases hrunning

/-- As long as no rows have been read, the pump may take a notification or wait for an answer. -/
theorem PumpInv.wait (phase : PumpPhase) (taken : List Nat) (hbefore : w.horizon = (w.cursor, []))
    (hafter : ∀ through events, phase ≠ .publishing through events)
    (hgap : ∀ through ∈ phase.through,
      w.cursor < through ∧ through ≤ w.allocated ∧ through - w.cursor ≤ maxNotificationGap)
    (hclock : phase.clock ≤ w.now)
    (htaken : w.failed = false → ∀ ingestSeq ∈ taken, ingestSeq ≤ w.cursor ∨ phase.through = some ingestSeq) :
    PumpInv start { w with phase := phase, taken := taken } := by
  have hhorizon : ({ w with phase := phase, taken := taken } : PumpWorld).horizon = w.horizon := by
    rw [hbefore]
    cases phase with
    | publishing through events => exact absurd rfl (hafter through events)
    | idle => rfl
    | catchingUp through now => rfl
    | readLatest through now latest => rfl
  refine ⟨h.stored, h.ordered, h.committed_le, h.start_le, ?_, ?_, ?_, ?_, ?_, hgap, hclock, htaken⟩ <;> rw [hhorizon]
  · exact h.cursor_le
  · exact h.horizon_le
  · exact h.stream
  · exact h.sound
  · exact h.complete

theorem PumpInv.takeNotification {ingestSeq : Nat} (hidle : w.phase = .idle)
    (hallocated : ingestSeq ≤ w.allocated) : PumpInv start (w.takeNotification ingestSeq) := by
  have hhorizon : w.horizon = (w.cursor, []) := by simp [PumpWorld.horizon, hidle]
  have hbelow : w.failed = false → ∀ old ∈ w.taken, old ≤ w.cursor := by
    intro hrunning old hold
    have htaken := h.taken hrunning old hold
    simpa [hidle, PumpPhase.through] using htaken
  have hwait : ∀ phase : PumpPhase, (∀ through events, phase ≠ .publishing through events) →
      (∀ through ∈ phase.through,
        w.cursor < through ∧ through ≤ w.allocated ∧ through - w.cursor ≤ maxNotificationGap) →
      phase.clock ≤ w.now → (ingestSeq ≤ w.cursor ∨ phase.through = some ingestSeq) →
      PumpInv start { w with phase := phase, taken := ingestSeq :: w.taken } := by
    intro phase hphase hgap hclock hnew
    refine h.wait phase (ingestSeq :: w.taken) hhorizon hphase hgap hclock fun hrunning old hold => ?_
    rcases mem_cons.mp hold with rfl | hknown
    · exact hnew
    · exact .inl (hbelow hrunning old hknown)
  simp only [PumpWorld.takeNotification]
  split
  · rename_i hskip
    exact hwait w.phase (by simp [hidle]) h.gap h.clock (.inl hskip)
  · rename_i habove
    split
    · exact h.fail (ingestSeq :: w.taken)
    · rename_i hwidth
      refine hwait (.catchingUp ingestSeq w.now) (by simp) ?_ le_rfl (.inr rfl)
      rintro through ⟨⟩
      exact ⟨Nat.lt_of_not_le habove, hallocated, Nat.le_of_not_lt hwidth⟩

/-- **The rows are read**: the range is whole, so what is published next starts where the last range ended. -/
theorem PumpInv.accept {through now latest : Nat}
    (hphase : w.phase = .readLatest through now latest) :
    PumpInv start (w.accept through latest
      (eventsAfter w.stored w.cursor through now (maxNotificationGap + 1))) := by
  have hhorizon : w.horizon = (w.cursor, []) := by simp [PumpWorld.horizon, hphase]
  obtain ⟨habove, hallocated, hwidth⟩ := h.gap through (by simp [hphase, PumpPhase.through])
  have hclock : now ≤ w.now := by
    have hclock := h.clock
    rwa [hphase] at hclock
  have hstored := h.ordered.sublist h.stored
  have hstream := h.stream
  have hsound := h.sound
  have hcomplete := h.complete
  rw [hhorizon, append_nil] at hstream hsound hcomplete
  rw [eventsAfter_whole hstored (hwidth.trans (Nat.le_succ _))]
  generalize hevents : (w.stored.filter fun row =>
    w.cursor < row.ingestSeq ∧ row.ingestSeq ≤ through ∧ row.event.isExpired now = false) = events
  have hmem : ∀ row, row ∈ events ↔ row ∈ w.stored ∧ w.cursor < row.ingestSeq ∧ row.ingestSeq ≤ through ∧
      row.event.isExpired now = false := by
    intro row
    rw [← hevents, mem_filter, decide_eq_true_eq]
  unfold PumpWorld.accept
  split
  · refine ⟨h.stored, h.ordered, h.committed_le, h.start_le, habove.le, hallocated, ?_, ?_, ?_, ?_, Nat.zero_le _, ?_⟩
    · show (w.published ++ events).Pairwise _
      refine pairwise_append.mpr ⟨hstream, hevents ▸ hstored.sublist filter_sublist, ?_⟩
      intro row hrow next hnext
      exact (hsound row hrow).2.2.trans_lt ((hmem next).mp hnext).2.1
    · intro row hrow
      rcases mem_append.mp hrow with hold | hnew
      · obtain ⟨hcommitted, hstart, hbelow⟩ := hsound row hold
        exact ⟨hcommitted, hstart, hbelow.trans habove.le⟩
      · obtain ⟨hthere, hcursor, hbelow, -⟩ := (hmem row).mp hnew
        exact ⟨h.stored.subset hthere, h.start_le.trans_lt hcursor, hbelow⟩
    · intro row hrow hstart hbelow hfresh
      show row ∈ w.published ++ events
      by_cases hcursor : row.ingestSeq ≤ w.cursor
      · exact mem_append_left _ (hcomplete row hrow hstart hcursor hfresh)
      · refine mem_append_right _ ((hmem row).mpr ⟨hrow, Nat.lt_of_not_le hcursor, hbelow, ?_⟩)
        exact Event.isExpired_mono hfresh hclock
    · rintro other ⟨⟩
      exact ⟨habove, hallocated, hwidth⟩
    · intro hrunning ingestSeq htaken
      have hold := h.taken hrunning ingestSeq htaken
      rwa [hphase] at hold
  · exact h.fail w.taken

theorem PumpInv.publishNext {through : Nat} {row : EventRow} {rest : List EventRow}
    (hphase : w.phase = .publishing through (row :: rest)) :
    PumpInv start { w with published := w.published ++ [row], phase := .publishing through rest } := by
  have hhorizon : w.horizon = (through, row :: rest) := by simp [PumpWorld.horizon, hphase]
  have hsame : (w.published ++ [row]) ++ rest = w.published ++ row :: rest := by simp
  have hcursor := h.cursor_le
  have hallocated := h.horizon_le
  have hstream := h.stream
  have hsound := h.sound
  have hcomplete := h.complete
  have hgap := h.gap
  have htaken := h.taken
  rw [hhorizon] at hcursor hallocated hstream hsound hcomplete
  rw [hphase] at hgap htaken
  rw [← hsame] at hstream hsound hcomplete
  exact ⟨h.stored, h.ordered, h.committed_le, h.start_le, hcursor, hallocated, hstream, hsound, hcomplete, hgap,
    Nat.zero_le _, htaken⟩

theorem PumpInv.finish {through : Nat} (hphase : w.phase = .publishing through []) :
    PumpInv start { w with cursor := through, phase := .idle } := by
  have hhorizon : w.horizon = (through, []) := by simp [PumpWorld.horizon, hphase]
  have hcursor := h.cursor_le
  have hallocated := h.horizon_le
  have hstream := h.stream
  have hsound := h.sound
  have hcomplete := h.complete
  rw [hhorizon] at hcursor hallocated hstream hsound hcomplete
  refine ⟨h.stored, h.ordered, h.committed_le, h.start_le.trans hcursor, le_rfl, hallocated, hstream, hsound,
    hcomplete, ?_, Nat.zero_le _, ?_⟩
  · rintro other ⟨⟩
  · intro hrunning ingestSeq htaken
    rcases h.taken hrunning ingestSeq htaken with hbelow | hunderway
    · exact .inl (hbelow.trans hcursor)
    · rw [hphase] at hunderway
      cases hunderway
      exact .inl le_rfl

/-- **One step** of the store or of the pump. -/
theorem PumpInv.step {w' : PumpWorld} {action : PumpAction} (hstep : w.step action = some w') : PumpInv start w' := by
  cases action with
  | commit rows =>
    simp only [PumpWorld.step, Option.ite_none_right_eq_some, Option.some.injEq] at hstep
    obtain ⟨⟨hordered, habove⟩, rfl⟩ := hstep
    refine h.storeMoves (h.stored.append (List.Sublist.refl rows)) ?_ ?_
      (fun row hrow => mem_append_left _ hrow) (le_max_left _ _) le_rfl ?_
    · refine pairwise_append.mpr ⟨h.ordered, hordered, fun row hrow next hnext => ?_⟩
      exact (h.committed_le row hrow).trans_lt (habove next hnext)
    · exact forall_mem_append.mpr ⟨fun row hold => (h.committed_le row hold).trans (le_max_left _ _),
        fun row hnew => (le_latestOf hnew).trans (le_max_right _ _)⟩
    · intro row hrow hle
      rcases mem_append.mp hrow with hold | hnew
      · exact hold
      · exact absurd hle (Nat.not_le.mpr (habove row hnew))
  | forget ids =>
    cases hstep
    exact h.storeMoves (filter_sublist.trans h.stored) h.ordered h.committed_le (fun _ hrow => hrow) le_rfl le_rfl
      fun row hrow _ => mem_of_mem_filter hrow
  | tick now =>
    simp only [PumpWorld.step, Option.ite_none_right_eq_some, Option.some.injEq] at hstep
    obtain ⟨hnow, rfl⟩ := hstep
    exact h.storeMoves h.stored h.ordered h.committed_le (fun _ hrow => hrow) le_rfl hnow fun row hrow _ => hrow
  | notification ingestSeq =>
    simp only [PumpWorld.step, Option.ite_none_right_eq_some, Option.some.injEq] at hstep
    obtain ⟨⟨-, hidle, hallocated⟩, rfl⟩ := hstep
    exact h.takeNotification hidle hallocated
  | readLatest answered =>
    simp only [PumpWorld.step, Option.ite_none_left_eq_some] at hstep
    obtain ⟨-, hstep⟩ := hstep
    split at hstep
    · rename_i through now hphase
      cases answered with
      | true =>
        cases hstep
        have hgap := h.gap
        have hclock := h.clock
        have htaken := h.taken
        rw [hphase] at hgap hclock htaken
        exact h.wait (.readLatest through now (latestOf w.stored)) w.taken
          (by simp [PumpWorld.horizon, hphase]) (by simp) hgap hclock htaken
      | false =>
        cases hstep
        exact h.fail w.taken
    · cases hstep
  | readEvents answered =>
    simp only [PumpWorld.step, Option.ite_none_left_eq_some] at hstep
    obtain ⟨-, hstep⟩ := hstep
    split at hstep
    · rename_i through now latest hphase
      cases answered with
      | true =>
        cases hstep
        exact h.accept hphase
      | false =>
        cases hstep
        exact h.fail w.taken
    · cases hstep
  | publishNext hubRuns =>
    simp only [PumpWorld.step, Option.ite_none_left_eq_some] at hstep
    obtain ⟨-, hstep⟩ := hstep
    split at hstep
    · rename_i through row rest hphase
      cases hubRuns with
      | true =>
        cases hstep
        exact h.publishNext hphase
      | false =>
        cases hstep
        exact h.fail w.taken
    · rename_i through hphase
      cases hstep
      exact h.finish hphase
    · cases hstep
  | closed =>
    simp only [PumpWorld.step, Option.ite_none_left_eq_some, Option.some.injEq] at hstep
    obtain ⟨-, rfl⟩ := hstep
    exact h.fail w.taken

end Steps

theorem PumpInv.run {w' : PumpWorld} {actions : List PumpAction} (h : PumpInv start w)
    (hrun : w.run actions = some w') : PumpInv start w' := by
  induction actions generalizing w with
  | nil =>
    cases hrun
    exact h
  | cons action rest ih =>
    obtain ⟨middle, hstep, hrest⟩ := Option.bind_eq_some_iff.mp hrun
    exact ih (h.step hstep) hrest

end Immortal.Gateway
