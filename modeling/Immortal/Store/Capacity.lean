import Immortal.Store.Alone
import Immortal.Store.Reservation

/-!
# `Immortal.Store.Capacity` — reservations never exceed the committed capacity

Claims on a bucket are decided under the bucket's lock, so between the capacity check and the commit the active
claims on the bucket can only become fewer. The check is made at the call's own `now`, which is never ahead of
the clock: at every later time fewer claims count. That gives the bound for the claim's own asset, with the
capacity the claim declares; for every other asset nothing has changed.
-/

namespace Immortal.Store

open Immortal.Domain Txn ReservationDb Prog List ReservationRow

/-! ## What the bound speaks about -/

/-- The claim was accepted on this bucket and asset; the row may have been released since. -/
def ReservationRow.acceptedFor (provider bucket asset : String) (row : ReservationRow) : Bool :=
  row.decision = .active ∧ row.claim.providerPubkey = provider ∧ row.claim.capacityBucketId = some bucket ∧
    row.claim.reservedAssetId = some asset

/-- The capacity that the most recently accepted claim on a bucket and asset declared; nothing is committed
    before the first one. -/
def ReservationDb.committedCapacity (d : ReservationDb) (provider bucket asset : String) : Int :=
  (((d.claims.filter (ReservationRow.acceptedFor provider bucket asset)).map
    (fun row => row.claim.handlerCommittedCapacity)).getLast?).getD 0

structure CapacityInv (d : ReservationDb) : Prop where
  amounts : ∀ row ∈ d.claims, 0 ≤ row.claim.reservedAmount
  capacity : ∀ provider bucket asset (now : Int), (d.clock : Int) ≤ now →
    d.reserved provider bucket asset now ≤ d.committedCapacity provider bucket asset
  count : ∀ provider bucket (now : Int), (d.clock : Int) ≤ now →
    (d.activeClaims provider bucket now).length ≤ maxActiveReservationsPerBucket

theorem CapacityInv.empty (clock : Nat) : CapacityInv ⟨[], clock⟩ := by
  constructor <;> simp [reserved, activeClaims, bucketClaims,
    committedCapacity]

/-! ## Fewer active claims reserve less -/

section
variable {d d' : ReservationDb} {provider bucket asset : String} {now now' : Int}

theorem activeClaims_sublist (h : (d'.bucketClaims provider bucket).Sublist (d.bucketClaims provider bucket))
    (hnow : now ≤ now') : (d'.activeClaims provider bucket now').Sublist (d.activeClaims provider bucket now) := by
  refine (h.filter _).trans ?_
  apply monotone_filter_right
  intro row hrow
  cases hexp : row.claim.expiresAt with
  | none => simp [hexp] at hrow
  | some expiresAt =>
    simp only [hexp, Option.any_some, decide_eq_true_eq] at hrow ⊢
    omega

theorem reserved_le (hamounts : ∀ row ∈ d.claims, 0 ≤ row.claim.reservedAmount)
    (h : (d'.bucketClaims provider bucket).Sublist (d.bucketClaims provider bucket)) (hnow : now ≤ now') :
    d'.reserved provider bucket asset now' ≤ d.reserved provider bucket asset now := by
  have hsub := (activeClaims_sublist h hnow).filter (fun row => row.claim.reservedAssetId = some asset)
  refine (hsub.map (fun row => row.claim.reservedAmount)).sum_le_sum ?_
  intro amount hamount
  obtain ⟨row, hrow, rfl⟩ := mem_map.mp hamount
  exact hamounts row (mem_of_mem_filter (mem_of_mem_filter (mem_of_mem_filter hrow)))

end

/-! ## Releasing rows -/

/-- Rows keep their claim and decision, and those that stay active do not change. -/
def Releases (d d' : ReservationDb) : Prop :=
  d'.clock = d.clock ∧ ∃ f : ReservationRow → ReservationRow, d'.claims = d.claims.map f ∧
    ∀ row, (f row).claim = row.claim ∧ (f row).decision = row.decision ∧ ((f row).active = true → f row = row)

theorem filter_map_sublist {α : Type} {f : α → α} {p : α → Bool} (h : ∀ a, p (f a) = true → f a = a) (l : List α) :
    ((l.map f).filter p).Sublist (l.filter p) := by
  induction l with
  | nil => exact List.Sublist.refl _
  | cons a l ih =>
    rw [map_cons]
    by_cases hfa : p (f a) = true
    · have ha : f a = a := h a hfa
      rw [ha] at hfa ⊢
      rw [filter_cons_of_pos hfa, filter_cons_of_pos hfa]
      exact ih.cons_cons a
    · rw [filter_cons_of_neg hfa]
      exact ih.trans ((sublist_cons_self a l).filter p)

section
variable {d d' : ReservationDb}

theorem Releases.bucketClaims (h : Releases d d') (provider bucket : String) :
    (d'.bucketClaims provider bucket).Sublist (d.bucketClaims provider bucket) := by
  obtain ⟨_, f, hf, hrow⟩ := h
  unfold ReservationDb.bucketClaims
  rw [hf]
  apply filter_map_sublist
  intro row hp
  rw [decide_eq_true_eq] at hp
  exact (hrow row).2.2 hp.1

theorem Releases.committedCapacity (h : Releases d d') (provider bucket asset : String) :
    d'.committedCapacity provider bucket asset = d.committedCapacity provider bucket asset := by
  obtain ⟨_, f, hf, hrow⟩ := h
  have haccepted : acceptedFor provider bucket asset ∘ f =
      acceptedFor provider bucket asset := by
    funext row
    simp [acceptedFor, hrow row]
  have hcapacity : (fun row : ReservationRow => row.claim.handlerCommittedCapacity) ∘ f =
      fun row => row.claim.handlerCommittedCapacity := by
    funext row
    simp [hrow row]
  unfold ReservationDb.committedCapacity
  rw [hf, filter_map, haccepted, map_map, hcapacity]

theorem Releases.inv (h : Releases d d') (hd : CapacityInv d) : CapacityInv d' := by
  have hclock := h.1
  refine ⟨?_, ?_, ?_⟩
  · obtain ⟨_, f, hf, hrow⟩ := h
    intro row hmem
    rw [hf] at hmem
    obtain ⟨row', hmem', rfl⟩ := mem_map.mp hmem
    rw [(hrow row').1]
    exact hd.amounts row' hmem'
  · intro provider bucket asset now hnow
    rw [hclock] at hnow
    rw [h.committedCapacity]
    exact (reserved_le hd.amounts (h.bucketClaims provider bucket) le_rfl).trans (hd.capacity _ _ _ _ hnow)
  · intro provider bucket now hnow
    rw [hclock] at hnow
    exact (activeClaims_sublist (h.bucketClaims provider bucket) le_rfl).length_le.trans (hd.count _ _ _ hnow)

variable {now : Int}

/-- A release of some of the rows that are due. -/
theorem releases_of_due {p : ReservationRow → Prop} [DecidablePred p] :
    Releases d { d with claims := d.claims.map (fun row => if p row then row.release now else row) } := by
  refine ⟨rfl, _, rfl, fun row => ?_⟩
  by_cases hp : p row
  · rw [if_pos hp]
    exact ⟨rfl, rfl, fun h => absurd h (by simp [release])⟩
  · rw [if_neg hp]
    exact ⟨rfl, rfl, fun _ => rfl⟩

theorem releases_releaseExpired (now : Int) (locked : List String) : Releases d (d.releaseExpired now locked) :=
  releases_of_due

end

/-! ## Inserting a row -/

/-- The capacity check of a claim: there is room for one more claim on the bucket and for its amount. -/
def Fits (claim : MktSwpReservationClaim) (bucket asset : String) (now : Int) (d : ReservationDb) : Prop :=
  (d.activeClaims claim.providerPubkey bucket now).length < maxActiveReservationsPerBucket ∧
    d.reserved claim.providerPubkey bucket asset now ≤ claim.handlerCommittedCapacity - claim.reservedAmount

theorem Fits.sublist {claim : MktSwpReservationClaim} {bucket asset : String} {d d' : ReservationDb}
    (h : Fits claim bucket asset now d) (hamounts : ∀ row ∈ d.claims, 0 ≤ row.claim.reservedAmount)
    (hsub : (d'.bucketClaims claim.providerPubkey bucket).Sublist (d.bucketClaims claim.providerPubkey bucket)) :
    Fits claim bucket asset now d' := by
  refine ⟨?_, ?_⟩
  · exact (activeClaims_sublist hsub le_rfl).length_le.trans_lt h.1
  · exact (reserved_le hamounts hsub le_rfl).trans h.2

section
variable {d : ReservationDb} {row : ReservationRow} {provider bucket asset : String} {now : Int}

theorem bucketClaims_insert :
    (d.write (.insertClaim row)).bucketClaims provider bucket = d.bucketClaims provider bucket ++
      if row.active ∧ row.claim.providerPubkey = provider ∧ row.claim.capacityBucketId = some bucket then [row]
      else [] := by
  show (d.claims ++ [row]).filter _ = _
  rw [filter_append, bucketClaims, filter_singleton, Bool.cond_decide]

/-- A row that is not an active claim on the bucket leaves the bucket as it was. -/
theorem bucketClaims_insert_other
    (h : ¬ (row.active ∧ row.claim.providerPubkey = provider ∧ row.claim.capacityBucketId = some bucket)) :
    (d.write (.insertClaim row)).bucketClaims provider bucket = d.bucketClaims provider bucket := by
  rw [bucketClaims_insert, if_neg h, append_nil]

theorem activeClaims_insert_length :
    ((d.write (.insertClaim row)).activeClaims provider bucket now).length ≤
      (d.activeClaims provider bucket now).length + 1 := by
  unfold activeClaims
  rw [bucketClaims_insert, filter_append, length_append]
  split
  · exact Nat.add_le_add_left (length_filter_le _ _) _
  · simp

theorem reserved_insert_le (hamount : 0 ≤ row.claim.reservedAmount) :
    (d.write (.insertClaim row)).reserved provider bucket asset now ≤
      d.reserved provider bucket asset now + row.claim.reservedAmount := by
  unfold reserved activeClaims
  rw [bucketClaims_insert, filter_append, filter_append, map_append, sum_append]
  apply Int.add_le_add_left
  -- what is left of the new row after the filters is the row or nothing
  split
  · cases hexp : row.claim.expiresAt.any (now < ·) with
    | true =>
      by_cases hasset : row.claim.reservedAssetId = some asset
      · simp [hexp, hasset]
      · simpa [hasset] using hamount
    | false => simpa [hexp] using hamount
  · simpa using hamount

theorem reserved_insert_other (h : row.claim.reservedAssetId ≠ some asset) :
    (d.write (.insertClaim row)).reserved provider bucket asset now = d.reserved provider bucket asset now := by
  unfold reserved activeClaims
  rw [bucketClaims_insert]
  split
  · cases hexp : row.claim.expiresAt.any (now < ·) with
    | true => simp [h]
    | false => simp [hexp]
  · simp

theorem committedCapacity_insert :
    (d.write (.insertClaim row)).committedCapacity provider bucket asset =
      if row.acceptedFor provider bucket asset then row.claim.handlerCommittedCapacity
      else d.committedCapacity provider bucket asset := by
  show ((((d.claims ++ [row]).filter _).map _).getLast?).getD 0 = _
  rw [filter_append, filter_singleton]
  cases row.acceptedFor provider bucket asset with
  | true => simp
  | false =>
    rw [cond_false, append_nil]
    rfl

/-- **The commit lemma.** A row goes in as refused, or as an active claim that passed the capacity check at a
    time not ahead of the clock. -/
theorem CapacityInv.insert (hd : CapacityInv d) (hamount : 0 ≤ row.claim.reservedAmount)
    (hdecision : row.active = true ↔ row.decision = .active)
    (hfits : row.active = true → ∃ bucket asset now, row.claim.capacityBucketId = some bucket ∧
      row.claim.reservedAssetId = some asset ∧ now ≤ (d.clock : Int) ∧ Fits row.claim bucket asset now d) :
    CapacityInv (d.write (.insertClaim row)) := by
  refine ⟨?_, ?_, ?_⟩
  · intro r hr
    rcases mem_append.mp hr with hr | hr
    · exact hd.amounts r hr
    · rw [mem_singleton] at hr
      subst hr
      exact hamount
  · intro provider bucket asset t ht
    rw [committedCapacity_insert]
    by_cases hacc : row.acceptedFor provider bucket asset = true
    · rw [if_pos hacc]
      simp only [acceptedFor, decide_eq_true_eq] at hacc
      obtain ⟨hactive, rfl, hbucket, hasset⟩ := hacc
      obtain ⟨b, a, now, hb, ha, hnow, _, hroom⟩ := hfits (hdecision.mpr hactive)
      rw [hbucket, Option.some.injEq] at hb
      rw [hasset, Option.some.injEq] at ha
      subst hb ha
      calc (d.write (.insertClaim row)).reserved row.claim.providerPubkey bucket asset t
          ≤ d.reserved row.claim.providerPubkey bucket asset t + row.claim.reservedAmount :=
            reserved_insert_le hamount
        _ ≤ d.reserved row.claim.providerPubkey bucket asset now + row.claim.reservedAmount :=
            Int.add_le_add_right (reserved_le hd.amounts (List.Sublist.refl _) (hnow.trans ht)) _
        _ ≤ row.claim.handlerCommittedCapacity := by omega
    · rw [if_neg hacc]
      refine le_trans (le_of_eq ?_) (hd.capacity provider bucket asset t ht)
      by_cases hin : row.active ∧ row.claim.providerPubkey = provider ∧ row.claim.capacityBucketId = some bucket
      · -- an active claim on the bucket for another asset
        obtain ⟨hactive, hprov, hbucket⟩ := hin
        apply reserved_insert_other
        intro hasset
        apply hacc
        simp only [acceptedFor, decide_eq_true_eq]
        exact ⟨hdecision.mp hactive, hprov, hbucket, hasset⟩
      · unfold reserved activeClaims
        rw [bucketClaims_insert_other hin]
  · intro provider bucket t ht
    by_cases hin : row.active ∧ row.claim.providerPubkey = provider ∧ row.claim.capacityBucketId = some bucket
    · obtain ⟨hactive, rfl, hbucket⟩ := hin
      obtain ⟨b, a, now, hb, _, hnow, hroom, _⟩ := hfits hactive
      rw [hbucket, Option.some.injEq] at hb
      subst hb
      have hmono : (d.activeClaims row.claim.providerPubkey bucket t).length ≤
          (d.activeClaims row.claim.providerPubkey bucket now).length :=
        (activeClaims_sublist (List.Sublist.refl _) (hnow.trans ht)).length_le
      have hone : ((d.write (.insertClaim row)).activeClaims row.claim.providerPubkey bucket t).length ≤
          (d.activeClaims row.claim.providerPubkey bucket t).length + 1 := activeClaims_insert_length
      omega
    · unfold activeClaims
      rw [bucketClaims_insert_other hin]
      exact hd.count provider bucket t ht

end

/-! ## The discipline -/

/-- What happens outside coordination transactions: time passes, and sweeps release rows that are due. -/
inductive ReservationBackground : ReservationDb → ReservationDb → Prop where
  | tick {d} (clock : Nat) : d.clock ≤ clock → ReservationBackground d { d with clock := clock }
  | sweep {d} (now : Nat) (locked : List String) : now ≤ d.clock → ReservationBackground d (d.releaseExpired now locked)

section
variable (hashtextextended : String → Int)

def bucketLock (provider bucket : String) : LockId := .text (hashtextextended (bucketLockKey provider bucket))

/-- A commit adds active claims only to buckets it has locked. -/
def ReservationChange (held : List LockId) (d d' : ReservationDb) : Prop :=
  d'.clock = d.clock ∧ ∀ provider bucket, bucketLock hashtextextended provider bucket ∉ held →
    (d'.bucketClaims provider bucket).Sublist (d.bucketClaims provider bucket)

def reservationDiscipline : Discipline ReservationDb LockId :=
  ⟨CapacityInv, ReservationChange hashtextextended, ReservationBackground⟩

end

section
variable {hashtextextended : String → Int} {held : List LockId} {d d' : ReservationDb}

theorem ReservationBackground.bucketClaims (h : ReservationBackground d d') (provider bucket : String) :
    (d'.bucketClaims provider bucket).Sublist (d.bucketClaims provider bucket) := by
  cases h with
  | tick clock _ => exact List.Sublist.refl _
  | sweep now locked _ => exact (releases_releaseExpired now locked).bucketClaims provider bucket

theorem ReservationBackground.clock_le (h : ReservationBackground d d') : d.clock ≤ d'.clock := by
  cases h with
  | tick clock hle => exact hle
  | sweep now locked _ => exact le_rfl

theorem ReservationBackground.inv (h : ReservationBackground d d') (hd : CapacityInv d) : CapacityInv d' := by
  cases h with
  | tick clock hle =>
    -- the bound at the later times is part of the bound before
    refine ⟨hd.amounts, ?_, ?_⟩
    · intro provider bucket asset now hnow
      have hnow : (clock : Int) ≤ now := hnow
      exact hd.capacity provider bucket asset now (by omega)
    · intro provider bucket now hnow
      have hnow : (clock : Int) ≤ now := hnow
      exact hd.count provider bucket now (by omega)
  | sweep now locked _ => exact (releases_releaseExpired now locked).inv hd

theorem later_clock (hd : CapacityInv d) (h : (reservationDiscipline hashtextextended).Later held d d') :
    d.clock ≤ d'.clock := by
  refine Discipline.Later.stable (P := fun x => d.clock ≤ x.clock) ?_ hd h le_rfl
  rintro a b _ ⟨_, henv | ⟨other, _, hclock, _⟩⟩ ha
  · exact ha.trans (ReservationBackground.clock_le henv)
  · rw [hclock]
    exact ha

/-- While a bucket is locked, its active claims can only become fewer. -/
theorem later_bucket {provider bucket : String} (hheld : bucketLock hashtextextended provider bucket ∈ held)
    (hd : CapacityInv d) (h : (reservationDiscipline hashtextextended).Later held d d') :
    (d'.bucketClaims provider bucket).Sublist (d.bucketClaims provider bucket) := by
  refine Discipline.Later.stable
    (P := fun x => (x.bucketClaims provider bucket).Sublist (d.bucketClaims provider bucket)) ?_ hd h
    (List.Sublist.refl _)
  rintro a b _ ⟨_, henv | ⟨other, hdis, _, hsub⟩⟩ ha
  · exact (ReservationBackground.bucketClaims henv provider bucket).trans ha
  · exact (hsub provider bucket (hdis _ hheld)).trans ha

end

/-! ## The transaction under interference -/

section
variable {hashtextextended : String → Int} {claim : MktSwpReservationClaim} {held : List LockId} {d : ReservationDb}

abbrev anyOutcome (_ : Except StoreError MktSwpCoordinationOutcome) (_ _ : ReservationDb) : Prop := True

/-- What a decision entitles the transaction to: an active row needs the bucket lock and a passed check. -/
def Decided (hashtextextended : String → Int) (claim : MktSwpReservationClaim) (held : List LockId)
    (d : ReservationDb) (decision : ReservationDecision) (active : Bool) : Prop :=
  (active = true ↔ decision = .active) ∧ (active = true → ∃ bucket asset now,
    claim.capacityBucketId = some bucket ∧ claim.reservedAssetId = some asset ∧ now ≤ (d.clock : Int) ∧
    bucketLock hashtextextended claim.providerPubkey bucket ∈ held ∧ Fits claim bucket asset now d)

variable {decision : ReservationDecision}

theorem Decided.later {active : Bool} {d' : ReservationDb}
    (h : Decided hashtextextended claim held d decision active) (hd : CapacityInv d)
    (hl : (reservationDiscipline hashtextextended).Later held d d') :
    Decided hashtextextended claim held d' decision active := by
  refine ⟨h.1, fun hactive => ?_⟩
  obtain ⟨bucket, asset, now, hbucket, hasset, hnow, hlock, hfits⟩ := h.2 hactive
  have hclock : d.clock ≤ d'.clock := later_clock hd hl
  exact ⟨bucket, asset, now, hbucket, hasset, by omega, hlock, hfits.sublist hd.amounts (later_bucket hlock hd hl)⟩

theorem decided_refused (h : decision ≠ .active) :
    Decided hashtextextended claim held d decision false :=
  ⟨by simp [h], by simp⟩

/-- A missing member ends the transaction. -/
theorem wp_required {α : Type} {value : Option α} {reason : String} {log : List ReservationWrite}
    {Q : α → List LockId → List ReservationWrite → ReservationDb → Prop}
    (h : ∀ a, value = some a → Q a held log d) :
    (ofExcept (required value reason) : Reservation α).wp (reservationDiscipline hashtextextended) anyOutcome Q
      held log d := by
  cases hv : value with
  | none => exact fun _ _ => trivial
  | some a => exact h a hv

theorem wp_covenantReuseCheck {Q : Bool → List LockId → List ReservationWrite → ReservationDb → Prop}
    (h : ∀ reuse held' d', (∀ k ∈ held, k ∈ held') → (reservationDiscipline hashtextextended).Later held d d' →
      Q reuse held' [] d') :
    (covenantReuseCheck hashtextextended claim now).wp (reservationDiscipline hashtextextended) anyOutcome Q
      held [] d := by
  unfold covenantReuseCheck
  split
  · rw [wp_bind]
    refine wp_acquire fun d₁ hl₁ => wp_query fun d₂ hl₂ => ?_
    apply h
    · exact fun k hk => .tail _ hk
    · exact hl₁.trans (hl₂.mono fun k hk => .tail _ hk)
  · exact fun _ _ => trivial
  · exact fun _ _ => trivial
  · exact h false held d (fun _ hk => hk) .refl

/-- **The decision** holds the bucket lock and has passed the capacity check wherever it answers `active`. -/
theorem wp_decideReservation
    {Q : ReservationDecision × Bool → List LockId → List ReservationWrite → ReservationDb → Prop}
    (hd : CapacityInv d) (hnow : now ≤ (d.clock : Int))
    (h : ∀ decision active held' d', CapacityInv d' → Decided hashtextextended claim held' d' decision active →
      Q (decision, active) held' [] d') :
    (decideReservation hashtextextended claim now).wp (reservationDiscipline hashtextextended) anyOutcome Q
      held [] d := by
  unfold decideReservation
  split
  · exact h .none false held d hd (decided_refused (by decide))
  · rw [wp_bind]
    refine wp_required fun bucket hbucket => ?_
    rw [wp_bind]
    refine wp_required fun asset hasset => ?_
    rw [wp_bind]
    refine wp_required fun allocationSequence _ => ?_
    rw [wp_bind]
    refine wp_acquire fun d₁ hl₁ => ?_
    have hd₁ : CapacityInv d₁ := hl₁.inv hd
    rw [wp_bind]
    refine wp_required fun expiresAt _ => ?_
    split
    · exact h .expired false _ d₁ hd₁ (decided_refused (by decide))
    · rw [wp_bind]
      refine wp_query fun d₂ hl₂ => ?_
      have hd₂ : CapacityInv d₂ := hl₂.inv hd₁
      show wp _ _ (covenantReuseCheck hashtextextended claim now >>= _) _ _ _ _
      rw [wp_bind]
      refine wp_covenantReuseCheck fun reuse held' d₃ hsub hl₃ => ?_
      have hd₃ : CapacityInv d₃ := hl₃.inv hd₂
      rw [wp_bind]
      refine wp_query fun d₄ hl₄ => ?_
      have hd₄ : CapacityInv d₄ := hl₄.inv hd₃
      have hlock : bucketLock hashtextextended claim.providerPubkey bucket ∈ held' := hsub _ mem_cons_self
      have hnow₄ : now ≤ (d₄.clock : Int) := by
        have h₁ := later_clock hd hl₁
        have h₂ := later_clock hd₁ hl₂
        have h₃ := later_clock hd₂ hl₃
        have h₄ := later_clock hd₃ hl₄
        omega
      split
      · exact h _ _ _ d₄ hd₄ (decided_refused (by decide))
      · split
        · exact h _ _ _ d₄ hd₄ (decided_refused (by decide))
        · split
          · exact h _ _ _ d₄ hd₄ (decided_refused (by decide))
          · split
            · exact h _ _ _ d₄ hd₄ (decided_refused (by decide))
            · rename_i havailable
              refine h .active true held' d₄ hd₄ ⟨by simp, fun _ => ?_⟩
              simp only [capacityAvailable, Bool.not_eq_true', Bool.not_eq_false, Bool.and_eq_true,
                decide_eq_true_eq] at havailable
              exact ⟨bucket, asset, now, hbucket, hasset, hnow₄, hlock, havailable⟩

variable {row : ReservationRow}

theorem checks_reservedAmount (h : row.checks = true) : 0 ≤ row.claim.reservedAmount := by
  simp only [checks, Bool.and_eq_true, decide_eq_true_eq] at h
  tauto

/-- The insert of a decided row, up to the commit. -/
theorem wp_insertMktSwpReservation
    {Q : Unit → List LockId → List ReservationWrite → ReservationDb → Prop} (hd : CapacityInv d)
    (hdecided : Decided hashtextextended row.claim held d row.decision row.active)
    (h : ∀ d', CapacityInv d' → 0 ≤ row.claim.reservedAmount →
      Decided hashtextextended row.claim held d' row.decision row.active → Q () held [.insertClaim row] d') :
    (insertMktSwpReservation row).wp (reservationDiscipline hashtextextended) anyOutcome Q held [] d := by
  unfold insertMktSwpReservation
  split
  case isTrue hchecks =>
    refine wp_execUnless (fun _ _ => trivial) fun d₁ hl₁ _ => ?_
    exact h d₁ (hl₁.inv hd) (checks_reservedAmount hchecks) (hdecided.later hd hl₁)
  case isFalse _ => exact fun _ _ => trivial

/-- Committing a decided row keeps the bound and adds active claims to a locked bucket only. -/
theorem commit_insertClaim (hd : CapacityInv d) (hamount : 0 ≤ row.claim.reservedAmount)
    (hdecided : Decided hashtextextended row.claim held d row.decision row.active) :
    CapacityInv (d.write (.insertClaim row)) ∧
      ReservationChange hashtextextended held d (d.write (.insertClaim row)) := by
  refine ⟨hd.insert hamount hdecided.1 fun hactive => ?_, rfl, fun provider bucket hfree => ?_⟩
  · obtain ⟨bucket, asset, now, hbucket, hasset, hnow, _, hfits⟩ := hdecided.2 hactive
    exact ⟨bucket, asset, now, hbucket, hasset, hnow, hfits⟩
  · rw [bucketClaims_insert_other]
    rintro ⟨hactive, hprov, hbucket⟩
    obtain ⟨b, _, _, hb, _, _, hlock, _⟩ := hdecided.2 hactive
    rw [hbucket, Option.some.injEq] at hb
    subst hb hprov
    exact hfree hlock

theorem commit_unchanged (hd : CapacityInv d) :
    CapacityInv d ∧ ReservationChange hashtextextended held d d :=
  ⟨hd, rfl, fun _ _ _ => List.Sublist.refl _⟩

theorem commit_releaseClaim (hd : CapacityInv d) (quoteEventId : String) (now : Int) :
    CapacityInv (d.write (.releaseClaim quoteEventId now)) ∧
      ReservationChange hashtextextended held d (d.write (.releaseClaim quoteEventId now)) := by
  have hrel : Releases d (d.write (.releaseClaim quoteEventId now)) := releases_of_due
  exact ⟨hrel.inv hd, hrel.1, fun provider bucket _ => hrel.bucketClaims provider bucket⟩

/-- **One coordination transaction**, over arbitrary interference. -/
theorem wp_applyMktSwpCoordination {call : ReservationCall} (hd : CapacityInv d) (hnow : call.now ≤ d.clock) :
    (applyMktSwpCoordination hashtextextended call).wp (reservationDiscipline hashtextextended) anyOutcome NoValue
      [] [] d := by
  unfold applyMktSwpCoordination
  rw [wp_bind]
  refine wp_acquire fun d₁ hl₁ => ?_
  have hd₁ : CapacityInv d₁ := hl₁.inv hd
  have hclock₁ : d.clock ≤ d₁.clock := later_clock hd hl₁
  rw [wp_bind]
  unfold applyMktSwpReservation
  unfold pgI64
  split
  case isFalse _ => exact fun _ _ => trivial
  case isTrue _ =>
    show wp _ _ ((query (fun d => d.outcome call.claim.quoteEventId) : Reservation _) >>= _) _ _ _ _
    rw [wp_bind]
    refine wp_query fun d₂ hl₂ => ?_
    have hd₂ : CapacityInv d₂ := hl₂.inv hd₁
    have hclock₂ : d₁.clock ≤ d₂.clock := later_clock hd₁ hl₂
    split
    · -- a replay: at most a release of the row
      unfold replayReservation
      split
      · split
        · refine wp_exec fun d₃ hl₃ d₄ hl₄ => ⟨trivial, ?_⟩
          exact commit_releaseClaim ((hl₃.trans hl₄).inv hd₂) _ _
        · exact fun d₃ hl₃ => ⟨trivial, commit_unchanged (hl₃.inv hd₂)⟩
      · exact fun d₃ hl₃ => ⟨trivial, commit_unchanged (hl₃.inv hd₂)⟩
    · rw [wp_bind]
      refine wp_acquire fun d₃ hl₃ => ?_
      have hd₃ : CapacityInv d₃ := hl₃.inv hd₂
      have hclock₃ : d₂.clock ≤ d₃.clock := later_clock hd₂ hl₃
      rw [wp_bind]
      refine wp_decideReservation hd₃ (by omega) fun decision active held' d₄ hd₄ hdecided => ?_
      show wp _ _ (insertMktSwpReservation ⟨call.wrapEventId, call.claim, decision, active, none⟩ >>= _) _ _ _ _
      rw [wp_bind]
      refine wp_insertMktSwpReservation hd₄ hdecided fun d₅ hd₅ hamount hdecided₅ d₆ hl₆ => ⟨trivial, ?_⟩
      exact commit_insertClaim (hl₆.inv hd₅) hamount (hdecided₅.later hd₅ hl₆)

end

/-! ## Whole runs -/

/-- A coordination call reads its `now` from the clock when it begins. -/
def ReservationStart (hashtextextended : String → Int) (d : ReservationDb) (call : ReservationCall)
    (p : Reservation Empty) : Prop :=
  p = applyMktSwpCoordination hashtextextended call ∧ call.now ≤ d.clock

theorem reservations_verified (hashtextextended : String → Int) :
    Verified (reservationDiscipline hashtextextended) (ReservationStart hashtextextended) (fun _ _ => anyOutcome)
      (fun _ _ => True) where
  start := by
    rintro d call p hd ⟨rfl, hnow⟩
    exact wp_applyMktSwpCoordination hd hnow
  env := fun _ _ hd henv => ReservationBackground.inv henv hd
  settle := fun _ _ => trivial
  keep := fun _ _ _ _ _ _ => trivial

/-- **Reservations stay within the committed capacity.** Whatever coordination calls, replays, sweeps and ticks
    of the clock interleave, from the current time on: on every bucket and asset the active claims that have not
    run out reserve at most the capacity that the most recently accepted claim declared, and on every bucket
    there are at most `maxActiveReservationsPerBucket` of them. -/
theorem reservations_within_capacity (hashtextextended : String → Int) (clock : Nat)
    (s : System ReservationDb ReservationWrite LockId StoreError MktSwpCoordinationOutcome ReservationCall)
    (h : Reachable (ReservationStart hashtextextended) ReservationBackground ⟨[], clock⟩ s)
    (now : Nat) (hnow : s.db.clock ≤ now) (provider bucket : String) :
    (∀ asset, s.db.reserved provider bucket asset now ≤ s.db.committedCapacity provider bucket asset) ∧
    (s.db.activeClaims provider bucket now).length ≤ maxActiveReservationsPerBucket := by
  have hinv : CapacityInv s.db :=
    (Sound.reachable (reservations_verified hashtextextended) (CapacityInv.empty clock) h).inv
  have htime : (s.db.clock : Int) ≤ now := by omega
  exact ⟨fun asset => hinv.capacity provider bucket asset now htime, hinv.count provider bucket now htime⟩

/-- A soft claim of 5 out of 10 on the bucket `b`. -/
def softCall : ReservationCall where
  sourceEventId := hexText 32 'a'
  wrapEventId := hexText 32 'b'
  now := 100
  claim :=
    { quoteEventId := hexText 32 'a', providerPubkey := hexText 32 'f', sessionId := hexText 32 'c',
      rfqEventId := hexText 32 'd', reservationId := hexText 32 'e', capacityBucketId := some "b",
      reservedAssetId := some "swp:1:bip122:000000000019d6689c085ae165831e93:btc:chain", reservationClass := .soft,
      reservedAmount := 5, handlerCommittedCapacity := 10, allocationSequence := some 0,
      proofClass := some .providerSigned, proofStrength := 10, proofRefSha256 := some (hexText 32 'a'),
      reserveUnitSha256 := none, capacityCommitmentSha256 := some (hexText 32 'b'), expiresAt := some 200 }

/-- A run in which the claim of `softCall` is accepted and has not run out. -/
theorem reservations_within_capacity_soft :
    ∃ s : System ReservationDb ReservationWrite LockId StoreError MktSwpCoordinationOutcome ReservationCall,
      Reachable (ReservationStart acceptingRelay.hashtextextended) ReservationBackground ⟨[], 100⟩ s ∧
      s.db.activeClaims (hexText 32 'f') "b" (150 : Nat) ≠ [] ∧
      (∀ asset, s.db.reserved (hexText 32 'f') "b" asset (150 : Nat) ≤ s.db.committedCapacity (hexText 32 'f') "b" asset) ∧
      (s.db.activeClaims (hexText 32 'f') "b" (150 : Nat)).length ≤ maxActiveReservationsPerBucket := by
  have hstart : ReservationStart acceptingRelay.hashtextextended ⟨[], 100⟩ softCall
      (applyMktSwpCoordination acceptingRelay.hashtextextended softCall) := ⟨rfl, le_rfl⟩
  obtain ⟨s, hs, hdb⟩ := Reachable.alone ReservationBackground hstart
  have hrun : ((applyMktSwpCoordination acceptingRelay.hashtextextended softCall).run ⟨[], 100⟩).2.clock ≤ 150 ∧
      ((applyMktSwpCoordination acceptingRelay.hashtextextended softCall).run ⟨[], 100⟩).2.activeClaims
        (hexText 32 'f') "b" (150 : Nat) ≠ [] := by decide +kernel
  rw [← hdb] at hrun
  exact ⟨s, hs, hrun.2, reservations_within_capacity _ 100 s hs 150 hrun.1 _ _⟩

end Immortal.Store
