import Immortal.Txn.System

/-!
# `Immortal.Txn.RowLocks` — locks that guard parts of a database

A lock that every writer of some part of the database takes first and keeps to the end of its transaction guards
that part: what a holder has read of it is still true when the holder commits. `Guard` says which part each lock
guards, `Guard.discipline` is the discipline that follows, and `later_keeps` is the fact programs use.

`lockRow` is `SELECT .. FOR UPDATE`: a row that is there is locked and read again; a row that is not there leaves
no lock behind.

When nothing changes the database outside of the transactions, the finished transactions form a chain from the
initial database to the current one (`Reachable.chained`). That turns facts about each finished transaction into
facts about whole runs.
-/

namespace Txn

/-! ## Guards -/

/-- What each lock guards: `keeps k d d'` says that the part guarded by `k` has not changed from `d` to `d'`. -/
structure Guard (D K : Type) where
  keeps : K → D → D → Prop
  refl : ∀ k d, keeps k d d
  trans : ∀ k a b c, keeps k a b → keeps k b c → keeps k a c

namespace Guard
variable {D W K E R C α β : Type} (guard : Guard D K)

/-- A commit leaves alone what the locks it does not hold guard; nothing else changes the database. -/
def discipline (Inv : D → Prop) : Discipline D K where
  Inv := Inv
  Change held d d' := ∀ k, k ∉ held → guard.keeps k d d'
  Env _ _ := False

variable {guard} {Inv : D → Prop} {held : List K} {d d' : D}

/-- **A held lock.** While a transaction holds a lock, the part it guards does not change. -/
theorem later_keeps (h : (guard.discipline Inv).Later held d d') {k : K} (hk : k ∈ held) : guard.keeps k d d' := by
  induction h with
  | refl => exact guard.refl k d
  | tail _ hlast ih =>
    obtain ⟨-, henv | ⟨other, hdisjoint, hchange⟩⟩ := hlast
    · exact henv.elim
    · exact guard.trans k _ _ _ ih (hchange k (hdisjoint k hk))

end Guard

/-! ## Locking a row -/

section
variable {D W K E R C α β : Type}

/-- `SELECT .. FOR UPDATE` of the row that `read` finds. -/
def Prog.lockRow (key : K) (read : D → Option α) : Prog D W K E R (Option α) :=
  .stmt (fun _ => []) fun d =>
    match read d with
    | none => .pure none
    | some _ => .lock key (.stmt (fun _ => []) fun d => .pure (read d))

variable [Database D W] {G : Discipline D K} {Post : Except E R → D → D → Prop} {held : List K}

theorem Prog.wp_lockRow {key : K} {read : D → Option α} {Q : Option α → List K → List W → D → Prop}
    {log : List W} {d : D} (hnone : ∀ d', G.Later held d d' → read (overlay log d') = none → Q none held log d')
    (hsome : ∀ d', G.Later held d d' → Q (read (overlay log d')) (key :: held) log d') :
    (Prog.lockRow key read : Prog D W K E R (Option α)).wp G Post Q held log d := by
  intro d' hl
  rw [List.append_nil]
  show (match read (overlay log d') with
    | none => Prog.pure none
    | some _ => .lock key (.stmt (fun _ => []) fun d => .pure (read d)) :
      Prog D W K E R (Option α)).wp G Post Q held log d'
  cases hread : read (overlay log d') with
  | none => exact hnone d' hl hread
  | some value =>
    intro locked hl' again hl''
    rw [List.append_nil]
    have hmono : G.Later held locked again := hl''.mono fun k hk => List.mem_cons_of_mem key hk
    exact hsome again (hl.trans (hl'.trans hmono))

/-- A read in the middle of a transaction sees its own writes. -/
theorem Prog.wp_read {f : D → α} {Q : α → List K → List W → D → Prop} {log : List W} {d : D}
    (h : ∀ d', G.Later held d d' → Q (f (overlay log d')) held log d') :
    (Prog.query f : Prog D W K E R α).wp G Post Q held log d := by
  intro d' hl
  rw [List.append_nil]
  exact h d' hl

/-! ## Pieces that write nothing -/

/-- The piece writes nothing, though it may take locks; where it commits, the result satisfies `A`. -/
def Prog.Quietly (A : R → Prop) : Prog D W K E R α → Prop
  | .pure _ => True
  | .stmt writes next => (∀ d, writes d = []) ∧ ∀ d, (next d).Quietly A
  | .lock _ next => next.Quietly A
  | .commit result => A result
  | .fail _ => True

variable {A : R → Prop}

theorem Prog.Quietly.bind {p : Prog D W K E R α} {f : α → Prog D W K E R β} (hp : p.Quietly A)
    (hf : ∀ a, (f a).Quietly A) : (p >>= f).Quietly A := by
  induction p with
  | pure a => exact hf a
  | stmt writes next ih => exact ⟨hp.1, fun d => ih d (hp.2 d)⟩
  | lock key next ih => exact ih hp
  | commit r => exact hp
  | fail e => trivial

theorem Prog.quietly_lockRow (key : K) (read : D → Option α) :
    (Prog.lockRow key read : Prog D W K E R (Option α)).Quietly A := by
  refine ⟨fun _ => rfl, fun d => ?_⟩
  show (match read d with
    | none => Prog.pure none
    | some _ => .lock key (.stmt (fun _ => []) fun d => .pure (read d)) : Prog D W K E R (Option α)).Quietly A
  cases read d with
  | none => trivial
  | some value => exact ⟨fun _ => rfl, fun _ => trivial⟩

theorem Prog.quietly_query (f : D → α) : (Prog.query f : Prog D W K E R α).Quietly A :=
  ⟨fun _ => rfl, fun _ => trivial⟩

theorem Prog.quietly_ofExcept (x : Except E α) : (Prog.ofExcept x : Prog D W K E R α).Quietly A := by
  cases x <;> trivial

/-- The end of a transaction that has written nothing. -/
theorem Prog.wp_quietly (hq : Quiet G Post A) {p : Prog D W K E R Empty} (hp : p.Quietly A) {d : D} (hd : G.Inv d) :
    p.wp G Post NoValue held [] d := by
  induction p generalizing held d with
  | pure a => exact a.elim
  | stmt writes next ih =>
    intro d' hl
    rw [hp.1]
    exact ih _ (hp.2 _) (hl.inv hd)
  | lock key next ih => exact fun d' hl => ih hp (hl.inv hd)
  | commit r =>
    intro d' hl
    obtain ⟨hpost, hchange⟩ := hq.result held d' r (hl.inv hd) hp
    exact ⟨hpost, hl.inv hd, hchange⟩
  | fail e => exact fun d' hl => hq.error d' e (hl.inv hd)

/-! ## Chains of finished transactions -/

/-- The finished transactions lead from one database to another, each starting where the one before ended. -/
def Chained (d : D) : List (Finished D E R C) → D → Prop
  | [], d' => d = d'
  | finished :: rest, d' => finished.before = d ∧ Chained finished.after rest d'

variable {history : List (Finished D E R C)}

theorem Chained.append {d d' : D} (h : Chained d history d')
    {finished : Finished D E R C} (hbefore : finished.before = d') :
    Chained d (history ++ [finished]) finished.after := by
  induction history generalizing d with
  | nil =>
    have hd : d = d' := h
    exact ⟨hbefore.trans hd.symm, rfl⟩
  | cons first rest ih => exact ⟨h.1, ih h.2⟩

/-- **Runs are chains** when only transactions change the database. -/
theorem Reachable.chained {Start : D → C → Prog D W K E R Empty → Prop} {Env : D → D → Prop}
    (henv : ∀ d d', ¬ Env d d') {d₀ : D} {s : System D W K E R C} (h : Reachable Start Env d₀ s) :
    Chained d₀ s.history s.db := by
  induction h with
  | idle => exact rfl
  | step _ hstep ih =>
    cases hstep with
    | «begin» _ _ => exact ih
    | stmt _ _ => exact ih
    | lock _ _ _ => exact ih
    | commit _ _ => exact ih.append rfl
    | fail _ _ => exact ih.append rfl
    | lost _ => exact ih
    | env he => exact absurd he (henv _ _)

/-- A property that every finished transaction carries over holds at every point of the chain. -/
theorem Chained.invariant {P : D → Prop} {d d' : D}
    (h : Chained d history d') (hd : P d) (hstep : ∀ finished ∈ history, P finished.before → P finished.after) :
    (∀ finished ∈ history, P finished.before ∧ P finished.after) ∧ P d' := by
  induction history generalizing d with
  | nil =>
    have hd' : d = d' := h
    exact ⟨by simp, hd' ▸ hd⟩
  | cons first rest ih =>
    obtain ⟨hbefore, hrest⟩ := h
    have hfirst : P first.before := hbefore ▸ hd
    have hafter := hstep first List.mem_cons_self hfirst
    obtain ⟨hall, hlast⟩ := ih hrest hafter fun finished hmem => hstep finished (.tail _ hmem)
    refine ⟨?_, hlast⟩
    intro finished hmem
    rcases List.mem_cons.mp hmem with rfl | hmem
    · exact ⟨hfirst, hafter⟩
    · exact hall finished hmem

end

end Txn
