import Immortal.Txn.Program

/-!
# `Immortal.Txn.System` — many transactions at once, and a rule for what they keep

Any number of transactions run interleaved, one statement at a time, over one committed database. A statement
sees every earlier commit and its own transaction's writes; an advisory lock is granted only while no other
transaction holds it and is given up when its transaction ends; a commit applies the whole write log at once.
A transaction may also be lost at any point (a dropped connection, a deadlock victim), which leaves no trace.

The second half is the proof rule. A `Discipline` says what every committed state satisfies (`Inv`), what a
commit by a transaction that holds a given set of locks may change (`Change`) and what may change without any
lock (`Env`). Seen from one transaction, the others can only do what is allowed to holders of *other* locks:
that is `Interference`. `Prog.wp` runs a program against arbitrary interference between its statements, and
`Discipline.sound` is the rule: if every program that may start meets its `wp`, then every reachable system
keeps the invariant and every finished transaction meets its postcondition.
-/

namespace Txn

/-! ## The interleaved semantics -/

section
variable {D W K E R C : Type}

/-- A transaction in flight: what it still has to do, the locks it holds and its uncommitted writes. `start` is
    the committed database at the moment it began. -/
structure Running (D W K E R C : Type) where
  call : C
  start : D
  prog : Prog D W K E R Empty
  held : List K
  log : List W

/-- A transaction that ended with a result: the committed database right before and right after its end. -/
structure Finished (D E R C : Type) where
  call : C
  start : D
  before : D
  after : D
  result : Except E R

structure System (D W K E R C : Type) where
  db : D
  txs : Nat → Option (Running D W K E R C)
  history : List (Finished D E R C)

namespace System

/-- Nothing running, nothing finished. -/
def idle (d : D) : System D W K E R C := ⟨d, fun _ => none, []⟩

/-- Replace transaction `n`. -/
def setTx (s : System D W K E R C) (n : Nat) (t : Option (Running D W K E R C)) : System D W K E R C :=
  { s with txs := Function.update s.txs n t }

/-- Transaction `n` ends, leaving the database `after`. -/
def finish (s : System D W K E R C) (n : Nat) (t : Running D W K E R C) (after : D) (result : Except E R) :
    System D W K E R C :=
  { db := after
    txs := Function.update s.txs n none
    history := s.history ++ [⟨t.call, t.start, s.db, after, result⟩] }

/-- No transaction other than `n` holds `key`. -/
def Free (s : System D W K E R C) (n : Nat) (key : K) : Prop :=
  ∀ m t, m ≠ n → s.txs m = some t → key ∉ t.held

end System

/-- One step of the system. `Start d c p` says that call `c` may begin with program `p` while `d` is committed;
    `Env d d'` is a change that happens outside every transaction. -/
inductive Step [Database D W] (Start : D → C → Prog D W K E R Empty → Prop) (Env : D → D → Prop) :
    System D W K E R C → System D W K E R C → Prop where
  | begin {s n c p} : s.txs n = none → Start s.db c p →
      Step Start Env s (s.setTx n (some ⟨c, s.db, p, [], []⟩))
  | stmt {s n t writes next} : s.txs n = some t → t.prog = .stmt writes next →
      Step Start Env s (s.setTx n (some { t with
        prog := next (overlay t.log s.db), log := t.log ++ writes (overlay t.log s.db) }))
  | lock {s n t key next} : s.txs n = some t → t.prog = .lock key next → s.Free n key →
      Step Start Env s (s.setTx n (some { t with prog := next, held := key :: t.held }))
  | commit {s n t r} : s.txs n = some t → t.prog = .commit r →
      Step Start Env s (s.finish n t (overlay t.log s.db) (.ok r))
  | fail {s n t e} : s.txs n = some t → t.prog = .fail e →
      Step Start Env s (s.finish n t s.db (.error e))
  | lost {s n t} : s.txs n = some t → Step Start Env s (s.setTx n none)
  | env {s d'} : Env s.db d' → Step Start Env s { s with db := d' }

/-- The systems some run reaches from the idle system over `d₀`. -/
inductive Reachable [Database D W] (Start : D → C → Prog D W K E R Empty → Prop) (Env : D → D → Prop) (d₀ : D) :
    System D W K E R C → Prop where
  | idle : Reachable Start Env d₀ (System.idle d₀)
  | step {s s'} : Reachable Start Env d₀ s → Step Start Env s s' → Reachable Start Env d₀ s'

end

/-! ## A transaction alone is a run of the system -/

section
variable {D W K E R C : Type} [Database D W] {Start : D → C → Prog D W K E R Empty → Prop} {Env : D → D → Prop}

/-- A system in which only transaction `0` runs. -/
def System.only (s : System D W K E R C) (t : Running D W K E R C) : System D W K E R C :=
  { s with txs := Function.update (fun _ => none) 0 (some t) }

variable {s : System D W K E R C}

theorem Reachable.eval {d₀ : D} (p : Prog D W K E R Empty) :
    ∀ t : Running D W K E R C, t.prog = p → Reachable Start Env d₀ (s.only t) →
      ∃ s' ended, Reachable Start Env d₀ s' ∧ (∀ n, s'.txs n = none) ∧ p.eval t.log s.db = .inr ended ∧
        s'.db = ended.2 ∧ s'.history = s.history ++ [⟨t.call, t.start, s.db, ended.2, ended.1⟩] := by
  have htx : ∀ t, (s.only t).txs 0 = some t := fun t => by simp [System.only]
  have hset : ∀ t t', (s.only t).setTx 0 (some t') = s.only t' := fun t t' => by simp [System.only, System.setTx]
  have hidle : ∀ t d r n, ((s.only t).finish 0 t d r).txs n = none := by
    intro t d r n
    by_cases hn : n = 0 <;> simp [System.only, System.finish]
  induction p with
  | pure a => exact a.elim
  | stmt writes next ih =>
    intro t ht hr
    have hstep := Reachable.step hr (Step.stmt (htx t) ht)
    rw [hset] at hstep
    exact ih _ _ rfl hstep
  | lock key next ih =>
    intro t ht hr
    have hfree : (s.only t).Free 0 key := by
      intro m u hm hu
      simp [System.only, hm] at hu
    have hstep := Reachable.step hr (Step.lock (htx t) ht hfree)
    rw [hset] at hstep
    exact ih { t with prog := next, held := key :: t.held } rfl hstep
  | commit r =>
    intro t ht hr
    exact ⟨_, (.ok r, overlay t.log s.db), .step hr (Step.commit (htx t) ht), hidle t _ _, rfl, rfl, rfl⟩
  | fail e =>
    intro t ht hr
    exact ⟨_, (.error e, s.db), .step hr (Step.fail (htx t) ht), hidle t _ _, rfl, rfl, rfl⟩

/-- **A transaction alone.** From an idle reachable system, a call that may start has a run that ends with the
    outcome and the database that `Prog.run` computes, and nothing else finishes on the way. -/
theorem Reachable.runs {d₀ : D} (h : Reachable Start Env d₀ s) (hidle : ∀ n, s.txs n = none) {c : C}
    {p : Prog D W K E R Empty} (hp : Start s.db c p) :
    ∃ s', Reachable Start Env d₀ s' ∧ (∀ n, s'.txs n = none) ∧ s'.db = (p.run s.db).2 ∧
      s'.history = s.history ++ [⟨c, s.db, s.db, (p.run s.db).2, (p.run s.db).1⟩] := by
  have hbegin := Reachable.step h (Step.begin (hidle 0) hp)
  have honly : s.setTx 0 (some ⟨c, s.db, p, [], []⟩) = s.only ⟨c, s.db, p, [], []⟩ := by
    have htxs : s.txs = fun _ => none := funext hidle
    simp [System.setTx, System.only, htxs]
  rw [honly] at hbegin
  obtain ⟨s', ended, hr, hidle', heval, hdb, hhistory⟩ := Reachable.eval p _ rfl hbegin
  have hrun : p.run s.db = ended := by
    have heval' : p.eval [] s.db = .inr ended := heval
    rw [Prog.run, heval']
  rw [hrun]
  exact ⟨s', hr, hidle', hdb, hhistory⟩

theorem Reachable.alone (Env : D → D → Prop) {d : D} {c : C} {p : Prog D W K E R Empty} (hp : Start d c p) :
    ∃ s : System D W K E R C, Reachable Start Env d s ∧ s.db = (p.run d).2 := by
  obtain ⟨s, hr, -, hdb, -⟩ := Reachable.runs (.idle : Reachable Start Env d _) (fun _ => rfl) hp
  exact ⟨s, hr, hdb⟩

end

/-! ## Disciplines and interference -/

/-- What holds of every committed state, and what each kind of change may do to it. -/
structure Discipline (D K : Type) where
  Inv : D → Prop
  /-- A commit by a transaction that holds these locks. -/
  Change : List K → D → D → Prop
  /-- A change outside every transaction. -/
  Env : D → D → Prop

namespace Discipline
variable {D W K E R C α β : Type} (G : Discipline D K)

/-- What can happen to the database while a transaction holds `held` and does nothing itself. -/
def Interference (held : List K) (d d' : D) : Prop :=
  G.Inv d' ∧ (G.Env d d' ∨ ∃ other, (∀ k ∈ held, k ∉ other) ∧ G.Change other d d')

/-- Any amount of interference. -/
def Later (held : List K) : D → D → Prop := Relation.ReflTransGen (G.Interference held)

variable {G}

variable {d d' : D} {held : List K}

theorem Later.refl : G.Later held d d := Relation.ReflTransGen.refl

theorem Later.head {d'' : D} (h : G.Interference held d d') (h' : G.Later held d' d'') :
    G.Later held d d'' := Relation.ReflTransGen.head h h'

theorem Later.trans {d'' : D} (h : G.Later held d d') (h' : G.Later held d' d'') :
    G.Later held d d'' := Relation.ReflTransGen.trans h h'

theorem Later.inv (hd : G.Inv d) (h : G.Later held d d') : G.Inv d' := by
  induction h with
  | refl => exact hd
  | tail _ hstep _ => exact hstep.1

/-- Holding more locks leaves less room for interference. -/
theorem Later.mono {held' : List K} (hsub : ∀ k ∈ held, k ∈ held') (h : G.Later held' d d') : G.Later held d d' := by
  have hstep : ∀ a b, G.Interference held' a b → G.Interference held a b := by
    rintro a b ⟨hb, henv | ⟨other, hdis, hch⟩⟩
    · exact ⟨hb, .inl henv⟩
    · exact ⟨hb, .inr ⟨other, fun k hk => hdis k (hsub k hk), hch⟩⟩
  exact Relation.ReflTransGen.mono hstep _ _ h

/-- **Stability.** A property that no single interference step destroys survives any amount of interference. -/
theorem Later.stable {P : D → Prop} (hstep : ∀ a b, G.Inv a → G.Interference held a b → P a → P b) (hd : G.Inv d)
    (h : G.Later held d d') (hp : P d) : P d' := by
  induction h with
  | refl => exact hp
  | tail hpre hlast ih => exact hstep _ _ (Later.inv hd hpre) hlast ih

end Discipline

/-! ## Weakest preconditions under interference -/

section
variable {D W K E R C α β : Type} [Database D W]

/-- The assertion before a program: whatever others do between its statements, a value handed on satisfies
    `Q`, an end of the transaction satisfies `Post`, and a commit respects the discipline. -/
def Prog.wp (G : Discipline D K) (Post : Except E R → D → D → Prop) :
    Prog D W K E R α → (α → List K → List W → D → Prop) → List K → List W → D → Prop
  | .pure a, Q, held, log, d => Q a held log d
  | .stmt writes next, Q, held, log, d => ∀ d', G.Later held d d' →
      (next (overlay log d')).wp G Post Q held (log ++ writes (overlay log d')) d'
  | .lock key next, Q, held, log, d => ∀ d', G.Later held d d' → next.wp G Post Q (key :: held) log d'
  | .commit r, _, held, log, d => ∀ d', G.Later held d d' →
      Post (.ok r) d' (overlay log d') ∧ G.Inv (overlay log d') ∧ G.Change held d' (overlay log d')
  | .fail e, _, held, _, d => ∀ d', G.Later held d d' → Post (.error e) d' d'

variable {G : Discipline D K} {Post : Except E R → D → D → Prop}

/-- A whole program hands on no value. -/
def NoValue (value : Empty) (_ : List K) (_ : List W) (_ : D) : Prop := value.elim

theorem Prog.wp_bind (p : Prog D W K E R α) (f : α → Prog D W K E R β)
    (Q : β → List K → List W → D → Prop) (held : List K) (log : List W) (d : D) :
    (p >>= f).wp G Post Q held log d ↔
      p.wp G Post (fun a held log d => (f a).wp G Post Q held log d) held log d := by
  induction p generalizing held log d with
  | pure a => exact Iff.rfl
  | stmt writes next ih => exact forall_congr' fun d' => imp_congr_right fun _ => ih _ _ _ _
  | lock key next ih => exact forall_congr' fun d' => imp_congr_right fun _ => ih _ _ _
  | commit r => exact Iff.rfl
  | fail e => exact Iff.rfl

variable {d : D} {held : List K} {log : List W} {p : Prog D W K E R α} {Q : α → List K → List W → D → Prop}

/-- A weaker postcondition. -/
theorem Prog.wp_post_mono {Post' : Except E R → D → D → Prop}
    (hpost : ∀ r before after, Post r before after → Post' r before after) (h : p.wp G Post Q held log d) :
    p.wp G Post' Q held log d := by
  induction p generalizing held log d with
  | pure a => exact h
  | stmt writes next ih => exact fun d' hl => ih _ (h d' hl)
  | lock key next ih => exact fun d' hl => ih (h d' hl)
  | commit r => exact fun d' hl => ⟨hpost _ _ _ (h d' hl).1, (h d' hl).2⟩
  | fail e => exact fun d' hl => hpost _ _ _ (h d' hl)

/-- Interference before the next statement is already accounted for in the assertion of a whole program. -/
theorem Prog.wp_later {p : Prog D W K E R Empty} {d' : D} (h : p.wp G Post NoValue held log d)
    (hl : G.Later held d d') : p.wp G Post NoValue held log d' := by
  cases p with
  | pure a => exact a.elim
  | stmt writes next => exact fun d'' hl' => h d'' (hl.trans hl')
  | lock key next => exact fun d'' hl' => h d'' (hl.trans hl')
  | commit r => exact fun d'' hl' => h d'' (hl.trans hl')
  | fail e => exact fun d'' hl' => h d'' (hl.trans hl')

theorem Prog.wp_acquireAll {keys : List K} {Q : Unit → List K → List W → D → Prop}
    (h : ∀ d', G.Later held d d' → Q () (keys.reverse ++ held) log d') :
    (Prog.acquireAll keys : Prog D W K E R Unit).wp G Post Q held log d := by
  induction keys generalizing held d with
  | nil => exact h d .refl
  | cons key keys ih =>
    intro d' hl
    refine ih fun d'' hl' => ?_
    have hl'' : G.Later held d d'' := hl.trans (hl'.mono fun k hk => List.mem_cons_of_mem key hk)
    simpa using h d'' hl''

theorem Prog.wp_query {f : D → α} (h : ∀ d', G.Later held d d' → Q (f d') held [] d') :
    (Prog.query f : Prog D W K E R α).wp G Post Q held [] d := by
  intro d' hl
  simpa [Prog.wp] using h d' hl

theorem Prog.wp_exec {writes : D → List W} {f : D → α}
    (h : ∀ d', G.Later held d d' → Q (f (overlay log d')) held (log ++ writes (overlay log d')) d') :
    (Prog.exec writes f : Prog D W K E R α).wp G Post Q held log d := h

theorem Prog.wp_acquire {key : K} {Q : Unit → List K → List W → D → Prop}
    (h : ∀ d', G.Later held d d' → Q () (key :: held) log d') :
    (Prog.acquire key : Prog D W K E R Unit).wp G Post Q held log d := h

theorem Prog.wp_execUnless {refused : D → Bool} {error : E} {writes : D → List W}
    {Q : Unit → List K → List W → D → Prop} (herr : ∀ d', G.Later held d d' → Post (.error error) d' d')
    (h : ∀ d', G.Later held d d' → refused (overlay log d') = false → Q () held (log ++ writes (overlay log d')) d') :
    (Prog.execUnless refused error writes : Prog D W K E R Unit).wp G Post Q held log d := by
  intro d' hl
  cases hr : refused (overlay log d') with
  | true =>
    simp only [hr]
    exact fun d'' hl' => herr d'' (hl.trans hl')
  | false =>
    simp only [hr]
    exact h d' hl hr

/-- Ending a transaction that wrote nothing is always allowed, with a result in `A` or an error. -/
structure Quiet (G : Discipline D K) (Post : Except E R → D → D → Prop) (A : R → Prop) : Prop where
  result : ∀ held d r, G.Inv d → A r → Post (.ok r) d d ∧ G.Change held d d
  error : ∀ d e, G.Inv d → Post (.error e) d d

/-- A piece that only reads, at the front of a transaction: only the value it hands on matters. -/
theorem Prog.wp_readOnly {A : R → Prop} (hq : Quiet G Post A) (hp : p.ReadOnly A) (hd : G.Inv d)
    (h : ∀ a d', G.Later held d d' → Q a held [] d') : p.wp G Post Q held [] d := by
  induction p generalizing d with
  | pure a => exact h a d .refl
  | stmt writes next ih =>
    intro d' hl
    rw [hp.1]
    exact ih _ (hp.2 _) (hl.inv hd) fun a d'' hl' => h a d'' (hl.trans hl')
  | lock key next _ => exact hp.elim
  | commit r =>
    intro d' hl
    obtain ⟨hpost, hch⟩ := hq.result held d' r (hl.inv hd) hp
    exact ⟨hpost, hl.inv hd, hch⟩
  | fail e => exact fun d' hl => hq.error d' e (hl.inv hd)

/-- A piece whose writes all satisfy `P`, when such writes can be committed under any locks with any result. -/
theorem Prog.wp_only {P : W → Prop} (hp : p.Only P) (hcommit : ∀ held log d r, G.Inv d → (∀ w ∈ log, P w) →
      Post (.ok r) d (overlay log d) ∧ G.Inv (overlay log d) ∧ G.Change held d (overlay log d))
    (herror : ∀ d e, G.Inv d → Post (.error e) d d) (hQ : ∀ a held log d, Q a held log d) (hd : G.Inv d)
    (hlog : ∀ w ∈ log, P w) : p.wp G Post Q held log d := by
  induction p generalizing held log d with
  | pure a => exact hQ _ _ _ _
  | stmt writes next ih =>
    intro d' hl
    exact ih _ (hp.2 _) (hl.inv hd) (List.forall_mem_append.mpr ⟨hlog, hp.1 _⟩)
  | lock key next ih => exact fun d' hl => ih hp (hl.inv hd) hlog
  | commit r => exact fun d' hl => hcommit held log d' r (hl.inv hd) hlog
  | fail e => exact fun d' hl => herror d' e (hl.inv hd)

/-- A piece that runs alone meets its assertion: its value satisfies `Q`. -/
theorem Prog.wp_eval_value {log' : List W} {a : α} (h : p.wp G Post Q held log d) (he : p.eval log d = .inl (a, log')) :
    ∃ held', Q a held' log' d := by
  induction p generalizing held log with
  | pure b =>
    obtain ⟨rfl, rfl⟩ := he
    exact ⟨held, h⟩
  | stmt writes next ih => exact ih _ (h d .refl) he
  | lock key next ih => exact ih (h d .refl) he
  | commit r => simp at he
  | fail e => simp at he

/-! ## Soundness of the rule -/

/-- The assertion that every reachable system keeps. -/
structure Sound (G : Discipline D K) (Post : C → D → Except E R → D → D → Prop)
    (Settled : Finished D E R C → D → Prop) (s : System D W K E R C) : Prop where
  inv : G.Inv s.db
  active : ∀ n t, s.txs n = some t → t.prog.wp G (Post t.call t.start) NoValue t.held t.log s.db
  exclusive : ∀ n m t t', n ≠ m → s.txs n = some t → s.txs m = some t' → ∀ k ∈ t.held, k ∉ t'.held
  done : ∀ h ∈ s.history, Post h.call h.start h.result h.before h.after
  settled : ∀ h ∈ s.history, Settled h s.db
  ordered : s.history.Pairwise (fun older newer => Settled older newer.before)

variable {PostC : C → D → Except E R → D → D → Prop} {Settled : Finished D E R C → D → Prop}
variable {Start : D → C → Prog D W K E R Empty → Prop}

/-- What the rule asks of a development: programs that may start meet their `wp`, unlocked changes keep the
    invariant, and a settled fact is established by its own transaction and destroyed by nothing. -/
structure Verified (G : Discipline D K) (Start : D → C → Prog D W K E R Empty → Prop)
    (Post : C → D → Except E R → D → D → Prop) (Settled : Finished D E R C → D → Prop) : Prop where
  start : ∀ d c p, G.Inv d → Start d c p → p.wp G (Post c d) NoValue [] [] d
  env : ∀ d d', G.Inv d → G.Env d d' → G.Inv d'
  settle : ∀ h, Post h.call h.start h.result h.before h.after → Settled h h.after
  keep : ∀ h d d', G.Inv d → G.Interference [] d d' → Settled h d → Settled h d'

namespace Sound

variable {s s' : System D W K E R C} (hv : Verified G Start PostC Settled) (hs : Sound G PostC Settled s)
include hs

/-- A step that leaves the database and the history alone and gives transaction `n` a new state. -/
theorem setTx {n : Nat} {t : Option (Running D W K E R C)}
    (hwp : ∀ t', t = some t' → t'.prog.wp G (PostC t'.call t'.start) NoValue t'.held t'.log s.db)
    (hheld : ∀ t', t = some t' → ∀ m u, m ≠ n → s.txs m = some u → ∀ k ∈ t'.held, k ∉ u.held) :
    Sound G PostC Settled (s.setTx n t) := by
  refine ⟨hs.inv, ?_, ?_, hs.done, hs.settled, hs.ordered⟩
  · intro m u hu
    by_cases hm : m = n
    · subst hm
      exact hwp u (by simpa [System.setTx] using hu)
    · exact hs.active m u (by simpa [System.setTx, hm] using hu)
  · intro m m' u u' hne hu hu' k hk
    by_cases hm : m = n
    · subst hm
      have hm' : m' ≠ m := fun h => hne h.symm
      exact hheld u (by simpa [System.setTx] using hu) m' u' hm' (by simpa [System.setTx, hm'] using hu') k hk
    · by_cases hm' : m' = n
      · subst hm'
        intro hk'
        exact hheld u' (by simpa [System.setTx] using hu') m u hm (by simpa [System.setTx, hm] using hu) k hk' hk
      · exact hs.exclusive m m' u u' hne (by simpa [System.setTx, hm] using hu)
          (by simpa [System.setTx, hm'] using hu') k hk

include hv

/-- The end of transaction `n`: every other transaction sees its commit as interference. -/
theorem finish {n : Nat} {t : Running D W K E R C} (ht : s.txs n = some t) {after : D} {r : Except E R}
    (hinv : G.Inv after)
    (hch : after = s.db ∨ G.Change t.held s.db after) (hpost : PostC t.call t.start r s.db after) :
    Sound G PostC Settled (s.finish n t after r) := by
  have hkeep : ∀ h, Settled h s.db → Settled h after := by
    intro h hset
    rcases hch with rfl | hch
    · exact hset
    · exact hv.keep h _ _ hs.inv ⟨hinv, .inr ⟨t.held, by simp, hch⟩⟩ hset
  refine ⟨hinv, ?_, ?_, ?_, ?_, ?_⟩
  · intro m u hu
    have hm : m ≠ n := by
      rintro rfl
      simp [System.finish] at hu
    have hum : s.txs m = some u := by simpa [System.finish, hm] using hu
    refine Prog.wp_later (hs.active m u hum) ?_
    rcases hch with rfl | hch
    · exact .refl
    · exact Discipline.Later.head ⟨hinv, .inr ⟨t.held, hs.exclusive m n u t hm hum ht, hch⟩⟩ .refl
  · intro m m' u u' hne hu hu'
    have hm : m ≠ n := by
      rintro rfl
      simp [System.finish] at hu
    have hm' : m' ≠ n := by
      rintro rfl
      simp [System.finish] at hu'
    exact hs.exclusive m m' u u' hne (by simpa [System.finish, hm] using hu) (by simpa [System.finish, hm'] using hu')
  · exact List.forall_mem_append.mpr ⟨hs.done, List.forall_mem_singleton.mpr hpost⟩
  · exact List.forall_mem_append.mpr
      ⟨fun h hh => hkeep h (hs.settled h hh), List.forall_mem_singleton.mpr (hv.settle _ hpost)⟩
  · refine List.pairwise_append.mpr ⟨hs.ordered, List.pairwise_singleton _ _, ?_⟩
    intro h hh h' hh'
    rw [List.mem_singleton] at hh'
    subst hh'
    exact hs.settled h hh

/-- **One step of the system keeps the assertion.** -/
theorem step (h : Step Start G.Env s s') : Sound G PostC Settled s' := by
  cases h with
  | @begin n c p hn hstart =>
    refine hs.setTx ?_ ?_
    · rintro _ ⟨⟩; exact hv.start _ _ _ hs.inv hstart
    · rintro _ ⟨⟩; simp
  | @stmt n t writes next ht hp =>
    refine hs.setTx ?_ ?_
    · rintro _ ⟨⟩
      have hwp := hs.active n t ht
      rw [hp] at hwp
      exact hwp s.db .refl
    · rintro _ ⟨⟩ m u hm hu
      exact hs.exclusive n m t u (Ne.symm hm) ht hu
  | @lock n t key next ht hp hfree =>
    refine hs.setTx ?_ ?_
    · rintro _ ⟨⟩
      have hwp := hs.active n t ht
      rw [hp] at hwp
      exact hwp s.db .refl
    · rintro _ ⟨⟩ m u hm hu k hk
      rcases List.mem_cons.mp hk with rfl | hk
      · exact hfree m u hm hu
      · exact hs.exclusive n m t u (Ne.symm hm) ht hu k hk
  | @commit n t r ht hp =>
    have hwp := hs.active n t ht
    rw [hp] at hwp
    obtain ⟨hpost, hinv, hch⟩ := hwp s.db .refl
    exact hs.finish hv ht hinv (.inr hch) hpost
  | @fail n t e ht hp =>
    have hwp := hs.active n t ht
    rw [hp] at hwp
    exact hs.finish hv ht hs.inv (.inl rfl) (hwp s.db .refl)
  | @lost n t ht => exact hs.setTx (by simp) (by simp)
  | @env d' he =>
    have hinv : G.Inv d' := hv.env _ _ hs.inv he
    have hi : ∀ held, G.Interference held s.db d' := fun held => ⟨hinv, .inl he⟩
    refine ⟨hinv, ?_, hs.exclusive, hs.done, ?_, hs.ordered⟩
    · exact fun n t ht => Prog.wp_later (hs.active n t ht) (.head (hi _) .refl)
    · exact fun h hh => hv.keep h _ _ hs.inv (hi []) (hs.settled h hh)

/-- What one step does to the committed database is interference for a transaction without locks. -/
theorem step_db (h : Step Start G.Env s s') : s'.db = s.db ∨ G.Interference [] s.db s'.db := by
  have hinv : G.Inv s'.db := (hs.step hv h).inv
  cases h with
  | «begin» _ _ => exact .inl rfl
  | stmt _ _ => exact .inl rfl
  | lock _ _ _ => exact .inl rfl
  | @commit n t r ht hp =>
    have hwp := hs.active n t ht
    rw [hp] at hwp
    exact .inr ⟨hinv, .inr ⟨t.held, by simp, (hwp s.db .refl).2.2⟩⟩
  | fail _ _ => exact .inl rfl
  | lost _ => exact .inl rfl
  | env he => exact .inr ⟨hinv, .inl he⟩

/-- **Stability along runs.** A property of committed states that no interference destroys, once true, stays
    true in every continuation of the run. -/
theorem stable {P : D → Prop} (hP : ∀ d d', G.Inv d → G.Interference [] d d' → P d → P d')
    (h : Relation.ReflTransGen (Step Start G.Env) s s') (hp : P s.db) : P s'.db := by
  have hboth : Sound G PostC Settled s' ∧ P s'.db := by
    induction h with
    | refl => exact ⟨hs, hp⟩
    | tail _ hstep ih =>
      obtain ⟨hmid, hpmid⟩ := ih
      refine ⟨hmid.step hv hstep, ?_⟩
      rcases hmid.step_db hv hstep with heq | hi
      · rw [heq]; exact hpmid
      · exact hP _ _ hmid.inv hi hpmid
  exact hboth.2

omit hs in
/-- **The rule.** In every reachable system the invariant holds of the committed database, and every
    transaction that has ended met its postcondition. -/
theorem reachable {d₀ : D} (h₀ : G.Inv d₀) (h : Reachable Start G.Env d₀ s) :
    Sound G PostC Settled s := by
  induction h with
  | idle =>
    exact ⟨h₀, by simp [System.idle], by simp [System.idle], by simp [System.idle], by simp [System.idle],
      by simp [System.idle]⟩
  | step _ hstep ih => exact ih.step hv hstep

end Sound

end

end Txn
