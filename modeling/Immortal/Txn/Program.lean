import Mathlib

/-!
# `Immortal.Txn.Program` — database transactions as programs

A transaction is a sequence of statements over a database, with advisory locks taken on the way and either a
commit or an error at the end. This module gives such transactions a syntax (`Prog`, a monad) and their
meaning when nothing else runs (`Prog.eval`, `Prog.run`). What they mean when many of them run at once is in
`Immortal.Txn.System`.

A statement sees the committed database with the transaction's own earlier writes on top of it (`overlay`),
may add row writes to the transaction's log, and decides how the program goes on. Nothing is visible to anyone
else before `commit`, which applies the whole log at once; an error drops it.

Nothing here names a particular schema: `D` is any type of database states, `W` any type of row writes, `K`
any type of lock identifiers.
-/

namespace Txn

/-- Database states with the effect of one row write. -/
class Database (D : Type) (W : outParam Type) where
  write : D → W → D

section
variable {D W K E R α β γ : Type}

/-- The database as a transaction with write log `log` sees it over the committed state. -/
def overlay [Database D W] (log : List W) (committed : D) : D :=
  log.foldl Database.write committed

@[simp] theorem overlay_nil [Database D W] (d : D) : overlay ([] : List W) d = d := rfl

@[simp] theorem overlay_append [Database D W] (log log' : List W) (d : D) :
    overlay (log ++ log') d = overlay log' (overlay log d) := by
  simp [overlay]

theorem overlay_cons [Database D W] (w : W) (log : List W) (d : D) :
    overlay (w :: log) d = overlay log (Database.write d w) := rfl

/-- The keys of a table stay distinct when a row with a new key is appended. -/
theorem nodup_keys_concat {key : α → β} {rows : List α} {row : α} (h : (rows.map key).Nodup)
    (hnew : ∀ other ∈ rows, key other ≠ key row) : ((rows ++ [row]).map key).Nodup := by
  rw [List.map_append, List.nodup_append]
  simpa using ⟨h, hnew⟩

/-- A transaction program that ends with a result of type `R` or an error of type `E`. The value `α` is what a
    piece of the program hands to the next piece. -/
inductive Prog (D W K E R : Type) (α : Type) where
  | pure (value : α)
  | stmt (writes : D → List W) (next : D → Prog D W K E R α)
  | lock (key : K) (next : Prog D W K E R α)
  | commit (result : R)
  | fail (error : E)

namespace Prog

def bind : Prog D W K E R α → (α → Prog D W K E R β) → Prog D W K E R β
  | .pure value, f => f value
  | .stmt writes next, f => .stmt writes (fun d => (next d).bind f)
  | .lock key next, f => .lock key (next.bind f)
  | .commit result, _ => .commit result
  | .fail error, _ => .fail error

instance : Monad (Prog D W K E R) where
  pure := Prog.pure
  bind := Prog.bind

variable (a : α)

@[simp] theorem pure_bind_eq (f : α → Prog D W K E R β) :
    (Pure.pure a : Prog D W K E R α) >>= f = f a := rfl

@[simp] theorem stmt_bind (w : D → List W) (next : D → Prog D W K E R α) (f : α → Prog D W K E R β) :
    (Prog.stmt w next) >>= f = .stmt w (fun d => next d >>= f) := rfl

@[simp] theorem lock_bind (key : K) (next : Prog D W K E R α) (f : α → Prog D W K E R β) :
    (Prog.lock key next) >>= f = .lock key (next >>= f) := rfl

@[simp] theorem commit_bind (r : R) (f : α → Prog D W K E R β) :
    (Prog.commit r : Prog D W K E R α) >>= f = .commit r := rfl

/-! ## Statements -/

/-- A statement that only reads. -/
def query (f : D → α) : Prog D W K E R α := .stmt (fun _ => []) (fun d => .pure (f d))

/-- A statement that writes and answers with a value, both computed from what it sees. -/
def exec (writes : D → List W) (f : D → α) : Prog D W K E R α := .stmt writes (fun d => .pure (f d))

/-- A statement that a constraint of the schema may refuse: it then fails and nothing is written. -/
def execUnless (refused : D → Bool) (error : E) (writes : D → List W) : Prog D W K E R Unit :=
  .stmt (fun d => if refused d then [] else writes d) (fun d => if refused d then .fail error else .pure ())

/-- Wait for an advisory lock and hold it to the end of the transaction. -/
def acquire (key : K) : Prog D W K E R Unit := .lock key (.pure ())

/-- Take the locks of a list one after the other. -/
def acquireAll : List K → Prog D W K E R Unit
  | [] => .pure ()
  | key :: keys => .lock key (acquireAll keys)

/-- A fallible pure computation in the middle of a transaction. -/
def ofExcept : Except E α → Prog D W K E R α
  | .ok a => .pure a
  | .error e => .fail e

@[simp] theorem ofExcept_ok_bind (f : α → Prog D W K E R β) :
    (ofExcept (.ok a) : Prog D W K E R α) >>= f = f a := rfl

/-! ## Pieces that only read -/

/-- The piece writes nothing and takes no lock; where it ends the transaction, the result satisfies `A`. -/
def ReadOnly (A : R → Prop) : Prog D W K E R α → Prop
  | .pure _ => True
  | .stmt writes next => (∀ d, writes d = []) ∧ ∀ d, (next d).ReadOnly A
  | .lock _ _ => False
  | .commit result => A result
  | .fail _ => True

variable {p : Prog D W K E R α} {A : R → Prop} {P : W → Prop} {f : α → Prog D W K E R β}

theorem ReadOnly.bind (hp : p.ReadOnly A) (hf : ∀ a, (f a).ReadOnly A) : (p >>= f).ReadOnly A := by
  induction p with
  | pure a => exact hf a
  | stmt writes next ih => exact ⟨hp.1, fun d => ih d (hp.2 d)⟩
  | lock key next _ => exact hp.elim
  | commit r => exact hp
  | fail e => trivial

theorem readOnly_pure : (Pure.pure a : Prog D W K E R α).ReadOnly A := trivial

theorem readOnly_query (f : D → α) : (query f : Prog D W K E R α).ReadOnly A :=
  ⟨fun _ => rfl, fun _ => trivial⟩

theorem readOnly_ofExcept (x : Except E α) : (ofExcept x : Prog D W K E R α).ReadOnly A := by
  cases x <;> trivial

/-- The piece writes nothing, takes no lock, and sees the database through `view` only. -/
def Through {V : Type} (view : D → V) : Prog D W K E R α → Prop
  | .pure _ => True
  | .stmt writes next =>
    (∀ d, writes d = []) ∧ (∀ d d', view d = view d' → next d = next d') ∧ ∀ d, (next d).Through view
  | .lock _ _ => False
  | .commit _ => True
  | .fail _ => True

theorem Through.bind {V : Type} {view : D → V} (hp : p.Through view) (hf : ∀ a, (f a).Through view) :
    (p >>= f).Through view := by
  induction p with
  | pure a => exact hf a
  | stmt writes next ih =>
    refine ⟨hp.1, fun d d' h => ?_, fun d => ih d (hp.2.2 d)⟩
    show (next d) >>= f = (next d') >>= f
    rw [hp.2.1 d d' h]
  | lock key next _ => exact hp.elim
  | commit r => trivial
  | fail e => trivial

theorem through_pure {V : Type} {view : D → V} : (Pure.pure a : Prog D W K E R α).Through view := trivial

theorem through_query {V : Type} {view : D → V} {f : D → α} (hf : ∀ d d', view d = view d' → f d = f d') :
    (query f : Prog D W K E R α).Through view :=
  ⟨fun _ => rfl, fun d d' h => congrArg Prog.pure (hf d d' h), fun _ => trivial⟩

/-- Every write of the piece satisfies `P`; it may take locks and end the transaction. -/
def Only (P : W → Prop) : Prog D W K E R α → Prop
  | .pure _ => True
  | .stmt writes next => (∀ d, ∀ w ∈ writes d, P w) ∧ ∀ d, (next d).Only P
  | .lock _ next => next.Only P
  | .commit _ => True
  | .fail _ => True

theorem Only.bind (hp : p.Only P) (hf : ∀ a, (f a).Only P) : (p >>= f).Only P := by
  induction p with
  | pure a => exact hf a
  | stmt writes next ih => exact ⟨hp.1, fun d => ih d (hp.2 d)⟩
  | lock key next ih => exact ih hp
  | commit r => trivial
  | fail e => trivial

theorem ReadOnly.only (hp : p.ReadOnly A) : p.Only P := by
  induction p with
  | pure a => trivial
  | stmt writes next ih =>
    refine ⟨fun d w hw => ?_, fun d => ih d (hp.2 d)⟩
    rw [hp.1] at hw
    exact absurd hw List.not_mem_nil
  | lock key next _ => exact hp.elim
  | commit r => trivial
  | fail e => trivial

theorem only_acquireAll (keys : List K) : (acquireAll keys : Prog D W K E R Unit).Only P := by
  induction keys with
  | nil => trivial
  | cons key keys ih => exact ih

theorem only_execUnless {refused : D → Bool} {error : E} {writes : D → List W} (h : ∀ d, ∀ w ∈ writes d, P w) :
    (execUnless refused error writes : Prog D W K E R Unit).Only P := by
  constructor
  · intro d w hw
    cases hr : refused d with
    | true => simp [hr] at hw
    | false =>
      simp only [hr] at hw
      exact h d w hw
  · intro d
    show Only P (if refused d = true then fail error else pure ())
    split
    · trivial
    · trivial

/-! ## A transaction alone -/

/-- A piece of a transaction that no other transaction disturbs: the value it hands on with the log so far, or
    the outcome and the committed database where it ends the transaction. -/
def eval [Database D W] : Prog D W K E R α → List W → D → (α × List W) ⊕ (Except E R × D)
  | .pure a, log, _ => .inl (a, log)
  | .stmt writes next, log, d => (next (overlay log d)).eval (log ++ writes (overlay log d)) d
  | .lock _ next, log, d => next.eval log d
  | .commit result, log, d => .inr (.ok result, overlay log d)
  | .fail error, _, d => .inr (.error error, d)

/-- The outcome and the committed database of a whole transaction that runs alone. -/
def run [Database D W] (p : Prog D W K E R Empty) (d : D) : Except E R × D :=
  match p.eval [] d with
  | .inl (a, _) => a.elim
  | .inr ended => ended

section
variable [Database D W]

theorem eval_bind (p : Prog D W K E R α) (f : α → Prog D W K E R β) (log : List W) (d : D) :
    (p >>= f).eval log d =
      match p.eval log d with
      | .inl (a, log') => (f a).eval log' d
      | .inr ended => .inr ended := by
  induction p generalizing log with
  | pure a => rfl
  | stmt writes next ih => exact ih _ _
  | lock key next ih => exact ih _
  | commit r => rfl
  | fail e => rfl

@[simp] theorem eval_pure (log : List W) (d : D) :
    (Pure.pure a : Prog D W K E R α).eval log d = .inl (a, log) := rfl

@[simp] theorem eval_commit (r : R) (log : List W) (d : D) :
    (Prog.commit r : Prog D W K E R α).eval log d = .inr (.ok r, overlay log d) := rfl

@[simp] theorem eval_fail (e : E) (log : List W) (d : D) :
    (Prog.fail e : Prog D W K E R α).eval log d = .inr (.error e, d) := rfl

@[simp] theorem eval_query (f : D → α) (log : List W) (d : D) :
    (query f : Prog D W K E R α).eval log d = .inl (f (overlay log d), log) := by
  simp [query, eval]

/-- A piece that sees the database through `view` hands on the same value wherever the view is the same. -/
theorem Through.eval {V : Type} {view : D → V} (hp : p.Through view) {d d' : D} (hview : view d = view d') {a : α}
    (h : p.eval [] d = .inl (a, [])) : p.eval [] d' = .inl (a, []) := by
  induction p with
  | pure b => exact h
  | stmt writes next ih =>
    simp only [Prog.eval, overlay_nil, hp.1] at h ⊢
    rw [← hp.2.1 d d' hview]
    exact ih d (hp.2.2 d) h
  | lock key next _ => exact hp.elim
  | commit r => simp at h
  | fail e => simp at h

theorem eval_execUnless (refused : D → Bool) (error : E) (writes : D → List W) (log : List W) (d : D) :
    (execUnless refused error writes : Prog D W K E R Unit).eval log d =
      if refused (overlay log d) then .inr (.error error, d)
      else .inl ((), log ++ writes (overlay log d)) := by
  cases h : refused (overlay log d) <;> simp [execUnless, eval, h]

@[simp] theorem eval_ofExcept_ok (log : List W) (d : D) :
    (ofExcept (.ok a) : Prog D W K E R α).eval log d = .inl (a, log) := rfl

@[simp] theorem eval_acquireAll (keys : List K) (log : List W) (d : D) :
    (acquireAll keys : Prog D W K E R Unit).eval log d = .inl ((), log) := by
  induction keys with
  | nil => rfl
  | cons key keys ih => exact ih

@[simp] theorem eval_acquire (key : K) (log : List W) (d : D) :
    (acquire key : Prog D W K E R Unit).eval log d = .inl ((), log) := rfl

/-! ## Errors of a transaction alone -/

/-- Alone on `d`, the piece ends the transaction with an error of the class `A`. -/
def Fails (A : E → Prop) (p : Prog D W K E R α) (log : List W) (d : D) : Prop :=
  ∃ e d', p.eval log d = .inr (.error e, d') ∧ A e

variable {A : E → Prop} {log : List W} {d : D}

/-- No error of the piece is in the class `A`, whatever it reads. -/
def Mild (A : E → Prop) : Prog D W K E R α → Prop
  | .pure _ => True
  | .stmt _ next => ∀ d, (next d).Mild A
  | .lock _ next => next.Mild A
  | .commit _ => True
  | .fail e => ¬ A e

omit [Database D W] in
theorem Mild.bind (hp : p.Mild A) (hf : ∀ a, (f a).Mild A) : (p >>= f).Mild A := by
  induction p with
  | pure a => exact hf a
  | stmt writes next ih => exact fun d => ih d (hp d)
  | lock key next ih => exact ih hp
  | commit r => trivial
  | fail e => exact hp

end

end Prog

end

end Txn
