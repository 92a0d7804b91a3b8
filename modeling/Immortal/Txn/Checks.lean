import Mathlib

/-!
# `Immortal.Txn.Checks` — fallible steps in sequence

Inversion rules for computations in `Except`: what is known of the parts of a sequence, or of the passes of a loop,
once the outcome of the whole is known.
-/

namespace Txn

variable {ε α β : Type} {next : α → Except ε β} {result : β} {check : Except ε α}

/-- A sequence of checks succeeds exactly when the first does and the rest does on its result. -/
theorem bind_eq_ok :
    (check >>= next) = .ok result ↔ ∃ value, check = .ok value ∧ next value = .ok result := by
  cases check with
  | error e => simp [bind, Except.bind]
  | ok value => simp [bind, Except.bind]

theorem check_bind_eq_ok {check : Except ε Unit} {next : Unit → Except ε β} :
    (check >>= next) = .ok result ↔ check = .ok () ∧ next () = .ok result := by
  rw [bind_eq_ok]
  exact ⟨fun ⟨_, h⟩ => h, fun h => ⟨(), h⟩⟩

/-- A sequence of checks fails where the first check that fails does. -/
theorem bind_eq_error {e : ε} :
    (check >>= next) = .error e ↔ check = .error e ∨ ∃ value, check = .ok value ∧ next value = .error e := by
  cases check with
  | error e' => simp [bind, Except.bind]
  | ok value => simp [bind, Except.bind]

theorem pure_eq_ok {value result : α} : (pure value : Except ε α) = .ok result ↔ value = result := by
  simp [pure, Except.pure]

theorem mapError_eq_ok {ε' : Type} {f : ε → ε'} {a : α} :
    check.mapError f = .ok a ↔ check = .ok a := by
  cases check <;> simp [Except.mapError]

variable {items : List α}

/-- What a collected loop returns was returned for one of its items. -/
theorem mapM_ok_mem {read : α → Except ε β} {results : List β}
    (h : items.mapM read = .ok results) : ∀ result ∈ results, ∃ item ∈ items, read item = .ok result := by
  induction items generalizing results with
  | nil =>
    simp only [List.mapM_nil, pure_eq_ok] at h
    simp [← h]
  | cons item rest ih =>
    simp only [List.mapM_cons, bind_eq_ok, pure_eq_ok] at h
    obtain ⟨first, hfirst, others, hothers, rfl⟩ := h
    intro result hresult
    rcases List.mem_cons.mp hresult with rfl | hresult
    · exact ⟨item, List.mem_cons_self, hfirst⟩
    · obtain ⟨source, hsource, hread⟩ := ih hothers result hresult
      exact ⟨source, .tail _ hsource, hread⟩

variable {step : β → α → Except ε β}

/-- What every pass of a fallible loop preserves holds of what the loop returns. -/
theorem foldlM_preserves {holds : β → Prop}
    (hstep : ∀ state item next, holds state → step state item = .ok next → holds next)
    {start : β} (hstart : holds start) (h : items.foldlM step start = .ok result) : holds result := by
  induction items generalizing start with
  | nil =>
    cases h
    exact hstart
  | cons item items ih =>
    obtain ⟨next, hnext, h⟩ := bind_eq_ok.mp h
    exact ih (hstep start item next hstart hnext) h

/-- A test that refuses is passed exactly when its condition fails. -/
theorem ite_error_eq_ok {condition : Prop} [Decidable condition] {e : ε}
    {rest : Except ε β} :
    (if condition then .error e >>= next else rest) = .ok result ↔ ¬ condition ∧ rest = .ok result := by
  split <;> simp_all [bind, Except.bind]

/-- A fallible loop whose state is determined by the items it has passed succeeds exactly when each item is
    admissible after those before it. -/
theorem foldlM_eq_ok {state : List α → β} {admissible : List α → α → Prop}
    (hstep : ∀ before item next, step (state before) item = .ok next ↔
      admissible before item ∧ state (before ++ [item]) = next) :
    items.foldlM step (state []) = .ok result ↔
      (∀ before item, before ++ [item] <+: items → admissible before item) ∧ state items = result := by
  induction items using List.reverseRecOn generalizing result with
  | nil => simp [pure_eq_ok]
  | append_singleton items last ih =>
    have hlast : (∀ before item, before ++ [item] = items ++ [last] → admissible before item) ↔
        admissible items last :=
      ⟨fun h => h items last rfl, fun h before item hsplit => by
        obtain ⟨rfl, hitem⟩ := List.append_inj' hsplit rfl
        rwa [List.singleton_inj.mp hitem]⟩
    simp only [List.foldlM_append, List.foldlM_cons, List.foldlM_nil, bind_eq_ok, ih, bind_pure,
      List.prefix_concat_iff, or_imp, forall_and, hlast]
    constructor
    · rintro ⟨_, ⟨hbefore, rfl⟩, h⟩
      have h := (hstep items last result).mp h
      exact ⟨⟨h.1, hbefore⟩, h.2⟩
    · rintro ⟨⟨h, hbefore⟩, rfl⟩
      exact ⟨_, ⟨hbefore, rfl⟩, (hstep items last _).mpr ⟨h, rfl⟩⟩

theorem forM_eq_ok {check : α → Except ε PUnit} {u : PUnit} :
    items.forM check = .ok u ↔ ∀ item ∈ items, check item = .ok () := by
  induction items with
  | nil => simp [pure, Except.pure]
  | cons item items ih =>
    show (check item >>= fun _ => items.forM check) = .ok () ↔ _
    rw [check_bind_eq_ok, ih, List.forall_mem_cons]

end Txn
