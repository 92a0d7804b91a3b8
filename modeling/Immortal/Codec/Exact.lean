import Mathlib

/-!
# `Immortal.Codec.Exact` — readers that accept exactly what a writer writes

A reader takes a value off the front of a list of symbols and leaves the rest. It is *exact* for a writer on the good
values when it reads `a` precisely off lists that start with what is written for `a`, and `a` is good. Exactness holds
two facts at once: what was written is read back, and what was read is written back. It is closed under the ways in
which readers are put together, and it makes the writer free of prefixes, so that concatenations of written values
can be taken apart.
-/

namespace Codec

variable {σ ε α β γ : Type}

/-- A reader of values off the front of a list. -/
abbrev ReaderOf (σ ε α : Type) := StateT (List σ) (Except ε) α

variable {read : ReaderOf σ ε α} {next : α → ReaderOf σ ε β}

theorem read_bind_ok {input rest : List σ} {b : β} :
    (read >>= next) input = .ok (b, rest) ↔
      ∃ a middle, read input = .ok (a, middle) ∧ next a middle = .ok (b, rest) := by
  show (Except.bind (read input) fun p => next p.1 p.2) = _ ↔ _
  cases read input with
  | error e => simp [Except.bind]
  | ok p =>
    obtain ⟨a, middle⟩ := p
    simp [Except.bind]

theorem read_pure_ok {a b : α} {input rest : List σ} :
    (pure a : ReaderOf σ ε α) input = .ok (b, rest) ↔ a = b ∧ input = rest := by
  show Except.ok (a, input) = Except.ok (b, rest) ↔ _
  simp

theorem read_throw_ok {e : ε} {b : α} {input rest : List σ} :
    (throw e : ReaderOf σ ε α) input = .ok (b, rest) ↔ False := by
  show Except.error e = Except.ok (b, rest) ↔ _
  simp

theorem read_check_ok {bad : Prop} [Decidable bad] {e : ε} {input rest : List σ} {a : α} :
    (if bad then (throw e : ReaderOf σ ε Unit) >>= fun _ => read else read) input = .ok (a, rest) ↔
      ¬ bad ∧ read input = .ok (a, rest) := by
  by_cases hbad : bad
  · simp [hbad, read_bind_ok, read_throw_ok]
  · simp [hbad]

/-- The reader reads exactly the good values, in the form in which they are written. -/
def Exact (read : ReaderOf σ ε α) (good : α → Prop) (write : α → List σ) : Prop :=
  ∀ input a rest, read input = .ok (a, rest) ↔ good a ∧ input = write a ++ rest

namespace Exact

variable {read : ReaderOf σ ε α} {good : α → Prop} {write : α → List σ}

theorem pure (a : α) : Exact (Pure.pure a : ReaderOf σ ε α) (· = a) (fun _ => []) := by
  intro input b rest
  rw [read_pure_ok]
  exact and_congr_left' eq_comm

variable (hread : Exact read good write)
include hread

/-- A reader whose result tells what an earlier reader read (`part`). -/
theorem bind {good' : α → β → Prop} {write' : α → β → List σ} (part : β → α)
    (hnext : ∀ a, good a → Exact (next a) (good' a) (write' a))
    (hpart : ∀ a b, good' a b → part b = a) :
    Exact (read >>= next) (fun b => good (part b) ∧ good' (part b) b)
      (fun b => write (part b) ++ write' (part b) b) := by
  intro input b rest
  rw [read_bind_ok]
  constructor
  · rintro ⟨a, middle, ha, hb⟩
    obtain ⟨hgood, rfl⟩ := (hread _ _ _).mp ha
    obtain ⟨hgood', rfl⟩ := (hnext a hgood _ _ _).mp hb
    obtain rfl := hpart a b hgood'
    exact ⟨⟨hgood, hgood'⟩, by rw [List.append_assoc]⟩
  · rintro ⟨⟨hgood, hgood'⟩, rfl⟩
    refine ⟨part b, write' (part b) b ++ rest, ?_, ?_⟩
    · rw [hread, List.append_assoc]
      exact ⟨hgood, rfl⟩
    · rw [hnext _ hgood]
      exact ⟨hgood', rfl⟩

/-- The same values in another form. -/
theorem congr {good' : α → Prop} {write' : α → List σ}
    (hgood : ∀ a, good a ↔ good' a) (hwrite : ∀ a, good a → write a = write' a) : Exact read good' write' := by
  intro input a rest
  rw [hread, ← hgood]
  refine and_congr_right fun ha => ?_
  rw [hwrite a ha]

/-- A check before the reader goes on. -/
theorem check {bad : Prop} [Decidable bad] {e : ε} :
    Exact (if bad then (throw e : ReaderOf σ ε Unit) >>= fun _ => read else read) (fun a => ¬ bad ∧ good a) write := by
  intro input a rest
  rw [read_check_ok, hread, and_assoc]

/-- **Written values are free of prefixes.** -/
theorem unique {a b : α} {rest rest' : List σ} (ha : good a) (hb : good b)
    (h : write a ++ rest = write b ++ rest') : a = b ∧ rest = rest' := by
  have hfirst := (hread (write a ++ rest) a rest).mpr ⟨ha, rfl⟩
  have hsecond := (hread (write a ++ rest) b rest').mpr ⟨hb, h⟩
  rw [hfirst] at hsecond
  simpa using hsecond

/-- A concatenation of written values, none of them empty, determines the values. -/
theorem flatMap_inj (hne : ∀ a, good a → write a ≠ []) {as bs : List α}
    (has : ∀ a ∈ as, good a) (hbs : ∀ b ∈ bs, good b) (h : as.flatMap write = bs.flatMap write) : as = bs := by
  induction as generalizing bs with
  | nil =>
    cases bs with
    | nil => rfl
    | cons b bs =>
      exact absurd (List.append_eq_nil_iff.mp h.symm).1 (hne b (hbs b List.mem_cons_self))
  | cons a as ih =>
    cases bs with
    | nil =>
      exact absurd (List.append_eq_nil_iff.mp h).1 (hne a (has a List.mem_cons_self))
    | cons b bs =>
      obtain ⟨rfl, hrest⟩ := hread.unique (has a List.mem_cons_self) (hbs b List.mem_cons_self) h
      rw [ih (fun x hx => has x (.tail _ hx)) (fun x hx => hbs x (.tail _ hx)) hrest]

end Exact

/-- A reader repeated a number of times. -/
def readTimes (read : ReaderOf σ ε α) : Nat → ReaderOf σ ε (List α)
  | 0 => pure []
  | count + 1 => do
    let first ← read
    let rest ← readTimes read count
    return first :: rest

theorem Exact.times {good : α → Prop} {write : α → List σ} (hread : Exact read good write)
    (count : Nat) :
    Exact (readTimes read count) (fun as => as.length = count ∧ ∀ a ∈ as, good a) (·.flatMap write) := by
  induction count with
  | zero =>
    intro input as rest
    rw [readTimes, read_pure_ok]
    constructor
    · rintro ⟨rfl, rfl⟩
      simp
    · rintro ⟨⟨hlength, -⟩, rfl⟩
      rw [List.eq_nil_of_length_eq_zero hlength]
      exact ⟨rfl, rfl⟩
  | succ count ih =>
    intro input as rest
    simp only [readTimes, read_bind_ok, read_pure_ok]
    constructor
    · rintro ⟨a, middle, ha, as', middle', has, rfl, rfl⟩
      obtain ⟨hgood, rfl⟩ := (hread _ _ _).mp ha
      obtain ⟨⟨rfl, hall⟩, rfl⟩ := (ih _ _ _).mp has
      refine ⟨⟨rfl, ?_⟩, by rw [List.flatMap_cons, List.append_assoc]⟩
      intro b hb
      rcases List.mem_cons.mp hb with rfl | hb
      · exact hgood
      · exact hall b hb
    · rintro ⟨⟨hlength, hall⟩, rfl⟩
      cases as with
      | nil => cases hlength
      | cons a as =>
        refine ⟨a, as.flatMap write ++ rest, ?_, as, rest, ?_, rfl, rfl⟩
        · rw [hread, List.flatMap_cons, List.append_assoc]
          exact ⟨hall a List.mem_cons_self, rfl⟩
        · rw [ih]
          exact ⟨⟨Nat.succ.inj hlength, fun b hb => hall b (.tail _ hb)⟩, rfl⟩

/-- Writers that refuse some values, over a list. -/
theorem mapM_write_ok {write : α → Except ε β} {fits : α → Prop} {plain : α → β}
    (hwrite : ∀ a b, write a = .ok b ↔ fits a ∧ b = plain a) (as : List α) (bs : List β) :
    as.mapM write = .ok bs ↔ (∀ a ∈ as, fits a) ∧ bs = as.map plain := by
  induction as generalizing bs with
  | nil =>
    show Except.ok [] = Except.ok bs ↔ _
    simp
  | cons a as ih =>
    rw [List.mapM_cons]
    show (Except.bind (write a) fun b => Except.bind (as.mapM write) fun bs => .ok (b :: bs)) = .ok bs ↔ _
    cases ha : write a with
    | error e =>
      have hfits : ¬ fits a := fun h => by
        rw [(hwrite a (plain a)).mpr ⟨h, rfl⟩] at ha
        cases ha
      simp [Except.bind, hfits]
    | ok b =>
      obtain ⟨hfits, rfl⟩ := (hwrite a b).mp ha
      cases has : as.mapM write with
      | error e =>
        have hnot : ¬ ∀ x ∈ as, fits x := fun h => by
          rw [(ih (as.map plain)).mpr ⟨h, rfl⟩] at has
          cases has
        simp only [Except.bind, reduceCtorEq, List.forall_mem_cons, false_iff]
        exact fun h => hnot h.1.2
      | ok rest =>
        obtain ⟨hall, rfl⟩ := (ih rest).mp has
        simp only [Except.bind, Except.ok.injEq, List.forall_mem_cons]
        exact ⟨fun h => ⟨⟨hfits, hall⟩, h.symm⟩, fun h => h.2.symm⟩

end Codec
