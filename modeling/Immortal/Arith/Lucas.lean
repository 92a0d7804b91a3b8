import Mathlib

/-!
# `Immortal.Arith.Lucas` — primality certificates the kernel can check

Trial division does not reach a prime of cryptographic size. Lucas' test does: it wants the prime factors of `p - 1`
and an element of order `p - 1`. A certificate lists such data for a tower of primes, each line resting on the lines
above it, and `certifies` evaluates it with modular exponentiation by squaring.
-/

namespace Immortal.Arith

/-! ## Powers -/

/-- `base ^ exponent` modulo `modulus`, for an exponent of at most `bits` bits. -/
def powMod (modulus : Nat) : Nat → Nat → Nat → Nat
  | 0, _, _ => 1
  | bits + 1, base, exponent =>
    let squared := powMod modulus bits (base * base % modulus) (exponent / 2)
    if exponent % 2 = 0 then squared else base * squared % modulus

theorem powMod_cast {modulus bits exponent : Nat} (base : Nat) (h : exponent < 2 ^ bits) :
    (powMod modulus bits base exponent : ZMod modulus) = (base : ZMod modulus) ^ exponent := by
  induction bits generalizing base exponent with
  | zero =>
    obtain rfl : exponent = 0 := Nat.lt_one_iff.mp h
    simp [powMod]
  | succ bits ih =>
    have hhalf : exponent / 2 < 2 ^ bits := by
      omega
    have hsquared := ih (base * base % modulus) hhalf
    rw [ZMod.natCast_mod, Nat.cast_mul, ← pow_two (base : ZMod modulus), ← pow_mul] at hsquared
    rw [powMod]
    split
    · rename_i heven
      rw [hsquared, Nat.mul_div_cancel' (Nat.dvd_of_mod_eq_zero heven)]
    · have hsplit : exponent = 2 * (exponent / 2) + 1 := by omega
      rw [ZMod.natCast_mod, Nat.cast_mul, hsquared, ← pow_succ', ← hsplit]

/-! ## Certificates -/

/-- A number, an element of maximal order modulo it, and the factors of its predecessor. -/
structure Line where
  number : Nat
  generator : Nat
  factors : List Nat
deriving Repr

/-- A power of a line's generator, as a residue. -/
def Line.power (line : Line) (exponent : Nat) : Nat :=
  powMod line.number (line.number.log2 + 1) line.generator exponent % line.number

/-- Lucas' test with factors among `primes`. -/
def Line.holds (primes : List Nat) (line : Line) : Bool :=
  decide (1 < line.number) && line.factors.all (primes.contains ·) && line.factors.prod == line.number - 1 &&
    line.power (line.number - 1) == 1 && line.factors.all fun factor => line.power ((line.number - 1) / factor) != 1

/-- Every line holds over the numbers before it. -/
def certifies : List Nat → List Line → Bool
  | _, [] => true
  | primes, line :: lines => line.holds primes && certifies (line.number :: primes) lines

theorem Line.power_eq_one_iff {line : Line} {exponent : Nat} (hline : 1 < line.number)
    (h : exponent ≤ line.number - 1) :
    (line.generator : ZMod line.number) ^ exponent = 1 ↔ line.power exponent = 1 := by
  have hbits : line.number < 2 ^ (line.number.log2 + 1) := Nat.lt_log2_self
  have hone : ((1 : Nat) : ZMod line.number) = 1 := Nat.cast_one
  rw [← powMod_cast line.generator (show exponent < 2 ^ (line.number.log2 + 1) by omega), ← hone,
    ZMod.natCast_eq_natCast_iff', Nat.mod_eq_of_lt hline, Line.power]

theorem Line.holds_prime {primes : List Nat} {line : Line} (hprimes : ∀ p ∈ primes, p.Prime)
    (h : line.holds primes = true) : line.number.Prime := by
  simp only [Line.holds, Bool.and_eq_true, decide_eq_true_eq, List.all_eq_true, List.contains_iff_mem, beq_iff_eq,
    bne_iff_ne] at h
  obtain ⟨⟨⟨⟨hone, hlisted⟩, hproduct⟩, hfull⟩, hproper⟩ := h
  apply lucas_primality line.number line.generator
  · exact (line.power_eq_one_iff hone le_rfl).mpr hfull
  · intro q hq hdvd
    -- a prime divisor of the product is one of the listed factors
    rw [← hproduct] at hdvd
    obtain ⟨factor, hfactor, hdvd⟩ := (Prime.dvd_prod_iff hq.prime).mp hdvd
    obtain rfl := (Nat.prime_dvd_prime_iff_eq hq (hprimes _ (hlisted factor hfactor))).mp hdvd
    rw [ne_eq, line.power_eq_one_iff hone (Nat.div_le_self _ _)]
    exact hproper q hfactor

/-- **A checked certificate lists primes.** -/
theorem prime_of_certifies {primes : List Nat} {lines : List Line} (hprimes : ∀ p ∈ primes, p.Prime)
    (h : certifies primes lines = true) : ∀ line ∈ lines, line.number.Prime := by
  induction lines generalizing primes with
  | nil =>
    intro line hline
    cases hline
  | cons line lines ih =>
    obtain ⟨hline, hlines⟩ := Bool.and_eq_true_iff.mp h
    have hprime := Line.holds_prime hprimes hline
    have hextended : ∀ p ∈ line.number :: primes, p.Prime := List.forall_mem_cons.mpr ⟨hprime, hprimes⟩
    exact List.forall_mem_cons.mpr ⟨hprime, ih hextended hlines⟩

end Immortal.Arith
