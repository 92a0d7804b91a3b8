import Immortal.Client.StatusClosure

/-!
# `Immortal.Client.TerminalStatus` — which outcomes a signer's valid Statuses can name together

The profile's transition graphs end in `completed`, or in one of `refunded`, `cancelled` and `expired`. The client
compares ranks instead of edges, and the ranks of the three lie below that of `completed`: a signer may report the
completion of a swap it has reported as refunded, cancelled or expired, and only in that order.
-/

namespace Immortal.Client

open Txn

/-- The outcomes of a swap that was not carried out. -/
def abandonedStates : List String := ["refunded", "cancelled", "expired"]

/-- The states with which every ranking ends. -/
def outcomeStates : List String := abandonedStates ++ ["completed", "disputed", "failed", "unresolved"]

section Outcomes

variable {swapType : SwapType} {entries : List StatusEntry} {projection : StatusProjection}

theorem zeroConf_not_outcome (swapType : SwapType) (next : String) :
    ∀ state ∈ outcomeStates, zeroConfStatusTransition swapType state next = false := by
  cases swapType <;> simp [outcomeStates, abandonedStates, zeroConfStatusTransition]

/-- **Step.** Only a later outcome follows on an outcome. -/
theorem outcome_step {previous current : StatusEntry} (h : allowedTransition swapType previous current = true)
    (hprevious : previous.state ∈ outcomeStates) : current.state ∈ outcomeStates ∧
      outcomeStates.idxOf previous.state < outcomeStates.idxOf current.state := by
  have hranks : ∀ state ∈ outcomeStates, ∀ next ∈ rankedStates swapType,
      ∀ rank ∈ transitionRank swapType state, ∀ nextRank ∈ transitionRank swapType next, rank < nextRank →
        next ∈ outcomeStates ∧ outcomeStates.idxOf state < outcomeStates.idxOf next := by
    cases swapType <;> decide +kernel
  have hpending : ∀ state ∈ outcomeStates,
      state ≠ "cooperative_signing_pending" ∧ state ∉ cooperativeStartStates := by
    simp [outcomeStates, abandonedStates, cooperativeStartStates]
  simp only [allowedTransition, Bool.or_eq_true, zeroConf_not_outcome swapType _ _ hprevious] at h
  rcases h with (hcooperative | hfalse) | hrank
  · obtain ⟨hstate, hstart⟩ := hpending _ hprevious
    unfold cooperativeStatusTransition at hcooperative
    split at hcooperative <;> simp [hstate, hstart] at hcooperative
  · cases hfalse
  · split at hrank
    · rename_i previousRank currentRank hfrom hto
      have hranked : current.state ∈ rankedStates swapType := by
        by_contra hnot
        rw [transitionRank, List.idxOf?_eq_none_iff.mpr hnot] at hto
        cases hto
      exact hranks _ hprevious _ hranked _ hfrom _ hto (of_decide_eq_true hrank)
    · cases hrank

theorem eq_of_statusesAt {entry link : StatusEntry} {author : String} (hmem : entry ∈ entries)
    (hauthor : entry.author = author) (h : statusesAt entries author entry.sequence = [link]) : entry = link :=
  List.mem_singleton.mp (h ▸ mem_statusesAt.mpr ⟨hmem, hauthor, rfl⟩)

section Chain

variable {first entry : StatusEntry} (h : OwnChain swapType entries projection entry) (hfirst : first ∈ entries)
  (hauthor : first.author = entry.author) (hstate : first.state ∈ outcomeStates)
include h hfirst hauthor hstate

/-- **Run.** Along a chain, every Status from an outcome on is an outcome, and each is later than the one before. -/
theorem OwnChain.outcomes : ∀ n, first.sequence ≤ n → n ≤ entry.sequence →
    ∃ link, statusesAt entries entry.author n = [link] ∧ projection.valid link = true ∧ link.state ∈ outcomeStates ∧
      outcomeStates.idxOf first.state + (n - first.sequence) ≤ outcomeStates.idxOf link.state := by
  intro n hn
  induction n, hn using Nat.le_induction with
  | base =>
    intro hle
    obtain ⟨link, hlink, hvalid, -⟩ := h _ hle
    obtain rfl := eq_of_statusesAt hfirst hauthor hlink
    exact ⟨first, hlink, hvalid, hstate, by omega⟩
  | succ n hn ih =>
    intro hle
    obtain ⟨link, hlink, hvalid, hlinked⟩ := h _ hle
    obtain ⟨previous, hprevious, -, houtcome, hidx⟩ := ih (by omega)
    obtain ⟨-, hsigner, hsequence⟩ := of_statusesAt_eq hlink
    obtain ⟨before, hbefore, -, hallowed⟩ := hlinked.2 n hsequence
    rw [hsigner, hprevious, List.singleton_inj] at hbefore
    subst hbefore
    obtain ⟨hnext, hlater⟩ := outcome_step hallowed houtcome
    exact ⟨link, hlink, hvalid, hnext, by omega⟩

end Chain

end Outcomes

/-! ## A completion after another Status -/

end Immortal.Client
