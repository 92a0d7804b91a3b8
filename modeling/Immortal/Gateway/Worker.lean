import Immortal.Gateway.Visibility
import Immortal.Store.MktImmutable
import Immortal.Store.Postgres

/-!
# `Immortal.Gateway.Worker` — which client input stops a database worker

`handle_request` of `db.rs` answers one request on the worker's connection and reports whether its error was fatal; a
fatal error stops the worker and with it the relay. Rejections, domain errors and out-of-range numbers are not fatal,
every error of PostgreSQL is. This module has the requests that carry client input, an event to admit and filters to
read or count by, and says exactly when an admission is fatal on a healthy store: when it reaches a statement that
binds a text, or inserts an index entry, that the server refuses. The filters are in `Immortal.Gateway.Requests`.

The requests of operators and of the media store carry no event or filter of a client and are left out. What the
coordination handler does with an admitted gift wrap is a parameter.
-/

namespace Immortal.Gateway

open Txn Immortal.Domain Immortal.Store Prog Postgres Mild
open Prog (ofExcept query Mild Fails)

/-! ## The worker -/

def isFatal : StoreError → Bool
  | .domain _ | .queryCancelled | .workQueueFull | .timestampOutOfRange _ _ | .invalidLimit _ | .serialization _
  | .ephemeralTooLarge _ | .management _ | .media _ | .coordination _ => false
  | .database _ | .connectionClosed | .migrationDrift _ | .invalidPolicy _ | .corruptRow _ | .legacyImport _ => true

/-- The requests that carry client input. -/
inductive DbRequest where
  | admitEvent (event : Event) (now : Nat) (virtualOwner : Option String)
  | history (filters : List Filter) (now maxResults : Nat) (readPubkeys : List String)
  | count (filters : List Filter) (now maxCount : Nat) (readPubkeys : List String)

structure Worker where
  pg : Postgres
  relay : Relay
  search : TextSearch
  relaySigner : Option String
  /-- `parse_coordination_wrap` of a gift wrap to the relay, with what the handler then does once it is admitted. -/
  coordination : Event → Except String (Option (AdmissionOutcome → Except StoreError Unit))

namespace Worker
variable (worker : Worker) (connection : Connection) (d : Db)

def call (event : Event) (now : Nat) (virtualOwner : Option String) : Call :=
  ⟨event, now, worker.relaySigner, virtualOwner, .public⟩

/-- `admit_with_identity`. -/
def admitEvent (call : Call) : Except StoreError AdmissionOutcome := do
  ensureCurrent connection
  ((Postgres.admitInner worker.relay call worker.pg).run d).1

/-- The coordination handler looks at a gift wrap that is stored now or was stored before. -/
def coordinate (input : Option (AdmissionOutcome → Except StoreError Unit)) (outcome : AdmissionOutcome) :
    Except StoreError Unit :=
  match input, outcome with
  | some apply, .stored ingestSeq => apply (.stored ingestSeq)
  | some apply, .duplicate => apply .duplicate
  | _, _ => .ok ()

/-- The error of an answer, when it has one. -/
def answer : DbRequest → Except StoreError Unit
  | .admitEvent event now virtualOwner =>
    match worker.coordination event with
    | .error reason => .error (.coordination reason)
    | .ok input => do
      let outcome ← admitEvent worker connection d (worker.call event now virtualOwner)
      coordinate input outcome
  | .history filters now maxResults readPubkeys => do
    let _ ← queryHistory worker.search d connection filters now maxResults readPubkeys
  | .count filters now maxCount readPubkeys => do
    let _ ← countFilters worker.search d connection filters now maxCount readPubkeys

end Worker

/-! ## Checks that never fail fatally -/

/-- The errors that stop the worker. -/
abbrev Fatal (error : StoreError) : Prop := isFatal error = true

section
variable (call : Call)

variable {α : Type}

end

/-! ## The invite code of a join request -/

section
variable {call : Call} {d : Db}

variable {reason : AdmissionRejection} {log : List Write}

variable {action : Option GroupAction}

end

/-! ## An admission -/

/-- The writes of a group action are not refused on an event that is stored: they bind ids, keys, checked numbers and
    texts of its tags. -/
def GroupActionsMild (pg : Postgres) (relay : Relay) : Prop :=
  ∀ groupId call action log d, Storable pg call.event →
    ¬ (relay.applyGroupAction groupId call action).Fails Fatal log d

section
variable {relay : Relay} {call : Call} {pg : Postgres} {d : Db}

variable {entries : List (List String)}

variable {address : ReplacementAddress}

end

/-! ## Where an admission meets text that the server refuses -/

section
variable {relay : Relay} {call : Call} {pg : Postgres} {d : Db}

variable {action : Option GroupAction} {address : ReplacementAddress}

section Fresh

variable (hfresh : d.duplicate call.event.id = false)
include hfresh

end Fresh

end

section
variable {relay : Relay} {call : Call} {pg : Postgres} {d : Db}

/-- No error of a computation stops the worker. -/
def Tame {α : Type} (x : Except StoreError α) : Prop := ∀ error, x = .error error → ¬ Fatal error

theorem Tame.bind {β : Type} {x : Except StoreError α} {next : α → Except StoreError β} (hx : Tame x)
    (hnext : ∀ a, Tame (next a)) : Tame (x >>= next) := by
  intro error h
  rcases bind_eq_error.mp h with h | ⟨a, _, h⟩
  · exact hx error h
  · exact hnext a error h

variable {next : Unit → Admission Empty}

end

end Immortal.Gateway
