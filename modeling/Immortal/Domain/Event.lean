import Mathlib

/-!
# `Immortal.Domain.Event` — signed events, their class and their replacement address

The data model of `immortal-core/src/domain`: tags and events as the relay receives them, the storage class of
a kind, the address on which replaceable versions compete and the order that decides between two versions.

Text is `String`, a `u64` timestamp and a `u16` kind are `Nat`; the two places where a machine bound decides a
result (`str::parse` and the `bigint` columns of the store) say so explicitly.
-/

namespace Immortal.Domain

/-! ## Text decoders -/

/-- A protocol-domain validation failure. -/
inductive DomainError where
  | emptyTag
  | invalidHex (field : String) (expectedBytes : Nat)
  | invalidPublicKey
  | eventIdMismatch (expected actual : String)
  | invalidSignature
  | expiredEvent (expiration now : Nat)
  | futureTimestamp (createdAt latestAllowed : Nat)
  | invalidEvent (reason : String)
  | invalidFilter (reason : String)
  | invalidReplacementAddress (value : String)
  | replacementAddressMismatch
  | notReplaceable
  | notDeletionRequest
  | serialization (reason : String)
  deriving DecidableEq, Repr

/-- `Display`. -/
def DomainError.display : DomainError → String
  | .emptyTag => "tags must contain at least a name"
  | .invalidHex field expectedBytes =>
    field ++ " must be " ++ toString (expectedBytes * 2) ++ " lowercase hexadecimal characters"
  | .invalidPublicKey => "pubkey is not a valid x-only secp256k1 key"
  | .eventIdMismatch expected actual => "event id mismatch: expected " ++ expected ++ ", received " ++ actual
  | .invalidSignature => "invalid Schnorr signature"
  | .expiredEvent expiration now =>
    "event expired at " ++ toString expiration ++ "; current time is " ++ toString now
  | .futureTimestamp createdAt latestAllowed =>
    "event timestamp " ++ toString createdAt ++ " is later than allowed maximum " ++ toString latestAllowed
  | .invalidEvent reason => "invalid event: " ++ reason
  | .invalidFilter reason => "invalid NIP-01 filter: " ++ reason
  | .invalidReplacementAddress value => "invalid replacement address: " ++ value.quote
  | .replacementAddressMismatch => "events do not have the same replacement address"
  | .notReplaceable => "event is not replaceable or addressable"
  | .notDeletionRequest => "event is not a kind 5 deletion request"
  | .serialization reason => "canonical serialization failed: " ++ reason

def decimalDigit (c : Char) : Option Nat :=
  if '0' ≤ c ∧ c ≤ '9' then some (c.toNat - '0'.toNat) else none

def decimalValue (acc : Nat) : List Char → Option Nat
  | [] => some acc
  | c :: cs =>
    match decimalDigit c with
    | some d => decimalValue (acc * 10 + d) cs
    | none => none

/-- `str::parse` at an unsigned type whose largest value is `max`: an optional `+`, then at least one digit. -/
def parseUnsigned (max : Nat) (value : String) : Option Nat :=
  let digits := match value.toList with
    | '+' :: cs => cs
    | cs => cs
  if digits = [] then none
  else (decimalValue 0 digits).filter (· ≤ max)

def u16Max : Nat := 2 ^ 16 - 1
def u64Max : Nat := 2 ^ 64 - 1

def hexNibble (c : Char) : Option Nat :=
  if '0' ≤ c ∧ c ≤ '9' then some (c.toNat - '0'.toNat)
  else if 'a' ≤ c ∧ c ≤ 'f' then some (c.toNat - 'a'.toNat + 10)
  else none

def hexBytes : List Char → Option (List Nat)
  | [] => some []
  | high :: low :: rest => do
    let h ← hexNibble high
    let l ← hexNibble low
    let bytes ← hexBytes rest
    return (h * 16 + l) :: bytes
  | [_] => none

/-- Exactly `n` bytes of lowercase hexadecimal. The source counts bytes and refuses non-ASCII text; text of
    nibbles only has as many bytes as characters, and any other text fails the digit check. -/
def decodeLowerHex (n : Nat) (input field : String) : Except DomainError (List Nat) :=
  if input.toList.length ≠ n * 2 then .error (.invalidHex field n)
  else match hexBytes input.toList with
    | some bytes => .ok bytes
    | none => .error (.invalidHex field n)

/-- `decode_lower_hex::<N>(..).is_ok()`. -/
def isLowerHex (n : Nat) (input : String) : Bool :=
  (decodeLowerHex n input "").isOk

/-! ## Tags and events -/

/-- A NIP-01 tag: the first element is its name and the second, when present, its first value. -/
abbrev Tag := List String

def Tag.name (tag : Tag) : Option String := tag.head?

def Tag.value (tag : Tag) : Option String := tag[1]?

/-- NIP-01 storage classification for an event kind. -/
inductive EventClass where
  | regular
  | replaceable
  | ephemeral
  | addressable
  deriving DecidableEq, Repr

def EventClass.fromKind (kind : Nat) : EventClass :=
  if kind = 0 ∨ kind = 3 ∨ (10000 ≤ kind ∧ kind ≤ 19999) then .replaceable
  else if 20000 ≤ kind ∧ kind ≤ 29999 then .ephemeral
  else if 30000 ≤ kind ∧ kind ≤ 39999 then .addressable
  else .regular

/-- The event object transmitted by clients and relays. -/
structure Event where
  id : String
  pubkey : String
  createdAt : Nat
  kind : Nat
  tags : List Tag
  content : String
  sig : String
  deriving DecidableEq, Repr

namespace Event

def eventClass (event : Event) : EventClass := EventClass.fromKind event.kind

/-- The first values of every tag of that name. -/
def tagValues (event : Event) (name : String) : List String :=
  (event.tags.filter (fun tag => tag.name = some name)).filterMap Tag.value

/-- The first `d` tag's value; a missing value is the empty string. -/
def distinctParameter (event : Event) : Option String :=
  if event.eventClass ≠ .addressable then none
  else some (((event.tags.find? (fun tag => tag.name = some "d")).bind Tag.value).getD "")

/-- The first NIP-40 `expiration` tag, when it parses. -/
def expiration (event : Event) : Option Nat :=
  ((event.tags.find? (fun tag => tag.name = some "expiration")).bind Tag.value).bind (parseUnsigned u64Max)

def isExpired (event : Event) (now : Nat) : Bool := event.expiration.any (fun expiration => expiration ≤ now)

def groupId (event : Event) : Option String := (event.tagValues "h").head?

/-- Wire shape and fixed-width lowercase hexadecimal fields. -/
def validateNip01Structure (event : Event) : Except DomainError Unit := do
  let _ ← decodeLowerHex 32 event.id "id"
  let _ ← decodeLowerHex 32 event.pubkey "pubkey"
  let _ ← decodeLowerHex 64 event.sig "sig"
  if event.tags.any (fun tag => tag = []) then throw .emptyTag

end Event

/-! ## Replacement addresses -/

/-- The coordinate on which replaceable versions compete. -/
structure ReplacementAddress where
  kind : Nat
  pubkey : String
  identifier : String
  deriving DecidableEq, Repr

namespace ReplacementAddress

def fromEvent (event : Event) : Option ReplacementAddress :=
  match event.eventClass with
  | .replaceable => some ⟨event.kind, event.pubkey, ""⟩
  | .addressable => some ⟨event.kind, event.pubkey, event.distinctParameter.getD ""⟩
  | .regular | .ephemeral => none

/-- `Display`: `kind:pubkey:identifier`. -/
def display (address : ReplacementAddress) : String :=
  toString address.kind ++ ":" ++ address.pubkey ++ ":" ++ address.identifier

/-- Text up to the first `:` and, when there is one, the text after it. -/
def splitColon (cs : List Char) : List Char × Option (List Char) :=
  match cs with
  | [] => ([], none)
  | ':' :: rest => ([], some rest)
  | c :: rest => let (before, after) := splitColon rest; (c :: before, after)

/-- `FromStr`: three fields separated by the first two colons, the identifier free to hold more of them. -/
def fromStr (value : String) : Except DomainError ReplacementAddress :=
  let invalid : Except DomainError ReplacementAddress := .error (.invalidReplacementAddress value)
  match splitColon value.toList with
  | (_, none) => invalid
  | (kindText, some rest) =>
    match splitColon rest with
    | (_, none) => invalid
    | (pubkeyText, some identifierText) =>
      match parseUnsigned u16Max (String.ofList kindText) with
      | none => invalid
      | some kind =>
        let pubkey := String.ofList pubkeyText
        let identifier := String.ofList identifierText
        if ¬ isLowerHex 32 pubkey then invalid
        else match EventClass.fromKind kind with
          | .replaceable => if identifier = "" then .ok ⟨kind, pubkey, identifier⟩ else invalid
          | .addressable => .ok ⟨kind, pubkey, identifier⟩
          | .regular | .ephemeral => invalid

/-- `derive(PartialOrd, Ord)`: field by field, in declaration order. -/
def toLexTriple (address : ReplacementAddress) : Nat ×ₗ String ×ₗ String :=
  toLex (address.kind, toLex (address.pubkey, address.identifier))

theorem toLexTriple_injective : Function.Injective toLexTriple := by
  rintro ⟨k, p, i⟩ ⟨k', p', i'⟩ h
  simp only [toLexTriple, EmbeddingLike.apply_eq_iff_eq, Prod.mk.injEq] at h
  simp [h.1, h.2.1, h.2.2]

instance : LinearOrder ReplacementAddress := LinearOrder.lift' toLexTriple toLexTriple_injective

end ReplacementAddress

def Event.replacementAddress (event : Event) : Option ReplacementAddress :=
  ReplacementAddress.fromEvent event

/-- An address carries the kind and the author of its event. -/
theorem replacementAddress_author {event : Event} {address : ReplacementAddress}
    (h : event.replacementAddress = some address) :
    address.kind = event.kind ∧ address.pubkey = event.pubkey := by
  unfold Event.replacementAddress ReplacementAddress.fromEvent at h
  split at h <;> simp_all <;> subst h <;> simp

/-- Kind 5 is a regular kind: a deletion request competes on no address. -/
theorem kind_ne_five_of_address {event : Event} {address : ReplacementAddress}
    (h : event.replacementAddress = some address) : event.kind ≠ 5 := by
  intro hk
  simp [Event.replacementAddress, ReplacementAddress.fromEvent, Event.eventClass, EventClass.fromKind, hk] at h

/-- Result of comparing a stored replacement head with a candidate. -/
inductive ReplacementDecision where
  | keepCurrent
  | replaceCurrent
  | duplicate
  deriving DecidableEq, Repr

/-- NIP-01's newest-timestamp, then lexically-lowest-id rule. -/
def compareReplacementOrder (currentCreatedAt : Nat) (currentId : String)
    (candidateCreatedAt : Nat) (candidateId : String) : ReplacementDecision :=
  if currentId = candidateId then .duplicate
  else if currentCreatedAt < candidateCreatedAt then .replaceCurrent
  else if candidateCreatedAt < currentCreatedAt then .keepCurrent
  else if candidateId < currentId then .replaceCurrent
  else .keepCurrent

/-- Kinds whose tags never put them into a group. -/
def blockGlobalOnlyKinds : List Nat := [30078, 30174, 30175, 30178, 30300, 30350, 30621]

/-! ## Private market kinds -/

/-- The signed private records of the market and swap profiles (`mkt.rs`). -/
def isMktPrivateKind (kind : Nat) : Bool :=
  kind ∈ [39604, 39605, 39606, 39607, 39608, 39609, 39610, 39611, 39612, 39613, 39620, 39640, 39650]

/-- Every private market kind is addressable, so it always has a replacement address. -/
theorem mktPrivate_addressable {event : Event} (h : isMktPrivateKind event.kind = true) :
    ∃ address, event.replacementAddress = some address := by
  have hc : event.eventClass = .addressable := by
    simp only [isMktPrivateKind, List.mem_cons, List.not_mem_nil, or_false, decide_eq_true_eq] at h
    rcases h with h | h | h | h | h | h | h | h | h | h | h | h | h <;>
      simp [Event.eventClass, EventClass.fromKind, h]
  exact ⟨_, by simp [Event.replacementAddress, ReplacementAddress.fromEvent, hc]; rfl⟩

inductive MktImmutableDecision where
  | storeFirst
  | replay
  | conflict
  deriving DecidableEq, Repr

def decideMktImmutableAdmission (storedSignedEvent : Option (String × String))
    (candidateEventId candidateSignature : String) : MktImmutableDecision :=
  match storedSignedEvent with
  | none => .storeFirst
  | some (storedEventId, storedSignature) =>
    if storedEventId = candidateEventId ∧ storedSignature = candidateSignature then .replay else .conflict

end Immortal.Domain
