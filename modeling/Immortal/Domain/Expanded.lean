import Immortal.Domain.Deletion
import Immortal.Domain.Filter

/-!
# `Immortal.Domain.Expanded` — the extension rules of an event

`validate_expanded_event` of `domain/expanded.rs`: what the relay demands of an event beyond its NIP-01 shape. The
rules look at group tags (NIP-29), group actions, gift wraps, relay lists, server lists and file metadata; an event of
any other kind without an `h` tag passes. `validate_structure` is the NIP-01 shape followed by these rules.
-/

namespace Immortal.Domain

/-! ## Text shapes -/

/-- Fail with the reason when the condition holds. -/
def invalidIf (bad : Bool) (reason : String) : Except DomainError Unit :=
  if bad then .error (.invalidEvent reason) else .ok ()

/-- `strip_prefix`. -/
def stripStart (start text : String) : Option (List Char) :=
  if start.toList.isPrefixOf text.toList then some (text.toList.drop start.toList.length) else none

def startsWith (start text : String) : Bool := start.toList.isPrefixOf text.toList

def asciiAlphanumeric (c : Char) : Bool :=
  ('0' ≤ c && c ≤ '9') || ('a' ≤ c && c ≤ 'z') || ('A' ≤ c && c ≤ 'Z')

def mediaTypeByte (c : Char) : Bool :=
  asciiAlphanumeric c || c ∈ ['!', '#', '$', '&', '^', '_', '.', '+', '-']

/-- The text in front of the first slash and the text behind it, when there is one. -/
def splitSlash (cs : List Char) : Option (List Char × List Char) :=
  match cs.dropWhile (· ≠ '/') with
  | [] => none
  | _ :: after => some (cs.takeWhile (· ≠ '/'), after)

def validMediaType (value : String) : Bool :=
  value ≠ "" && value.utf8ByteSize ≤ 127 && value.toList.all (fun c => !('A' ≤ c && c ≤ 'Z')) &&
    (splitSlash value.toList).any fun (top, subtype) =>
      top ≠ [] && subtype ≠ [] && top.all mediaTypeByte && subtype.all mediaTypeByte

def validHttpUrl (value : String) : Bool :=
  match (stripStart "http://" value).or (stripStart "https://" value) with
  | none => false
  | some rest =>
    let authority := rest.takeWhile (fun c => c ∉ ['/', '?', '#'])
    authority ≠ [] && value.utf8ByteSize ≤ 2048 && !value.toList.any isWhitespace

/-- A WebSocket address without white space. -/
def validRelayUrl (value : String) : Bool :=
  (startsWith "ws://" value || startsWith "wss://" value) && value.utf8ByteSize ≤ 2048 &&
    !value.toList.any isWhitespace

def maxGroupIdBytes : Nat := 128

/-- One reference of a `previous` tag: the first eight digits of an id. -/
def previousReference (value : String) : Bool :=
  value.utf8ByteSize == 8 && value.toList.all (fun c => ('0' ≤ c && c ≤ '9') || ('a' ≤ c && c ≤ 'f'))

/-! ## The rules -/

/-- The `h` tags that put the event into a group. -/
def Event.groupTags (event : Event) : List Tag :=
  event.tags.filter fun tag => !blockGlobalOnlyKinds.contains event.kind && tag.name = some "h"

def validateGroupTags (event : Event) : Except DomainError Unit := do
  let groupTags := event.groupTags
  if groupTags ≠ [] then
    invalidIf (groupTags.length ≠ 1) "NIP-29 events require exactly one h tag"
    let group := (groupTags.head?.bind Tag.value).getD ""
    invalidIf (group = "" || maxGroupIdBytes < group.utf8ByteSize) "group id must contain 1 to 128 bytes"
  invalidIf (9000 ≤ event.kind && event.kind ≤ 9022 && groupTags = []) "NIP-29 management events require an h tag"
  if groupTags ≠ [] then
    let previous := event.tags.filter fun tag => tag.name = some "previous"
    invalidIf (previous.any fun tag => tag.length < 2 || (tag.drop 1).any (fun value => !previousReference value))
      "NIP-29 previous references must be 8 lowercase hexadecimal characters"

def validateGroupAction (event : Event) : Except DomainError Unit := do
  match ← GroupAction.fromEvent event with
  | some (.createInvite code) =>
    invalidIf (256 < code.utf8ByteSize) "group invite code must contain at most 256 bytes"
  | _ => pure ()

def validateGiftWrap (event : Event) : Except DomainError Unit := do
  if event.kind = 1059 then
    let recipients := event.tagValues "p"
    invalidIf (recipients.length ≠ 1) "gift wraps require exactly one p-tagged recipient"
    let _ ← decodeLowerHex 32 (recipients.headD "") "gift wrap recipient"

/-- Kinds 10050 and 10002 list relays, kind 10063 lists servers. -/
def validateLists (event : Event) : Except DomainError Unit := do
  if event.kind = 10050 then
    let relays := event.tagValues "relay"
    invalidIf (relays = [] || relays.any (fun relay => !validRelayUrl relay))
      "kind 10050 requires valid ws:// or wss:// relay tags"
  if event.kind = 10002 then
    let relays := event.tags.filter fun tag => tag.name = some "r"
    invalidIf (relays = [] || relays.any fun tag =>
        tag.length < 2 || 3 < tag.length || !tag.value.any validRelayUrl ||
          (tag[2]?).any (fun marker => marker ≠ "read" && marker ≠ "write"))
      "kind 10002 requires valid r relay tags and read/write markers"
  if event.kind = 10063 then
    let servers := event.tagValues "server"
    invalidIf (servers = [] || servers.any (fun server => !validHttpUrl server))
      "kind 10063 requires valid http:// or https:// server tags"

def validateFileMetadata (event : Event) : Except DomainError Unit := do
  if event.kind = 1063 then
    let url := (← exactlyOne event "url").value.getD ""
    invalidIf (!validHttpUrl url) "kind 1063 requires one valid HTTP url tag"
    let mediaType := (← exactlyOne event "m").value.getD ""
    invalidIf (!validMediaType mediaType) "kind 1063 requires one lowercase MIME type tag"
    let sha256 := (← exactlyOne event "x").value.getD ""
    let _ ← decodeLowerHex 32 sha256 "file metadata hash"
    let sizes := event.tagValues "size"
    invalidIf (1 < sizes.length || sizes.head?.any (fun size => (parseUnsigned u64Max size).isNone))
      "kind 1063 size tag must be one unsigned integer"

def validateExpandedEvent (event : Event) : Except DomainError Unit := do
  validateGroupTags event
  validateGroupAction event
  validateGiftWrap event
  validateLists event
  validateFileMetadata event

/-- The NIP-01 shape and every extension rule. -/
def Event.validateStructure (event : Event) : Except DomainError Unit := do
  event.validateNip01Structure
  validateExpandedEvent event

example : validateExpandedEvent ⟨"", "", 0, 1, [["t", "a"]], "", ""⟩ = .ok () := by decide

end Immortal.Domain
