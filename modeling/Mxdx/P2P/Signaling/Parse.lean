import Mxdx.P2P.Signaling.Events
import Mxdx.Types.Session
import Mathlib.Algebra.Group.Nat.Defs

/-! The wire form of `m.call.*` events: the contents as the derived serializers
write them, and the parser that goes by the event type. The texts of serde's own
errors are a parameter. -/
namespace Mxdx.P2P

open Worker (Value Number asUInt64)

/-- A field that is skipped when it is `None`. -/
def skipNone (name : String) (value : Option Value) : List (String × Value) :=
  value.toList.map (name, ·)

/-- An unsigned number as serde writes it. -/
def natValue (number : Nat) : Value := .num (.posInt (.ofNat number))

/-- A `u64` of serde. -/
def asU64 (value : Value) : Option Nat := (asUInt64 value).map UInt64.toNat

/-- A `u32` of serde. -/
def asU32 (value : Value) : Option Nat := (Types.asUInt32 value).map UInt32.toNat

/-- A number that fits its type is read back. -/
theorem asU64_natValue {number : Nat} (h : number < 2 ^ 64) :
    asU64 (natValue number) = some number := by
  simp [asU64, asUInt64, natValue, Json.asNum, UInt64.toNat_ofNat_of_lt' h]

/-- A number that fits its type is read back. -/
theorem asU32_natValue {number : Nat} (h : number < 2 ^ 32) :
    asU32 (natValue number) = some number := by
  have hWide : number < 2 ^ 64 := by omega
  have hLe : UInt64.ofNat number ≤ 4294967295 := by
    rw [UInt64.le_iff_toNat_le, UInt64.toNat_ofNat_of_lt' hWide]
    exact Nat.le_of_lt_succ h
  simp [asU32, Types.asUInt32, asUInt64, natValue, Json.asNum, hLe]
  omega

/-- A field is found under its own name alone, and not at all where it is skipped. -/
@[simp] theorem lookup_skipNone (name other : String) (value : Option Value) :
    (skipNone name value).lookup other = if other = name then value else none := by
  cases value with
  | none => simp [skipNone]
  | some value =>
      by_cases hName : other = name
      · simp [skipNone, hName]
      · rw [if_neg hName, skipNone, List.lookup_eq_none_iff]
        simpa using hName

namespace CallSdpField

/-- The kind goes by the name `type`. -/
def toValue (field : CallSdpField) : Value :=
  .obj [("type", .str field.kind), ("sdp", .str field.sdp)]

def fromValue : Value → Option CallSdpField :=
  Json.asRecord ["type", "sdp"] 2 fun field => do
    let kind ← Json.required Json.asStr (field "type")
    let sdp ← Json.required Json.asStr (field "sdp")
    return ⟨kind, sdp⟩

@[simp] theorem fromValue_toValue (field : CallSdpField) : fromValue field.toValue = some field :=
  rfl

end CallSdpField

namespace CallIceCandidate

/-- The browser's names of the fields, in camel case. -/
def toValue (candidate : CallIceCandidate) : Value :=
  .obj (("candidate", .str candidate.candidate) ::
    (skipNone "sdpMid" (candidate.sdpMid.map .str) ++
      skipNone "sdpMLineIndex" (candidate.sdpMlineIndex.map natValue)))

/-- Of the three only the candidate itself has to be there. -/
def fromValue : Value → Option CallIceCandidate :=
  Json.asRecord ["candidate", "sdpMid", "sdpMLineIndex"] 1 fun field => do
    let candidate ← Json.required Json.asStr (field "candidate")
    let sdpMid ← Json.nullable Json.asStr (field "sdpMid")
    let sdpMlineIndex ← Json.nullable asU32 (field "sdpMLineIndex")
    return ⟨candidate, sdpMid, sdpMlineIndex⟩

/-- The index is a `u32`. -/
def Fits (candidate : CallIceCandidate) : Prop :=
  ∀ index, candidate.sdpMlineIndex = some index → index < 2 ^ 32

/-- Whichever of the optional fields are there. -/
theorem fromValue_toValue {candidate : CallIceCandidate} (h : candidate.Fits) :
    fromValue candidate.toValue = some candidate := by
  have hIndex : Json.nullable asU32 (candidate.sdpMlineIndex.map natValue) =
      some candidate.sdpMlineIndex :=
    Json.nullable_map (fun index hIndex => asU32_natValue (h index hIndex)) fun _ => rfl
  simp [fromValue, toValue, Json.asRecord, Json.required, Json.asStr, List.lookup_append,
    List.lookup_cons, hIndex]

end CallIceCandidate

namespace CallInvite

/-- The session key and the session are fields of mxdx that other clients pass over. -/
def toValue (invite : CallInvite) : Value :=
  .obj ([("call_id", .str invite.callId), ("party_id", .str invite.partyId),
      ("version", .str invite.version), ("lifetime", natValue invite.lifetime),
      ("offer", invite.offer.toValue)] ++
    (skipNone "mxdx_session_key" (invite.mxdxSessionKey.map .str) ++
      skipNone "session_uuid" (invite.sessionUuid.map .str)))

/-- A call of another client, without the fields of mxdx, is an invite too. -/
def fromValue : Value → Option CallInvite :=
  Json.asRecord ["call_id", "party_id", "version", "lifetime", "offer", "mxdx_session_key",
      "session_uuid"] 5 fun field => do
    let callId ← Json.required Json.asStr (field "call_id")
    let partyId ← Json.required Json.asStr (field "party_id")
    let version ← Json.required Json.asStr (field "version")
    let lifetime ← Json.required asU64 (field "lifetime")
    let offer ← Json.required CallSdpField.fromValue (field "offer")
    let mxdxSessionKey ← Json.nullable Json.asStr (field "mxdx_session_key")
    let sessionUuid ← Json.nullable Json.asStr (field "session_uuid")
    return ⟨callId, partyId, version, lifetime, offer, mxdxSessionKey, sessionUuid⟩

/-- The lifetime is a `u64`. -/
def Fits (invite : CallInvite) : Prop := invite.lifetime < 2 ^ 64

/-- Whichever of the optional fields are there. -/
theorem fromValue_toValue {invite : CallInvite} (h : invite.Fits) :
    fromValue invite.toValue = some invite := by
  have hLifetime : asU64 (natValue invite.lifetime) = some invite.lifetime := asU64_natValue h
  simp [fromValue, toValue, Json.asRecord, Json.required, Json.asStr, List.lookup_append,
    List.lookup_cons, hLifetime]

end CallInvite

namespace CallAnswer

def toValue (answer : CallAnswer) : Value :=
  .obj [("call_id", .str answer.callId), ("party_id", .str answer.partyId),
    ("version", .str answer.version), ("answer", answer.answer.toValue)]

def fromValue : Value → Option CallAnswer :=
  Json.asRecord ["call_id", "party_id", "version", "answer"] 4 fun field => do
    let callId ← Json.required Json.asStr (field "call_id")
    let partyId ← Json.required Json.asStr (field "party_id")
    let version ← Json.required Json.asStr (field "version")
    let answer ← Json.required CallSdpField.fromValue (field "answer")
    return ⟨callId, partyId, version, answer⟩

theorem fromValue_toValue (answer : CallAnswer) : fromValue answer.toValue = some answer := rfl

end CallAnswer

namespace CallCandidates

def toValue (batch : CallCandidates) : Value :=
  .obj [("call_id", .str batch.callId), ("party_id", .str batch.partyId),
    ("version", .str batch.version),
    ("candidates", .arr (batch.candidates.map CallIceCandidate.toValue))]

/-- One candidate that cannot be read spoils the batch. -/
def fromValue : Value → Option CallCandidates :=
  Json.asRecord ["call_id", "party_id", "version", "candidates"] 4 fun field => do
    let callId ← Json.required Json.asStr (field "call_id")
    let partyId ← Json.required Json.asStr (field "party_id")
    let version ← Json.required Json.asStr (field "version")
    let candidates ←
      Json.required (Json.asList CallIceCandidate.fromValue) (field "candidates")
    return ⟨callId, partyId, version, candidates⟩

/-- Every index is a `u32`. -/
def Fits (batch : CallCandidates) : Prop := ∀ candidate ∈ batch.candidates, candidate.Fits

/-- A batch is read as what it was written from, candidate by candidate. -/
theorem fromValue_toValue {batch : CallCandidates} (h : batch.Fits) :
    fromValue batch.toValue = some batch := by
  have hCandidates : Json.asList CallIceCandidate.fromValue
      (.arr (batch.candidates.map CallIceCandidate.toValue)) = some batch.candidates :=
    Json.asList_arr fun candidate hMem => CallIceCandidate.fromValue_toValue (h candidate hMem)
  simp [fromValue, toValue, Json.asRecord, Json.required, Json.asStr, List.lookup_cons,
    hCandidates]

end CallCandidates

namespace CallHangup

def toValue (hangup : CallHangup) : Value :=
  .obj ([("call_id", .str hangup.callId), ("party_id", .str hangup.partyId),
    ("version", .str hangup.version)] ++ skipNone "reason" (hangup.reason.map .str))

/-- The reason may be missing. -/
def fromValue : Value → Option CallHangup :=
  Json.asRecord ["call_id", "party_id", "version", "reason"] 3 fun field => do
    let callId ← Json.required Json.asStr (field "call_id")
    let partyId ← Json.required Json.asStr (field "party_id")
    let version ← Json.required Json.asStr (field "version")
    let reason ← Json.nullable Json.asStr (field "reason")
    return ⟨callId, partyId, version, reason⟩

theorem fromValue_toValue (hangup : CallHangup) : fromValue hangup.toValue = some hangup := by
  simp [fromValue, toValue, Json.asRecord, Json.required, Json.asStr, List.lookup_cons]

end CallHangup

namespace CallSelectAnswer

def toValue (select : CallSelectAnswer) : Value :=
  .obj [("call_id", .str select.callId), ("party_id", .str select.partyId),
    ("version", .str select.version), ("selected_party_id", .str select.selectedPartyId)]

def fromValue : Value → Option CallSelectAnswer :=
  Json.asRecord ["call_id", "party_id", "version", "selected_party_id"] 4 fun field => do
    let callId ← Json.required Json.asStr (field "call_id")
    let partyId ← Json.required Json.asStr (field "party_id")
    let version ← Json.required Json.asStr (field "version")
    let selectedPartyId ← Json.required Json.asStr (field "selected_party_id")
    return ⟨callId, partyId, version, selectedPartyId⟩

theorem fromValue_toValue (select : CallSelectAnswer) : fromValue select.toValue = some select :=
  rfl

end CallSelectAnswer

/-- Why an event is none that the signaling can use. -/
inductive ParseError where
  | invalidJson (reason : String)
  | notACallEvent (eventType : String)
  | invalidContent (eventType reason : String)
deriving DecidableEq

namespace ParsedCallEvent

/-- The type an event is sent under, which an unknown one keeps. -/
def eventType : ParsedCallEvent → String
  | .invite _ => "m.call.invite"
  | .answer _ => "m.call.answer"
  | .candidates _ => "m.call.candidates"
  | .hangup _ => "m.call.hangup"
  | .selectAnswer _ => "m.call.select_answer"
  | .unknown eventType => eventType

/-- The content as it is serialised; unknown events carry none. -/
def content? : ParsedCallEvent → Option Value
  | .invite content => some content.toValue
  | .answer content => some content.toValue
  | .candidates content => some content.toValue
  | .hangup content => some content.toValue
  | .selectAnswer content => some content.toValue
  | .unknown _ => none

/-- Its numbers fit their types. -/
def Fits : ParsedCallEvent → Prop
  | .invite content => content.Fits
  | .candidates content => content.Fits
  | .answer _ | .hangup _ | .selectAnswer _ | .unknown _ => True

end ParsedCallEvent

/-- Every `m.call.` event counts, also of a kind that is not known. -/
def isCallEvent (eventType : String) : Bool := "m.call.".toList.isPrefixOf eventType.toList

section Parser

variable (serdeError : String → Value → String) (fromStr : String → Except String Value)

/-- `deserialize`: serde's error is reported with the event type. -/
def deserialize {α : Type} (read : Value → Option α) (content : Value) (eventType : String) :
    Except ParseError α :=
  match read content with
  | some value => .ok value
  | none => .error (.invalidContent eventType (serdeError eventType content))

/-- A call event of a kind that is not known is no error. -/
def parseContent (eventType : String) (content : Value) : Except ParseError ParsedCallEvent :=
  if isCallEvent eventType then
    match eventType with
    | "m.call.invite" =>
        (deserialize serdeError CallInvite.fromValue content eventType).map .invite
    | "m.call.answer" =>
        (deserialize serdeError CallAnswer.fromValue content eventType).map .answer
    | "m.call.candidates" =>
        (deserialize serdeError CallCandidates.fromValue content eventType).map .candidates
    | "m.call.hangup" =>
        (deserialize serdeError CallHangup.fromValue content eventType).map .hangup
    | "m.call.select_answer" =>
        (deserialize serdeError CallSelectAnswer.fromValue content eventType).map .selectAnswer
    | other => .ok (.unknown other)
  else .error (.notACallEvent eventType)

/-- The type decides before the content is looked at, which a missing content does not stop. -/
def parseValue (event : Value) : Except ParseError ParsedCallEvent :=
  match (event.get? "type").bind Json.asStr with
  | none => .error (.invalidContent "<unknown>" "event envelope missing `type` field")
  | some eventType =>
      if isCallEvent eventType then
        parseContent serdeError eventType ((event.get? "content").getD .null)
      else .error (.notACallEvent eventType)

/-- The parser's way in: the text of a whole event. -/
def parseEvent (json : String) : Except ParseError ParsedCallEvent :=
  match fromStr json with
  | .error reason => .error (.invalidJson reason)
  | .ok value => parseValue serdeError value

/-- A content that is read becomes an event of its kind. -/
theorem deserialize_map_eq_ok {α : Type} {read : Value → Option α} {content : Value}
    {eventType : String} {value : α} (wrap : α → ParsedCallEvent) (h : read content = some value) :
    (deserialize serdeError read content eventType).map wrap = .ok (wrap value) := by
  rw [deserialize, h]
  rfl

/-- Every event with a content of its own is of a known type. -/
theorem isCallEvent_eventType {event : ParsedCallEvent} {content : Value}
    (hContent : event.content? = some content) : isCallEvent event.eventType = true := by
  cases event with
  | invite => exact (by decide : isCallEvent "m.call.invite" = true)
  | answer => exact (by decide : isCallEvent "m.call.answer" = true)
  | candidates => exact (by decide : isCallEvent "m.call.candidates" = true)
  | hangup => exact (by decide : isCallEvent "m.call.hangup" = true)
  | selectAnswer => exact (by decide : isCallEvent "m.call.select_answer" = true)
  | unknown eventType => cases hContent

/-- The content of an event, parsed under its own type, is the event again. -/
theorem parseContent_of_content {event : ParsedCallEvent} {content : Value}
    (hContent : event.content? = some content) (hFits : event.Fits) :
    parseContent serdeError event.eventType content = .ok event := by
  unfold parseContent
  rw [if_pos (isCallEvent_eventType hContent)]
  cases event with
  | invite invite =>
      obtain rfl := Option.some.inj hContent
      exact deserialize_map_eq_ok serdeError .invite (CallInvite.fromValue_toValue hFits)
  | answer answer =>
      obtain rfl := Option.some.inj hContent
      exact deserialize_map_eq_ok serdeError .answer answer.fromValue_toValue
  | candidates batch =>
      obtain rfl := Option.some.inj hContent
      exact deserialize_map_eq_ok serdeError .candidates (CallCandidates.fromValue_toValue hFits)
  | hangup hangup =>
      obtain rfl := Option.some.inj hContent
      exact deserialize_map_eq_ok serdeError .hangup hangup.fromValue_toValue
  | selectAnswer select =>
      obtain rfl := Option.some.inj hContent
      exact deserialize_map_eq_ok serdeError .selectAnswer select.fromValue_toValue
  | unknown eventType => cases hContent

/-- What is parsed has the type it was parsed as. -/
theorem eventType_of_parseContent {eventType : String} {content : Value} {event : ParsedCallEvent}
    (h : parseContent serdeError eventType content = .ok event) : event.eventType = eventType := by
  have hMap : ∀ {α : Type} {result : Except ParseError α} {wrap : α → ParsedCallEvent}
      {name : String}, (∀ value, (wrap value).eventType = name) → result.map wrap = .ok event →
      event.eventType = name := by
    intro α result wrap name hWrap hResult
    cases result with
    | error error => cases hResult
    | ok value =>
        cases hResult
        exact hWrap value
  unfold parseContent at h
  split at h
  · split at h
    · exact hMap (fun _ => rfl) h
    · exact hMap (fun _ => rfl) h
    · exact hMap (fun _ => rfl) h
    · exact hMap (fun _ => rfl) h
    · exact hMap (fun _ => rfl) h
    · cases h
      rfl
  · cases h

/-- The round trip: the content of an event, parsed under its type, or inside any event
object of that type, or from a text that reads as one, is the event again. -/
theorem parse_serialised {event : ParsedCallEvent} {content : Value}
    (hContent : event.content? = some content) (hFits : event.Fits) :
    parseContent serdeError event.eventType content = .ok event ∧
      ∀ envelope : Value, envelope.get? "type" = some (.str event.eventType) →
        envelope.get? "content" = some content →
        parseValue serdeError envelope = .ok event ∧
          ∀ json, fromStr json = .ok envelope →
            parseEvent serdeError fromStr json = .ok event := by
  have hParsed := parseContent_of_content serdeError hContent hFits
  refine ⟨hParsed, fun envelope hType hInner => ?_⟩
  have hValue : parseValue serdeError envelope = .ok event := by
    rw [parseValue, hType, hInner]
    change (if isCallEvent event.eventType then _ else _) = _
    rw [if_pos (isCallEvent_eventType hContent)]
    exact hParsed
  refine ⟨hValue, fun json hJson => ?_⟩
  rw [parseEvent, hJson]
  exact hValue

/-- Two candidates, each without one of the optional fields. -/
theorem parse_serialised_candidates :
    let serdeError : String → Value → String := fun _ _ => ""
    let batch : CallCandidates :=
      ⟨"c1", "p1", "1", [⟨"candidate:1", none, some 0⟩, ⟨"candidate:2", some "0", none⟩]⟩
    parseContent serdeError "m.call.candidates" batch.toValue = .ok (.candidates batch) := by
  intro serdeError batch
  have hContent : (ParsedCallEvent.candidates batch).content? = some batch.toValue := rfl
  have hFits : (ParsedCallEvent.candidates batch).Fits := by
    intro candidate hMem index hIndex
    rcases List.mem_pair.mp hMem with rfl | rfl <;> cases hIndex
    decide
  exact (parse_serialised serdeError (fun _ => .error "") hContent hFits).1

end Parser

end Mxdx.P2P
