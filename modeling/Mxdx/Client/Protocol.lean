import Mxdx.Types.Session
import Mxdx.Worker.NumberText

/-! The messages between the command line and the daemon: JSON-RPC 2.0, a message a line. -/
namespace Mxdx.Client.Protocol

open Mxdx.Types (asInt32)
open Worker (FloatText Number Text Value numerals)
open JsonText (Writable)

/-- Every message names it. -/
def jsonrpcVersion : String := "2.0"

/-- The levels that `serde_json` goes down into a text. -/
def recursionLimit : Nat := 127

/-- A line that is no message. -/
def parseError : Int32 := -32700
/-- A method that the daemon does not know. -/
def methodNotFound : Int32 := -32601
/-- Parameters that are missing or of another shape. -/
def invalidParams : Int32 := -32602
/-- A failure on the daemon's own side. -/
def internalError : Int32 := -32603
/-- A session that the daemon does not track. -/
def sessionNotFound : Int32 := -5
/-- No Matrix connection is there. -/
def matrixUnavailable : Int32 := -7

/-- An integer, not below the least `i64`, and not above the greatest `u64`. -/
def intValue (number : Int) : Value :=
  .num (if 0 ≤ number then .posInt (.ofNat number.toNat) else .negInt (.ofInt number))

/-- An `i64` of serde, from either sign. -/
def asInt64 (value : Value) : Option Int64 :=
  match value.asNum with
  | some (.posInt number) => if number.toNat < 2 ^ 63 then some (.ofNat number.toNat) else none
  | some (.negInt number) => some number
  | _ => none

/-- A caller picks its ids from the numbers or from the texts. -/
inductive RequestId where
  | number (value : Int64)
  | string (text : String)
deriving DecidableEq

namespace RequestId

/-- Nothing around the id tells which of the two it is. -/
def toValue : RequestId → Value
  | number value => intValue value.toInt
  | string text => .str text

/-- The variants carry no tag: the first that takes the value is the one. -/
def fromValue (value : Value) : Option RequestId :=
  ((asInt64 value).map number).or (value.asStr.map string)

end RequestId

/-- A call that is answered by a response with its id. -/
structure Request where
  jsonrpc : String
  id : RequestId
  method : String
  params : Option Value

/-- The answer to a call that went well. -/
structure Response where
  jsonrpc : String
  id : RequestId
  result : Value

/-- What went wrong, as a code for programs and a message for people. -/
structure RpcError where
  code : Int32
  message : String
  data : Option Value

/-- The answer to a call that did not go well. -/
structure ErrorResponse where
  jsonrpc : String
  id : RequestId
  error : RpcError

/-- A message that nobody answers. -/
structure Notification where
  jsonrpc : String
  method : String
  params : Option Value

/-- A field that is left out where it has no value. -/
def optional (name : String) (value : Option Value) : List (String × Value) :=
  (value.map (name, ·)).toList

namespace Request

/-- A call in the version that is spoken here. -/
def new (id : RequestId) (method : String) (params : Option Value) : Request :=
  ⟨jsonrpcVersion, id, method, params⟩

def toValue (request : Request) : Value :=
  .obj ([("jsonrpc", .str request.jsonrpc), ("id", request.id.toValue),
    ("method", .str request.method)] ++ optional "params" request.params)

/-- Of a sequence the last may be missing. -/
def fromValue : Value → Option Request :=
  Json.asRecord ["jsonrpc", "id", "method", "params"] 3 fun field => do
    let jsonrpc ← Json.required Json.asStr (field "jsonrpc")
    let id ← Json.required RequestId.fromValue (field "id")
    let method ← Json.required Json.asStr (field "method")
    let params ← Json.nullable some (field "params")
    return ⟨jsonrpc, id, method, params⟩

end Request

namespace Response

/-- An answer in the version that is spoken here. -/
def new (id : RequestId) (result : Value) : Response := ⟨jsonrpcVersion, id, result⟩

def toValue (response : Response) : Value :=
  .obj [("jsonrpc", .str response.jsonrpc), ("id", response.id.toValue),
    ("result", response.result)]

def fromValue : Value → Option Response :=
  Json.asRecord ["jsonrpc", "id", "result"] 3 fun field => do
    let jsonrpc ← Json.required Json.asStr (field "jsonrpc")
    let id ← Json.required RequestId.fromValue (field "id")
    let result ← field "result"
    return ⟨jsonrpc, id, result⟩

end Response

namespace RpcError

def toValue (error : RpcError) : Value :=
  .obj ([("code", intValue error.code.toInt), ("message", .str error.message)] ++
    optional "data" error.data)

def fromValue : Value → Option RpcError :=
  Json.asRecord ["code", "message", "data"] 2 fun field => do
    let code ← Json.required asInt32 (field "code")
    let message ← Json.required Json.asStr (field "message")
    let data ← Json.nullable some (field "data")
    return ⟨code, message, data⟩

end RpcError

namespace ErrorResponse

def new (id : RequestId) (code : Int32) (message : String) : ErrorResponse :=
  ⟨jsonrpcVersion, id, code, message, none⟩

def toValue (response : ErrorResponse) : Value :=
  .obj [("jsonrpc", .str response.jsonrpc), ("id", response.id.toValue),
    ("error", response.error.toValue)]

def fromValue : Value → Option ErrorResponse :=
  Json.asRecord ["jsonrpc", "id", "error"] 3 fun field => do
    let jsonrpc ← Json.required Json.asStr (field "jsonrpc")
    let id ← Json.required RequestId.fromValue (field "id")
    let error ← Json.required RpcError.fromValue (field "error")
    return ⟨jsonrpc, id, error⟩

end ErrorResponse

namespace Notification

def new (method : String) (params : Option Value) : Notification :=
  ⟨jsonrpcVersion, method, params⟩

def toValue (notification : Notification) : Value :=
  .obj ([("jsonrpc", .str notification.jsonrpc), ("method", .str notification.method)] ++
    optional "params" notification.params)

def fromValue : Value → Option Notification :=
  Json.asRecord ["jsonrpc", "method", "params"] 2 fun field => do
    let jsonrpc ← Json.required Json.asStr (field "jsonrpc")
    let method ← Json.required Json.asStr (field "method")
    let params ← Json.nullable some (field "params")
    return ⟨jsonrpc, method, params⟩

end Notification

/-- What a line may bring to the daemon. -/
inductive IncomingMessage where
  | request (request : Request)
  | notification (notification : Notification)

section Text

variable (floats : FloatText)

/-- `serde_json::to_string`. -/
def toText (value : Value) : Text := JsonText.write (numerals floats) value

/-- `serde_json::from_str`. -/
def fromText (text : Text) : Option Value := JsonText.parse (numerals floats) recursionLimit text

/-- A message with an id is a request, whatever the id is. -/
def IncomingMessage.parse (json : Text) : Option IncomingMessage :=
  match fromText floats json with
  | none => none
  | some value =>
      if (value.get? "id").isSome then (Request.fromValue value).map .request
      else (Notification.fromValue value).map .notification

end Text

section RoundTrip

variable {floats : FloatText} {depth : Nat}

/-- An integer of this range has a text that is read back. -/
theorem writable_intValue {number : Int} (h : -2 ^ 63 ≤ number) :
    Writable (numerals floats) depth (intValue number) := by
  rw [intValue]
  refine .num ?_
  split
  · exact Worker.kept_posInt floats _
  · refine Worker.kept_negInt floats ?_
    rw [Int64.toInt_ofInt_of_le h (by omega)]
    omega

/-- An `i64` is read back whichever sign it is written with. -/
theorem asInt64_intValue (value : Int64) : asInt64 (intValue value.toInt) = some value := by
  have hLeast := value.le_toInt
  have hMost := value.toInt_lt
  rw [intValue, asInt64]
  by_cases hSign : 0 ≤ value.toInt
  · have hSmall : value.toInt.toNat < 2 ^ 64 := by omega
    have hBack : Int64.ofNat value.toInt.toNat = value := by
      rw [← Int64.ofInt_eq_ofNat, Int.toNat_of_nonneg hSign, Int64.ofInt_toInt]
    simp only [if_pos hSign, Json.asNum, UInt64.toNat_ofNat_of_lt' hSmall]
    rw [if_pos (by omega), hBack]
  · simp only [if_neg hSign, Json.asNum, Int64.ofInt_toInt]

/-- A number and a text are never taken for one another. -/
@[simp] theorem RequestId.fromValue_toValue (id : RequestId) :
    RequestId.fromValue id.toValue = some id := by
  cases id with
  | number value => rw [toValue, fromValue, asInt64_intValue]; rfl
  | string text => rfl

/-- What a message carries is of a depth that leaves room for the message around it. -/
def Carried (floats : FloatText) (value : Value) : Prop :=
  Writable (numerals floats) (recursionLimit - 1) value

/-- A value that is not too deep is read back from its text. -/
theorem fromText_toText {value : Value} (h : Writable (numerals floats) recursionLimit value) :
    fromText floats (toText floats value) = some value :=
  JsonText.parse_write h

/-- What fits into so many levels fits into more. -/
theorem Writable.more {value : Value} (h : Writable (numerals floats) depth value) :
    Writable (numerals floats) (depth + 1) value := by
  induction h with
  | null => exact .null
  | bool flag => exact .bool flag
  | num h => exact .num h
  | str text => exact .str text
  | arr h ih => exact .arr ih
  | obj hNames h ih => exact .obj hNames ih

/-- A null counts as no params. -/
theorem Request.fromValue_toValue (request : Request) :
    fromValue request.toValue =
      some { request with params := request.params.filter (!·.isNull) } := by
  obtain ⟨jsonrpc, id, method, params⟩ := request
  cases params with
  | none => simp [toValue, fromValue, optional, Json.asRecord, Json.required, Json.nullable,
      Json.asStr, List.lookup_cons, List.lookup_nil]
  | some value =>
      cases hNull : value.isNull <;>
        simp [toValue, fromValue, optional, Json.asRecord, Json.required, Json.nullable,
          Json.asStr, List.lookup_cons, hNull, Option.filter_some]

/-- A response is read as what it was written from. -/
theorem Response.fromValue_toValue (response : Response) :
    fromValue response.toValue = some response := by
  simp [toValue, fromValue, Json.asRecord, Json.required, Json.asStr, List.lookup_cons]

/-- An error code is read back whichever sign it is written with. -/
theorem asInt32_intValue (value : Int32) : asInt32 (intValue value.toInt) = some value := by
  have hLeast := value.le_toInt
  have hMost := value.toInt_lt
  rw [intValue, asInt32]
  by_cases hSign : 0 ≤ value.toInt
  · have hSmall : value.toInt.toNat < 2 ^ 64 := by omega
    have hFits : UInt64.ofNat value.toInt.toNat ≤ 2147483647 := by
      rw [UInt64.le_iff_toNat_le, UInt64.toNat_ofNat_of_lt' hSmall]
      show value.toInt.toNat ≤ 2147483647
      omega
    have hBack : Int32.ofNat value.toInt.toNat = value := by
      rw [← Int32.ofInt_eq_ofNat, Int.toNat_of_nonneg hSign, Int32.ofInt_toInt]
    simp only [if_pos hSign, Json.asNum, if_pos hFits, UInt64.toNat_ofNat_of_lt' hSmall, hBack]
  · have hFits : -2147483648 ≤ Int64.ofInt value.toInt := by
      rw [Int64.le_iff_toInt_le, Int64.toInt_ofInt_of_le (by omega) (by omega)]
      exact hLeast
    simp only [if_neg hSign, Json.asNum, if_pos hFits, Int64.toInt32_ofInt, Int32.ofInt_toInt]

/-- An error without data, as the daemon makes them, is read as what it was written from. -/
theorem ErrorResponse.fromValue_toValue (response : ErrorResponse)
    (h : response.error.data = none) :
    fromValue response.toValue = some response := by
  obtain ⟨jsonrpc, id, code, message, data⟩ := response
  obtain rfl : data = none := h
  simp [toValue, fromValue, RpcError.toValue, RpcError.fromValue, optional, Json.asRecord,
    Json.required, Json.nullable, Json.asStr, List.lookup_cons, List.lookup_nil, asInt32_intValue]

end RoundTrip

end Mxdx.Client.Protocol
