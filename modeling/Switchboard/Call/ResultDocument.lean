import Switchboard.Call.Result
import Switchboard.Json.Shape
import Switchboard.Text.Decimal

namespace Switchboard

namespace CallStatus

def ofText (s : List Char) : Except DocumentFault (CallStatus × List Char) := do
  let (name, r) ← Json.text s
  match ofName? (String.ofList name) with
  | some status => .ok (status, r)
  | none => .error .misshapen

def read : Json.Scan CallStatus := fun s =>
  match Json.skipBlank s with
  | [] => .error .cutShort
  | '"' :: r => ofText r
  | '{' :: r => do
    let (status, r) ← match Json.skipBlank r with
      | [] => .error .cutShort
      | '"' :: r => ofText r
      | _ => .error .malformed
    let r ← match Json.skipBlank (← Json.Shape.colon r) with
      | [] => .error .cutShort
      | 'n' :: r => Json.word "ull".toList r
      | r => .error (Json.misfit r)
    match Json.skipBlank r with
    | [] => .error .cutShort
    | '}' :: r => .ok (status, r)
    | _ => .error .malformed
  | _ => .error .malformed

def document (s : CallStatus) : List Char := Json.quoted s.name.toList

end CallStatus

namespace Duration

structure Draft where
  secs : Option Nat
  nanos : Option Nat

def Draft.finish (d : Draft) : Option Duration := do
  ofNanos? ((← d.secs) * second + (← d.nanos))

def shape : Json.Shape Draft Duration where
  fields :=
    [ ⟨"secs", (·.secs.isSome), fun d s =>
        (Json.natural UInt64.size s).map fun (n, r) => ({ d with secs := some n }, r)⟩
    , ⟨"nanos", (·.nanos.isSome), fun d s =>
        (Json.natural UInt32.size s).map fun (n, r) => ({ d with nanos := some n }, r)⟩ ]
  blank := ⟨none, none⟩
  isOpen := false
  finish := Draft.finish

def document (d : Duration) : List Char :=
  Json.object
    [("secs", Decimal.digits d.seconds), ("nanos", Decimal.digits d.subsecond)]

end Duration

namespace CallResult

structure Draft where
  status : Option CallStatus
  duration : Option Duration
  callId : Option CallId

def Draft.finish (d : Draft) : Option CallResult := do
  some ⟨← d.status, ← d.duration, ← d.callId⟩

def shape : Json.Shape Draft CallResult where
  fields :=
    [ ⟨"status", (·.status.isSome), fun d s =>
        (CallStatus.read s).map fun (v, r) => ({ d with status := some v }, r)⟩
    , ⟨"call_duration", (·.duration.isSome), fun d s =>
        (Duration.shape.read s).map fun (v, r) => ({ d with duration := some v }, r)⟩
    , ⟨"call_id", (·.callId.isSome), fun d s =>
        (Json.natural UInt64.size s).map fun (n, r) =>
          ({ d with callId := some (UInt64.ofNat n) }, r)⟩ ]
  blank := ⟨none, none, none⟩
  isOpen := true
  finish := Draft.finish

def ofDocument (s : List Char) : Except DocumentFault CallResult :=
  Json.document shape.read s

def document (r : CallResult) : List Char :=
  Json.object
    [ ("status", r.status.document), ("call_duration", r.duration.document)
    , ("call_id", Decimal.digits r.callId.toNat) ]

end CallResult

end Switchboard
