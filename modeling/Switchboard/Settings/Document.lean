import Switchboard.Settings
import Switchboard.Json.Shape
import Switchboard.Text.Decimal

namespace Switchboard.Settings

structure Draft where
  rMin : Option UInt32
  rMax : Option UInt32
  operators : Option UInt64
  queueSize : Option UInt64

namespace Draft

def blank : Draft := ⟨none, none, none, none⟩

def finish (d : Draft) : Option Settings := do
  some ⟨← d.rMin, ← d.rMax, ← d.operators, ← d.queueSize⟩

def readWord (s : List Char) : Except DocumentFault (UInt32 × List Char) :=
  (Json.natural UInt32.size s).map fun (n, r) => (UInt32.ofNat n, r)

def readSize (s : List Char) : Except DocumentFault (UInt64 × List Char) :=
  (Json.natural UInt64.size s).map fun (n, r) => (UInt64.ofNat n, r)

end Draft

def shape : Json.Shape Draft Settings where
  fields :=
    [ ⟨"RMin", (·.rMin.isSome), fun d s =>
        (Draft.readWord s).map fun (n, r) => ({ d with rMin := some n }, r)⟩
    , ⟨"RMax", (·.rMax.isSome), fun d s =>
        (Draft.readWord s).map fun (n, r) => ({ d with rMax := some n }, r)⟩
    , ⟨"AmountOfOperators", (·.operators.isSome), fun d s =>
        (Draft.readSize s).map fun (n, r) => ({ d with operators := some n }, r)⟩
    , ⟨"SizeOfQueue", (·.queueSize.isSome), fun d s =>
        (Draft.readSize s).map fun (n, r) => ({ d with queueSize := some n }, r)⟩ ]
  blank := .blank
  isOpen := true
  finish := Draft.finish

def ofDocument (s : List Char) : Except DocumentFault Settings :=
  Json.document shape.read s

def document (s : Settings) : List Char :=
  Json.object
    [ ("RMin", Decimal.digits s.rMin.toNat), ("RMax", Decimal.digits s.rMax.toNat)
    , ("AmountOfOperators", Decimal.digits s.operators.toNat)
    , ("SizeOfQueue", Decimal.digits s.queueSize.toNat) ]

end Switchboard.Settings
