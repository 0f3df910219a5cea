import Switchboard.Json.Scan

/-! Numbers of a JSON document. One without fraction and exponent that fits 64 bits is a natural
number; all others are approximated by doubles, and one beyond the largest double is a fault. -/

namespace Switchboard.Json

structure Numeral where
  negative : Bool
  whole : List Char
  fraction : List Char
  exponent : Option (Bool × List Char)

namespace Numeral

def run (atEnd : DocumentFault) (s : List Char) : Except DocumentFault (List Char × List Char) :=
  match s.span Char.isDigit with
  | ([], []) => .error atEnd
  | ([], _ :: _) => .error .malformed
  | (ds, r) => .ok (ds, r)

def wholePart (atEnd : DocumentFault) (s : List Char) :
    Except DocumentFault (List Char × List Char) := do
  let (ds, r) ← run atEnd s
  if ds.head? == some '0' && 1 < ds.length then .error .malformed else .ok (ds, r)

def fractionPart (atEnd : DocumentFault) : List Char → Except DocumentFault (List Char × List Char)
  | '.' :: s => run atEnd s
  | s => .ok ([], s)

def exponentPart (atEnd : DocumentFault) (s : List Char) :
    Except DocumentFault (Option (Bool × List Char) × List Char) :=
  match s with
  | c :: s =>
    if c == 'e' || c == 'E' then do
      let (negative, s) := match s with
        | '-' :: s => (true, s)
        | '+' :: s => (false, s)
        | s => (false, s)
      let (ds, r) ← run atEnd s
      .ok (some (negative, ds), r)
    else .ok (none, c :: s)
  | [] => .ok (none, [])

def scan (atEnd : DocumentFault) (s : List Char) :
    Except DocumentFault (Numeral × List Char) := do
  let (negative, s) := match s with
    | '-' :: s => (true, s)
    | s => (false, s)
  let (whole, s) ← wholePart atEnd s
  let (fraction, s) ← fractionPart atEnd s
  let (exponent, s) ← exponentPart atEnd s
  .ok (⟨negative, whole, fraction, exponent⟩, s)

def natural? (n : Numeral) : Option Nat :=
  let value := Nat.ofDigitChars 10 n.whole 0
  if n.negative || !n.fraction.isEmpty || n.exponent.isSome || UInt64.size ≤ value then none
  else some value

def absorb (m : Nat) : List Char → Nat × Nat
  | [] => (m, 0)
  | d :: ds =>
    let next := m * 10 + (d.toNat - '0'.toNat)
    if next < UInt64.size then absorb next ds else (m, ds.length + 1)

def scientific (n : Numeral) : Nat × Int :=
  let (m, dropped) := absorb 0 n.whole
  let (m, unused) := absorb m n.fraction
  let shift : Int := match n.exponent with
    | none => 0
    | some (negative, ds) =>
      let e : Nat := Nat.ofDigitChars 10 ds 0
      if negative then -(e : Int) else e
  (m, (dropped : Int) - ((n.fraction.length - unused : Nat) : Int) + shift)

def nearestDouble (n : Nat) : Nat :=
  let unit := 1 <<< (Nat.log2 n - 52)
  let q := n / unit
  let r := n % unit
  if unit < 2 * r || (unit == 2 * r && q % 2 == 1) then (q + 1) * unit else q * unit

/-- Half a step beyond the largest double. -/
def doubleBound : Nat := (1 <<< 1024) - (1 <<< 970)

def isTooLarge (n : Numeral) : Bool :=
  let (m, e) := n.scientific
  m != 0 && 0 ≤ e && (308 < e || doubleBound ≤ nearestDouble m * nearestDouble (Nat.pow 10 e.toNat))

end Numeral

def startsNumeral (c : Char) : Bool := c == '-' || c.isDigit

def misfit : List Char → DocumentFault
  | 'n' :: r => judge (word "ull".toList r)
  | 't' :: r => judge (word "rue".toList r)
  | 'f' :: r => judge (word "alse".toList r)
  | '"' :: r => judge (text r)
  | '[' :: _ => .misshapen
  | '{' :: _ => .misshapen
  | c :: r =>
    if startsNumeral c then
      match Numeral.scan .cutShort (c :: r) with
      | .error e => e
      | .ok (n, _) => if n.isTooLarge then .malformed else .misshapen
    else .malformed
  | [] => .malformed
where
  judge {α : Type} : Except DocumentFault α → DocumentFault
    | .error e => e
    | .ok _ => .misshapen

def natural (limit : Nat) : Scan Nat := fun s =>
  match skipBlank s with
  | [] => .error .cutShort
  | c :: r =>
    if startsNumeral c then do
      let (n, r) ← Numeral.scan .cutShort (c :: r)
      if n.isTooLarge then .error .malformed
      else
        match n.natural? with
        | some v => if v < limit then .ok (v, r) else .error .misshapen
        | none => .error .misshapen
    else .error (misfit (c :: r))

end Switchboard.Json
