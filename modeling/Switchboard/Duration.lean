namespace Switchboard

def second : Nat := 1000000000

def Duration.limit : Nat := UInt64.size * second

structure Duration where
  nanos : Nat
  lt_limit : nanos < Duration.limit := by decide
deriving DecidableEq

namespace Duration

def zero : Duration := ⟨0, by decide⟩

instance : Inhabited Duration := ⟨zero⟩

def ofNanos? (n : Nat) : Option Duration :=
  if h : n < limit then some ⟨n, h⟩ else none

def ofSeconds (s : UInt64) : Duration :=
  ⟨s.toNat * second, by
    have := s.toNat_lt
    simp only [limit, UInt64.size, second]
    omega⟩

def seconds (d : Duration) : Nat := d.nanos / second

def subsecond (d : Duration) : Nat := d.nanos % second

def times? (d : Duration) (k : UInt32) : Option Duration :=
  ofNanos? (d.nanos * k.toNat)

end Duration

end Switchboard
