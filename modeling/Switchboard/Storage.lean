import Switchboard.Error

namespace Switchboard.Storage

def limit : Nat := (1 <<< 63) - 1

def overflow? (count size : Nat) : Option Crash :=
  if count * size ≤ limit then none else some ⟨"capacity overflow"⟩

end Switchboard.Storage
