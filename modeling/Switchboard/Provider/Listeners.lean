namespace Switchboard

/-- By number, none once dropped. -/
abbrev Listeners := List (Option Nat)

namespace Listeners

def add (ls : Listeners) : Nat × Listeners := (ls.length, ls ++ [some 0])

def drop (ls : Listeners) (i : Nat) : Listeners := ls.set i none

def tell (ls : Listeners) (i : Nat) : Listeners := ls.modify i (·.map (· + 1))

def tellSome (ls : Listeners) : Option Nat → Listeners
  | none => ls
  | some i => ls.tell i

end Listeners

end Switchboard
