namespace Switchboard.Decimal

def digits (n : Nat) : List Char :=
  Nat.toDigits 10 n

def padded (width n : Nat) : List Char :=
  List.replicate (width - (digits n).length) '0' ++ digits n

def value? (cs : List Char) : Option Nat :=
  if cs.isEmpty || !cs.all Char.isDigit then none else some (Nat.ofDigitChars 10 cs 0)

def until? (c : Char) (cs : List Char) : Option (Nat × List Char) :=
  match cs.dropWhile Char.isDigit with
  | c' :: rest => if c' = c then (value? (cs.takeWhile Char.isDigit)).map (·, rest) else none
  | [] => none

def unsigned? : List Char → Option Nat
  | '+' :: cs => value? cs
  | cs => value? cs

def signed? : List Char → Option Int
  | '-' :: cs => (value? cs).map fun n => -(n : Int)
  | cs => (unsigned? cs).map fun n => (n : Int)

end Switchboard.Decimal
