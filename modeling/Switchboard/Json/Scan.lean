import Switchboard.Error

/-! The leaves of a JSON document: blanks, fixed words, texts with their escapes. A scanner takes
what it reads off the front of the text; it stops at the first fault. -/

namespace Switchboard.Json

abbrev Scan (α : Type) := List Char → Except DocumentFault (α × List Char)

def isBlank (c : Char) : Bool :=
  c == ' ' || c == '\n' || c == '\t' || c == '\r'

def skipBlank (s : List Char) : List Char := s.dropWhile isBlank

def isControl (c : Char) : Bool := c.val < 0x20

def word : (w s : List Char) → Except DocumentFault (List Char)
  | [], s => .ok s
  | _ :: _, [] => .error .cutShort
  | c :: w, d :: s => if c == d then word w s else .error .malformed

def hexDigit? (c : Char) : Option Nat :=
  if c.isDigit then some (c.toNat - '0'.toNat)
  else if 'a' ≤ c ∧ c ≤ 'f' then some (c.toNat - 'a'.toNat + 10)
  else if 'A' ≤ c ∧ c ≤ 'F' then some (c.toNat - 'A'.toNat + 10)
  else none

/-- Reads four hexadecimal digits. The text ends too early when fewer than four bytes are left of
it, whatever they are. -/
def hexFour : Scan Nat
  | a :: b :: c :: d :: r =>
    match hexDigit? a, hexDigit? b, hexDigit? c, hexDigit? d with
    | some a, some b, some c, some d => .ok (((a * 16 + b) * 16 + c) * 16 + d, r)
    | _, _, _, _ => .error .malformed
  | s => if (s.map Char.utf8Size).foldr (· + ·) 0 < 4 then .error .cutShort else .error .malformed

def plainEscape? : Char → Option Char
  | '"' => some '"'
  | '\\' => some '\\'
  | '/' => some '/'
  | 'b' => some '\x08'
  | 'f' => some '\x0c'
  | 'n' => some '\n'
  | 'r' => some '\r'
  | 't' => some '\t'
  | _ => none

def isLeading (n : Nat) : Bool := 0xD800 ≤ n && n < 0xDC00

def isTrailing (n : Nat) : Bool := 0xDC00 ≤ n && n < 0xE000

def trailingHalf (leading : Nat) : Scan Char
  | [] => .error .cutShort
  | '\\' :: [] => .error .cutShort
  | '\\' :: 'u' :: r => do
    let (n, r) ← hexFour r
    if isTrailing n then .ok (Char.ofNat (0x10000 + (leading - 0xD800) * 0x400 + (n - 0xDC00)), r)
    else .error .malformed
  | _ => .error .malformed

def escape : Scan Char
  | [] => .error .cutShort
  | 'u' :: r => do
    let (n, r) ← hexFour r
    if isTrailing n then .error .malformed
    else if isLeading n then trailingHalf n r
    else .ok (Char.ofNat n, r)
  | c :: r =>
    match plainEscape? c with
    | some c => .ok (c, r)
    | none => .error .malformed

theorem hexFour_length {s r : List Char} {n : Nat} (h : hexFour s = .ok (n, r)) :
    r.length < s.length := by
  unfold hexFour at h
  split at h
  · split at h
    · simp only [Except.ok.injEq, Prod.mk.injEq] at h
      simp only [← h.2, List.length_cons]; omega
    · cases h
  · split at h <;> cases h

theorem trailingHalf_length {k : Nat} {s r : List Char} {c : Char}
    (h : trailingHalf k s = .ok (c, r)) : r.length < s.length := by
  unfold trailingHalf at h
  split at h
  · cases h
  · cases h
  · rename_i s
    cases hf : hexFour s with
    | error e => simp [hf, bind, Except.bind] at h
    | ok p =>
      have := hexFour_length (n := p.1) (r := p.2) hf
      simp only [hf, bind, Except.bind] at h
      split at h
      · simp only [Except.ok.injEq, Prod.mk.injEq] at h
        simp only [← h.2, List.length_cons]; omega
      · cases h
  · cases h

theorem escape_length {s r : List Char} {c : Char} (h : escape s = .ok (c, r)) :
    r.length < s.length := by
  unfold escape at h
  split at h
  · cases h
  · rename_i s
    cases hf : hexFour s with
    | error e => simp [hf, bind, Except.bind] at h
    | ok p =>
      have hl := hexFour_length (n := p.1) (r := p.2) hf
      simp only [hf, bind, Except.bind] at h
      split at h
      · cases h
      · split at h
        · have := trailingHalf_length h
          simp only [List.length_cons]; omega
        · cases h; simp only [List.length_cons]; omega
  · split at h
    · cases h; simp
    · cases h

def text (s : List Char) : Except DocumentFault (List Char × List Char) :=
  match s with
  | [] => .error .cutShort
  | '"' :: r => .ok ([], r)
  | '\\' :: r =>
    match _h : escape r with
    | .error e => .error e
    | .ok (c, r') =>
      match text r' with
      | .error e => .error e
      | .ok (cs, t) => .ok (c :: cs, t)
  | c :: r =>
    if isControl c then .error .malformed
    else
      match text r with
      | .error e => .error e
      | .ok (cs, t) => .ok (c :: cs, t)
termination_by s.length
decreasing_by
  · have := escape_length _h
    simp only [List.length_cons]; omega
  · simp

def skipEscape : List Char → Except DocumentFault (List Char)
  | [] => .error .cutShort
  | 'u' :: r => (hexFour r).map (·.2)
  | c :: r => if (plainEscape? c).isSome then .ok r else .error .malformed

theorem skipEscape_length {s r : List Char} (h : skipEscape s = .ok r) : r.length < s.length := by
  unfold skipEscape at h
  split at h
  · cases h
  · rename_i s
    cases hf : hexFour s with
    | error e => simp [hf, Except.map] at h
    | ok p =>
      have := hexFour_length (n := p.1) (r := p.2) hf
      simp only [hf, Except.map] at h
      cases h; simp only [List.length_cons]; omega
  · split at h
    · cases h; simp
    · cases h

def skipText (s : List Char) : Except DocumentFault (List Char) :=
  match s with
  | [] => .error .cutShort
  | '"' :: r => .ok r
  | '\\' :: r =>
    match _h : skipEscape r with
    | .error e => .error e
    | .ok r' => skipText r'
  | c :: r => if isControl c then .error .malformed else skipText r
termination_by s.length
decreasing_by
  · have := skipEscape_length _h
    simp only [List.length_cons]; omega
  · simp

end Switchboard.Json
