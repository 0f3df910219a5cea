import Mathlib.Tactic.Lemma
import Switchboard.Json.Shape
import Switchboard.Text.Decimal

/-! The grammar of JSON documents. It is stated apart from any reader; what the scanners take off
the front of a text is then just what the grammar derives. -/

namespace Switchboard.Json

def Blanks (s : List Char) : Prop := ∀ c ∈ s, isBlank c = true

def IsDigits (s : List Char) : Prop := s ≠ [] ∧ ∀ c ∈ s, c.isDigit = true

def IsWhole (s : List Char) : Prop := IsDigits s ∧ (s.head? = some '0' → s.length = 1)

inductive IsFraction : List Char → List Char → Prop
  | none : IsFraction [] []
  | some {ds : List Char} (hds : IsDigits ds) : IsFraction ds ('.' :: ds)

inductive IsSign : Bool → List Char → Prop
  | none : IsSign false []
  | plus : IsSign false ['+']
  | minus : IsSign true ['-']

inductive IsExponent : Option (Bool × List Char) → List Char → Prop
  | none : IsExponent none []
  | some {e : Char} (he : e = 'e' ∨ e = 'E') {negative : Bool} {sign ds : List Char}
      (hsign : IsSign negative sign) (hds : IsDigits ds) :
      IsExponent (some (negative, ds)) (e :: (sign ++ ds))

inductive Numeral.Written : Numeral → List Char → Prop
  | positive {whole ds t t' : List Char} {x : Option (Bool × List Char)} (hwhole : IsWhole whole)
      (ht : IsFraction ds t) (ht' : IsExponent x t') :
      Written ⟨false, whole, ds, x⟩ (whole ++ (t ++ t'))
  | negative {whole ds t t' : List Char} {x : Option (Bool × List Char)} (hwhole : IsWhole whole)
      (ht : IsFraction ds t) (ht' : IsExponent x t') :
      Written ⟨true, whole, ds, x⟩ ('-' :: (whole ++ (t ++ t')))

inductive HexCode : List Char → Nat → Prop
  | mk {a b c d : Char} {w x y z : Nat} (ha : hexDigit? a = some w) (hb : hexDigit? b = some x)
      (hc : hexDigit? c = some y) (hd : hexDigit? d = some z) :
      HexCode [a, b, c, d] (((w * 16 + x) * 16 + y) * 16 + z)

def IsPlain (c : Char) : Prop := c ≠ '"' ∧ c ≠ '\\' ∧ isControl c = false

inductive IsText : List Char → Prop
  | nil : IsText []
  | plain {c : Char} {s : List Char} (hc : IsPlain c) (hs : IsText s) : IsText (c :: s)
  | escape {c : Char} {s : List Char} (hc : (plainEscape? c).isSome) (hs : IsText s) :
      IsText ('\\' :: c :: s)
  | code {ds s : List Char} {n : Nat} (hds : HexCode ds n) (hs : IsText s) :
      IsText ('\\' :: 'u' :: (ds ++ s))

def ofHalves (leading trailing : Nat) : Char :=
  Char.ofNat (0x10000 + (leading - 0xD800) * 0x400 + (trailing - 0xDC00))

inductive Spells : List Char → List Char → Prop
  | nil : Spells [] []
  | plain {c : Char} {s t : List Char} (hc : IsPlain c) (hs : Spells s t) : Spells (c :: s) (c :: t)
  | escape {c x : Char} {s t : List Char} (hc : plainEscape? c = some x) (hs : Spells s t) :
      Spells ('\\' :: c :: s) (x :: t)
  | code {ds s t : List Char} {n : Nat} (hds : HexCode ds n) (hleading : isLeading n = false)
      (htrailing : isTrailing n = false) (hs : Spells s t) :
      Spells ('\\' :: 'u' :: (ds ++ s)) (Char.ofNat n :: t)
  | pair {ds ds' s t : List Char} {n m : Nat} (hds : HexCode ds n) (hleading : isLeading n = true)
      (hds' : HexCode ds' m) (htrailing : isTrailing m = true) (hs : Spells s t) :
      Spells ('\\' :: 'u' :: (ds ++ '\\' :: 'u' :: (ds' ++ s))) (ofHalves n m :: t)

section

variable {α κ : Type}

inductive Joined (item : α → List Char → Prop) : List α → List Char → Prop
  | one {a : α} {s : List Char} (hs : item a s) : Joined item [a] s
  | more {a : α} {as : List α} {s t : List Char} (hs : item a s) (ht : Joined item as t) :
      Joined item (a :: as) (s ++ ',' :: t)

inductive Enclosed (opening closing : Char) (item : α → List Char → Prop) :
    List α → List Char → Prop
  | none {b : List Char} (hb : Blanks b) :
      Enclosed opening closing item [] (opening :: (b ++ [closing]))
  | some {as : List α} {s : List Char} (hs : Joined item as s) :
      Enclosed opening closing item as (opening :: (s ++ [closing]))

inductive Padded (v : List Char) : List Char → Prop
  | mk {b b' : List Char} (hb : Blanks b) (hb' : Blanks b') : Padded v (b ++ (v ++ b'))

inductive IsMember (key : List Char → κ → Prop) (m : κ × List Char) : List Char → Prop
  | mk {k b₁ b₂ b₃ b₄ : List Char} (hk : key k m.1) (hb₁ : Blanks b₁) (hb₂ : Blanks b₂)
      (hb₃ : Blanks b₃) (hb₄ : Blanks b₄) :
      IsMember key m (b₁ ++ '"' :: (k ++ '"' :: (b₂ ++ ':' :: (b₃ ++ (m.2 ++ b₄)))))

end

abbrev IsList : List (List Char) → List Char → Prop := Enclosed '[' ']' Padded

abbrev IsObject {κ : Type} (key : List Char → κ → Prop) :
    List (κ × List Char) → List Char → Prop :=
  Enclosed '{' '}' (IsMember key)

def Unread (s name : List Char) : Prop := IsText s ∧ s = name

inductive IsValue : List Char → Prop
  | word {w : List Char} (hw : w ∈ ["null", "true", "false"].map String.toList) : IsValue w
  | numeral {n : Numeral} {s : List Char} (hs : n.Written s) : IsValue s
  | text {s : List Char} (hs : IsText s) : IsValue ('"' :: (s ++ ['"']))
  | list {vs : List (List Char)} {s : List Char} (hvs : ∀ v ∈ vs, IsValue v) (hs : IsList vs s) :
      IsValue s
  | object {ms : List (List Char × List Char)} {s : List Char} (hms : ∀ m ∈ ms, IsValue m.2)
      (hs : IsObject Unread ms s) : IsValue s

end Switchboard.Json
