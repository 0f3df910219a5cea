import Switchboard.Json.Skip

/-! Records as JSON documents: an object with the record's fields in any order, each once, or a list
of their values in the order of the fields. -/

namespace Switchboard.Json

structure Field (σ : Type) where
  name : String
  isSet : σ → Bool
  read : σ → Scan σ

structure Shape (σ α : Type) where
  fields : List (Field σ)
  blank : σ
  /-- Whether an object may hold other members, which are passed over. -/
  isOpen : Bool
  finish : σ → Option α

namespace Shape

variable {σ α : Type}

def complete (sh : Shape σ α) (v : σ) : Except DocumentFault α :=
  match sh.finish v with
  | some a => .ok a
  | none => .error .misshapen

def colon (s : List Char) : Except DocumentFault (List Char) :=
  match skipBlank s with
  | [] => .error .cutShort
  | ':' :: r => .ok r
  | _ => .error .malformed

def member (sh : Shape σ α) (v : σ) : Scan σ := fun s => do
  let (name, s) ← text s
  match sh.fields.find? (fun f => f.name.toList == name) with
  | some f => if f.isSet v then .error .misshapen else f.read v (← colon s)
  | none =>
    if sh.isOpen then do
      let s ← skip (← colon s)
      .ok (v, s)
    else .error .misshapen

def nextMember (first : Bool) (s : List Char) : Except DocumentFault (Bool × List Char) :=
  match skipBlank s with
  | [] => .error .cutShort
  | '}' :: r => .ok (false, r)
  | '"' :: r => if first then .ok (true, r) else .error .malformed
  | ',' :: r =>
    if first then .error .malformed
    else
      match skipBlank r with
      | [] => .error .cutShort
      | '"' :: r => .ok (true, r)
      | _ => .error .malformed
  | _ => .error .malformed

def members (sh : Shape σ α) : Nat → Bool → σ → Scan σ
  | 0, _, _, _ => .error .malformed
  | fuel + 1, first, v, s => do
    let (more, s) ← nextMember first s
    if more then do
      let (v, s) ← sh.member v s
      members sh fuel false v s
    else .ok (v, s)

def nextElement (first : Bool) (s : List Char) : Except DocumentFault (List Char) :=
  match skipBlank s with
  | [] => .error .cutShort
  | ']' :: _ => .error .misshapen
  | c :: r =>
    if first then .ok (c :: r)
    else if c == ',' then
      match skipBlank r with
      | [] => .error .cutShort
      | ']' :: _ => .error .malformed
      | r => .ok r
    else .error .malformed

def elements : List (Field σ) → Bool → σ → Scan σ
  | [], _, v, s => .ok (v, s)
  | f :: fs, first, v, s => do
    let s ← nextElement first s
    let (v, s) ← f.read v s
    elements fs false v s

def closeList (s : List Char) : Except DocumentFault (List Char) :=
  match skipBlank s with
  | [] => .error .cutShort
  | ']' :: r => .ok r
  | _ => .error .malformed

def read (sh : Shape σ α) : Scan α := fun s =>
  match skipBlank s with
  | [] => .error .cutShort
  | '{' :: r => do
    let (v, r) ← sh.members (r.length + 1) true sh.blank r
    let a ← sh.complete v
    .ok (a, r)
  | '[' :: r => do
    let (v, r) ← elements sh.fields true sh.blank r
    let a ← sh.complete v
    let r ← closeList r
    .ok (a, r)
  | r => .error (misfit r)

end Shape

def document {α : Type} (read : Scan α) (s : List Char) : Except DocumentFault α := do
  let (a, r) ← read s
  match skipBlank r with
  | [] => .ok a
  | _ => .error .malformed

def quoted (s : List Char) : List Char := '"' :: s ++ ['"']

def object (members : List (String × List Char)) : List Char :=
  '{' :: [','].intercalate (members.map fun (k, v) => quoted k.toList ++ ':' :: v) ++ ['}']

end Switchboard.Json
