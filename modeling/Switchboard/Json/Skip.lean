import Switchboard.Json.Numeral

/-! Reading past a value whose content is not wanted: it need only be well formed. Each nested value
uses one unit of fuel, so the length of the text is always enough. -/

namespace Switchboard.Json

mutual

def skipValue : Nat → List Char → Except DocumentFault (List Char)
  | 0, _ => .error .malformed
  | fuel + 1, s =>
    match skipBlank s with
    | [] => .error .cutShort
    | 'n' :: r => word "ull".toList r
    | 't' :: r => word "rue".toList r
    | 'f' :: r => word "alse".toList r
    | '"' :: r => skipText r
    | '[' :: r =>
      match skipBlank r with
      | [] => .error .cutShort
      | ']' :: r => .ok r
      | r => skipElements fuel r
    | '{' :: r =>
      match skipBlank r with
      | [] => .error .cutShort
      | '}' :: r => .ok r
      | r => skipMembers fuel r
    | c :: r =>
      if startsNumeral c then (Numeral.scan .malformed (c :: r)).map (·.2)
      else .error .malformed

def skipElements : Nat → List Char → Except DocumentFault (List Char)
  | 0, _ => .error .malformed
  | fuel + 1, s =>
    match skipValue fuel s with
    | .error e => .error e
    | .ok r =>
      match skipBlank r with
      | [] => .error .cutShort
      | ',' :: r => skipElements fuel r
      | ']' :: r => .ok r
      | _ => .error .malformed

def skipMembers : Nat → List Char → Except DocumentFault (List Char)
  | 0, _ => .error .malformed
  | fuel + 1, s =>
    match skipBlank s with
    | [] => .error .cutShort
    | '"' :: r =>
      match skipText r with
      | .error e => .error e
      | .ok r =>
        match skipBlank r with
        | [] => .error .cutShort
        | ':' :: r =>
          match skipValue fuel r with
          | .error e => .error e
          | .ok r =>
            match skipBlank r with
            | [] => .error .cutShort
            | ',' :: r => skipMembers fuel r
            | '}' :: r => .ok r
            | _ => .error .malformed
        | _ => .error .malformed
    | _ => .error .malformed

end

def skip (s : List Char) : Except DocumentFault (List Char) := skipValue (2 * s.length + 1) s

end Switchboard.Json
