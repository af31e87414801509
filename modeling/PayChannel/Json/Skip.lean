import PayChannel.Json.Number

/-!
# JSON: values that do not matter

A field that a record does not know is skipped, whatever its value.  Nested lists and objects are
kept track of on a stack, so that any depth is fine.

* `skipValue`    the text after one value.
-/

namespace PayChannel.Json

open Ascii

/-- an open bracket: of a list, or of an object -/
inductive Frame where
  | list
  | object
deriving DecidableEq

def skipName (input : Bytes) : Except Flaw Bytes :=
  match skipChars input with
  | .error flaw => .error flaw
  | .ok rest =>
    match skipBlanks rest with
    | [] => .error .ended
    | b :: rest => if b = colon then .ok rest else .error .malformed

def skipMemberName (input : Bytes) : Except Flaw Bytes :=
  match skipBlanks input with
  | [] => .error .ended
  | b :: rest => if b = quote then skipName rest else .error .malformed

/-- the text after a value that is no list and no object, its first byte having been looked at -/
def skipScalar (b : UInt8) (rest : Bytes) : Except Flaw Bytes :=
  if b = 110 then expect [117, 108, 108] rest
  else if b = 116 then expect [114, 117, 101] rest
  else if b = 102 then expect [97, 108, 115, 101] rest
  else if b = minus then skipNumber rest
  else if isDigit b then skipNumber (b :: rest)
  else if b = quote then skipChars rest
  else .error .malformed

/-- skips what is left of nested values: from the start of a value, or (`after`) from the end of
one.  At most `steps` brackets and values are passed. -/
def skipNested : Nat → Bool → List Frame → Bytes → Except Flaw Bytes
  | 0, _, _, _ => .error .ended
  | _ + 1, true, [], input => .ok input
  | steps + 1, true, .list :: frames, input =>
    match skipBlanks input with
    | [] => .error .ended
    | b :: rest =>
      if b = comma then skipNested steps false (.list :: frames) rest
      else if b = closeBracket then skipNested steps true frames rest
      else .error .malformed
  | steps + 1, true, .object :: frames, input =>
    match skipBlanks input with
    | [] => .error .ended
    | b :: rest =>
      if b = comma then
        match skipMemberName rest with
        | .error flaw => .error flaw
        | .ok rest => skipNested steps false (.object :: frames) rest
      else if b = closeBrace then skipNested steps true frames rest
      else .error .malformed
  | steps + 1, false, frames, input =>
    match skipBlanks input with
    | [] => .error .ended
    | b :: rest =>
      if b = openBracket then
        match skipBlanks rest with
        | [] => .error .ended
        | c :: tail =>
          if c = closeBracket then skipNested steps true frames tail
          else skipNested steps false (.list :: frames) (c :: tail)
      else if b = openBrace then
        match skipBlanks rest with
        | [] => .error .ended
        | c :: tail =>
          if c = closeBrace then skipNested steps true frames tail
          else
            match skipMemberName (c :: tail) with
            | .error flaw => .error flaw
            | .ok rest => skipNested steps false (.object :: frames) rest
      else
        match skipScalar b rest with
        | .error flaw => .error flaw
        | .ok rest => skipNested steps true frames rest

def skipValue (input : Bytes) : Except Flaw Bytes :=
  skipNested (2 * input.length + 2) false [] input

end PayChannel.Json
