import PayChannel.Ascii

/-!
# JSON: blanks, words and strings

The pieces that JSON text is scanned in.  Every scanner takes what is left of the text and gives
back what it found and what is left then, or the kind of the first error.

* `readChars`    the characters of a string up to its closing quote, escapes replaced;
* `skipChars`    the same for a string whose content does not matter.
-/

namespace PayChannel.Json

open Ascii

inductive Flaw where
  /-- the text is no JSON -/
  | malformed
  /-- the value is JSON, but not one of the kind asked for -/
  | unfit
  /-- the text ends early -/
  | ended
deriving DecidableEq

/-- what a scanner finds, and the text left after it -/
abbrev Scanned (α : Type) := Except Flaw (α × Bytes)

/-! ## Blanks and words -/

def isBlank (b : UInt8) : Bool :=
  b = space || b = lineFeed || b = tab || b = carriageReturn

def skipBlanks (input : Bytes) : Bytes :=
  input.dropWhile isBlank

/-- the text after the rest of a word -/
def expect : Bytes → Bytes → Except Flaw Bytes
  | [], input => .ok input
  | _ :: _, [] => .error .ended
  | x :: word, b :: input => if b = x then expect word input else .error .malformed

/-! ## Strings -/

def hexValue? (b : UInt8) : Option Nat :=
  if 48 ≤ b ∧ b ≤ 57 then some (b.toNat - 48)
  else if 97 ≤ b ∧ b ≤ 102 then some (b.toNat - 87)
  else if 65 ≤ b ∧ b ≤ 70 then some (b.toNat - 55)
  else none

def hexUnit? (a b c d : UInt8) : Option Nat := do
  let a ← hexValue? a
  let b ← hexValue? b
  let c ← hexValue? c
  let d ← hexValue? d
  return ((a * 16 + b) * 16 + c) * 16 + d

def shortEscape? (b : UInt8) : Option UInt8 :=
  if b = quote ∨ b = backslash ∨ b = slash then some b
  else if b = 98 then some 8
  else if b = 102 then some 12
  else if b = 110 then some lineFeed
  else if b = 114 then some carriageReturn
  else if b = 116 then some tab
  else none

/-- the letter that begins an escape by number -/
def escapeU : UInt8 := 117

def utf8 (code : Nat) : Bytes :=
  String.utf8EncodeChar (Char.ofNat code)

def prepend (bytes : Bytes) : Scanned Bytes → Scanned Bytes
  | .error flaw => .error flaw
  | .ok (found, rest) => .ok (bytes ++ found, rest)

/-- the characters of a string whose opening quote has been read.  An escape by number that begins
a pair has to be followed by the other half; a half that stands alone is malformed. -/
def readChars : Bytes → Scanned Bytes
  | [] => .error .ended
  | b :: rest =>
    if b = quote then .ok ([], rest)
    else if b = backslash then
      match rest with
      | [] => .error .ended
      | e :: rest =>
        if e = escapeU then
          match rest with
          | h1 :: h2 :: h3 :: h4 :: rest =>
            match hexUnit? h1 h2 h3 h4 with
            | none => .error .malformed
            | some unit =>
              if unit < 0xD800 ∨ 0xDFFF < unit then prepend (utf8 unit) (readChars rest)
              else if 0xDC00 ≤ unit then .error .malformed
              else
                match rest with
                | [] => .error .ended
                | s :: rest =>
                  if s ≠ backslash then .error .malformed
                  else
                    match rest with
                    | [] => .error .ended
                    | u :: rest =>
                      if u ≠ escapeU then .error .malformed
                      else
                        match rest with
                        | l1 :: l2 :: l3 :: l4 :: rest =>
                          match hexUnit? l1 l2 l3 l4 with
                          | none => .error .malformed
                          | some low =>
                            if low < 0xDC00 ∨ 0xDFFF < low then .error .malformed
                            else
                              let code := (unit - 0xD800) * 1024 + (low - 0xDC00) + 0x10000
                              prepend (utf8 code) (readChars rest)
                        | _ => .error .ended
          | _ => .error .ended
        else
          match shortEscape? e with
          | none => .error .malformed
          | some c => prepend [c] (readChars rest)
    else if b < 32 then .error .malformed
    else prepend [b] (readChars rest)

/-- the text after a string whose opening quote has been read and whose content does not matter -/
def skipChars : Bytes → Except Flaw Bytes
  | [] => .error .ended
  | b :: rest =>
    if b = quote then .ok rest
    else if b = backslash then
      match rest with
      | [] => .error .ended
      | e :: rest =>
        if e = escapeU then
          match rest with
          | h1 :: h2 :: h3 :: h4 :: rest =>
            if (hexUnit? h1 h2 h3 h4).isNone then .error .malformed else skipChars rest
          | _ => .error .ended
        else if (shortEscape? e).isNone then .error .malformed
        else skipChars rest
    else if b < 32 then .error .malformed
    else skipChars rest

end PayChannel.Json
