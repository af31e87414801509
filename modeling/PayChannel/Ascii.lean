import PayChannel.Bytes

/-!
# Characters by their byte

The bytes of the punctuation and the digits that text formats are made of.
-/

namespace PayChannel.Ascii

def tab : UInt8 := 9
def lineFeed : UInt8 := 10
def carriageReturn : UInt8 := 13
def space : UInt8 := 32
def quote : UInt8 := 34
def hash : UInt8 := 35
def percent : UInt8 := 37
def plus : UInt8 := 43
def comma : UInt8 := 44
def minus : UInt8 := 45
def dot : UInt8 := 46
def slash : UInt8 := 47
def zero : UInt8 := 48
def nine : UInt8 := 57
def colon : UInt8 := 58
def question : UInt8 := 63
def openBracket : UInt8 := 91
def backslash : UInt8 := 92
def closeBracket : UInt8 := 93
def openBrace : UInt8 := 123
def closeBrace : UInt8 := 125
def tilde : UInt8 := 126

def isDigit (b : UInt8) : Bool :=
  zero ≤ b && b ≤ nine

/-- bytes as the characters of the same number -/
def text (bytes : Bytes) : String :=
  String.ofList (bytes.map fun (b : UInt8) => Char.ofNat b.toNat)

def toLower (b : UInt8) : UInt8 :=
  if 65 ≤ b ∧ b ≤ 90 then b + 32 else b

def sameLetters (x y : Bytes) : Bool :=
  x.map toLower = y.map toLower

end PayChannel.Ascii
