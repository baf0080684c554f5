import Descent.Unicode.CaseFold
import Descent.Unicode.Property

/-! Sets of characters that patterns name: the shorthands and the named sets of ASCII
characters. Without Unicode they are the ASCII parts, and case is that of ASCII
letters. -/
namespace Descent.Regex.CharClass
open Unicode

def asciiDigits : Ranges := [(0x30, 0x39)]

def asciiUpper : Ranges := [(0x41, 0x5A)]

def asciiLower : Ranges := [(0x61, 0x7A)]

def asciiSpaces : Ranges := [(0x09, 0x0D), (0x20, 0x20)]

def asciiWord : Ranges := asciiDigits ++ asciiUpper ++ asciiLower ++ [(0x5F, 0x5F)]

/-- The ASCII set of a name in brackets and colons. -/
def named? : String → Option Ranges
  | "alnum" => some (asciiDigits ++ asciiUpper ++ asciiLower)
  | "alpha" => some (asciiUpper ++ asciiLower)
  | "ascii" => some [(0x00, 0x7F)]
  | "blank" => some [(0x09, 0x09), (0x20, 0x20)]
  | "cntrl" => some [(0x00, 0x1F), (0x7F, 0x7F)]
  | "digit" => some asciiDigits
  | "graph" => some [(0x21, 0x7E)]
  | "lower" => some asciiLower
  | "print" => some [(0x20, 0x7E)]
  | "punct" => some [(0x21, 0x2F), (0x3A, 0x40), (0x5B, 0x60), (0x7B, 0x7E)]
  | "space" => some asciiSpaces
  | "upper" => some asciiUpper
  | "word" => some asciiWord
  | "xdigit" => some (asciiDigits ++ [(0x41, 0x46), (0x61, 0x66)])
  | _ => none

def digits (unicode : Bool) : CharSet := if unicode then decimalSet else .ofRanges asciiDigits

def spaces (unicode : Bool) : CharSet := if unicode then whiteSpaceSet else .ofRanges asciiSpaces

/-- The characters of words. -/
def word (unicode : Bool) : CharSet := if unicode then wordSet else .ofRanges asciiWord

/-- The characters that differ in case only. -/
def caseOrbits (unicode : Bool) : List (List Nat) := if unicode then orbits else asciiOrbits

end Descent.Regex.CharClass
