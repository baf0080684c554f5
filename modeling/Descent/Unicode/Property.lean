import Descent.Unicode.Letter
import Descent.Unicode.Script
import Descent.Unicode.Sign
import Descent.Unicode.Trait

/-! Named sets of characters.

The Unicode standard names sets of characters: general categories, scripts, and
properties that cut across these. Some are tables, others are made of these here.
Names are read without regard to case, blanks, hyphens and underscores. -/
namespace Descent.Unicode

/-! ### Sets made of the tables -/

def letters : Ranges :=
  uppercaseLetters ++ lowercaseLetters ++ titlecaseLetters ++ modifierLetters ++ otherLetters

def marks : Ranges := nonspacingMarks ++ spacingMarks ++ enclosingMarks

def numbers : Ranges := decimalNumbers ++ letterNumbers ++ otherNumbers

def punctuation : Ranges :=
  connectors ++ dashes ++ openPunctuation ++ closePunctuation ++ initialPunctuation ++
    finalPunctuation ++ otherPunctuation

def symbols : Ranges := mathSymbols ++ currencySymbols ++ modifierSymbols ++ otherSymbols

def separators : Ranges := spaceSeparators ++ lineSeparators ++ paragraphSeparators

/-- What is seen or spaces out what is seen. -/
def visible : Ranges := letters ++ marks ++ numbers ++ punctuation ++ symbols ++ separators

def assigned : Ranges := visible ++ controls ++ formats ++ privateUse

def alphabetic : Ranges := letters ++ letterNumbers ++ otherAlphabetic

def uppercase : Ranges := uppercaseLetters ++ otherUppercase

def lowercase : Ranges := lowercaseLetters ++ otherLowercase

/-- The invisible characters that join what stands around them. -/
def joinControls : Ranges := [(0x200C, 0x200D)]

/-- Alphabetic characters, as a set. -/
def alphabeticSet : CharSet := .ofRanges alphabetic

/-- Numbers, as a set. -/
def numberSet : CharSet := .ofRanges numbers

/-- Decimal digits, as a set. -/
def decimalSet : CharSet := .ofRanges decimalNumbers

/-- White space, as a set. -/
def whiteSpaceSet : CharSet := .ofRanges whiteSpace

/-- Characters of words: alphabetic ones, marks, decimal digits, and what joins words. -/
def wordSet : CharSet :=
  .ofRanges (alphabetic ++ marks ++ decimalNumbers ++ connectors ++ joinControls)

def isAlphabetic (c : Char) : Bool := alphabeticSet.contains c

def isNumber (c : Char) : Bool := numberSet.contains c

def isWhiteSpace (c : Char) : Bool := whiteSpaceSet.contains c

/-- Marks that extend what stands before them. -/
def graphemeExtend : Ranges := nonspacingMarks ++ enclosingMarks ++ otherGraphemeExtend

/-- What can stand alone: what is seen, but for what extends what stands before it. -/
def graphemeBase : CharSet :=
  (CharSet.ofRanges (letters ++ marks ++ numbers ++ punctuation ++ symbols ++ spaceSeparators)).diff
    (.ofRanges graphemeExtend)

/-- Characters without an effect on the case of what stands around them. -/
def caseIgnorable : Ranges :=
  nonspacingMarks ++ enclosingMarks ++ formats ++ modifierLetters ++ modifierSymbols ++
    [(0x27, 0x27), (0x2E, 0x2E), (0x3A, 0x3A), (0xB7, 0xB7), (0x387, 0x387), (0x55F, 0x55F),
      (0x5F4, 0x5F4), (0x2018, 0x2019), (0x2024, 0x2024), (0x2027, 0x2027), (0xFE13, 0xFE13),
      (0xFE52, 0xFE52), (0xFE55, 0xFE55), (0xFF07, 0xFF07), (0xFF0E, 0xFF0E), (0xFF1A, 0xFF1A)]

/-- Beginnings of identifiers. -/
def idStart : CharSet :=
  (CharSet.ofRanges (letters ++ letterNumbers ++ otherIdStart)).diff (.ofRanges [(0x2E2F, 0x2E2F)])

/-- Parts of identifiers. -/
def idContinue : CharSet :=
  idStart.union (.ofRanges (nonspacingMarks ++ spacingMarks ++ decimalNumbers ++ connectors ++
    otherIdContinue))

/-- Characters that are no parts of identifiers once compatible characters are one. -/
def compatible : Ranges :=
  [(0x37A, 0x37A), (0x309B, 0x309C), (0xFC5E, 0xFC63), (0xFDFA, 0xFDFB), (0xFE70, 0xFE70),
    (0xFE72, 0xFE72), (0xFE74, 0xFE74), (0xFE76, 0xFE76), (0xFE78, 0xFE78), (0xFE7A, 0xFE7A),
    (0xFE7C, 0xFE7C), (0xFE7E, 0xFE7E)]

/-- Vowel signs and voicing marks that become marks then, and begin no identifier. -/
def compatibleMarks : Ranges := [(0xE33, 0xE33), (0xEB3, 0xEB3), (0xFF9E, 0xFF9F)]

/-! ### Names -/

/-- A name without what does not count: without a leading `is`, in small letters, and
without blanks, hyphens, underscores and whatever is not ASCII. -/
def normalize (name : List Char) : String :=
  let plain (name : List Char) : List Char :=
    (name.filter fun c => c ≠ ' ' && c ≠ '-' && c ≠ '_' && c.toNat < 128).map Char.toLower
  String.ofList <| match name with
    | first :: second :: more =>
      if first.toLower = 'i' && second.toLower = 's' then
        if plain more = ['c'] then ['i', 's', 'c'] else plain more
      else plain name
    | _ => plain name

/-- The general category of a normalized name. -/
def category? (name : String) : Option CharSet :=
  match name with
  | "any" => some (.ofRanges [(0, lastCodePoint)])
  | "ascii" => some (.ofRanges [(0, 0x7F)])
  | "assigned" => some (.ofRanges assigned)
  | "l" | "letter" => some (.ofRanges letters)
  | "lc" | "casedletter" =>
    some (.ofRanges (uppercaseLetters ++ lowercaseLetters ++ titlecaseLetters))
  | "lu" | "uppercaseletter" => some (.ofRanges uppercaseLetters)
  | "ll" | "lowercaseletter" => some (.ofRanges lowercaseLetters)
  | "lt" | "titlecaseletter" => some (.ofRanges titlecaseLetters)
  | "lm" | "modifierletter" => some (.ofRanges modifierLetters)
  | "lo" | "otherletter" => some (.ofRanges otherLetters)
  | "m" | "mark" | "combiningmark" => some (.ofRanges marks)
  | "mn" | "nonspacingmark" => some (.ofRanges nonspacingMarks)
  | "mc" | "spacingmark" => some (.ofRanges spacingMarks)
  | "me" | "enclosingmark" => some (.ofRanges enclosingMarks)
  | "n" | "number" => some numberSet
  | "nd" | "decimalnumber" | "digit" => some decimalSet
  | "nl" | "letternumber" => some (.ofRanges letterNumbers)
  | "no" | "othernumber" => some (.ofRanges otherNumbers)
  | "p" | "punctuation" | "punct" => some (.ofRanges punctuation)
  | "pc" | "connectorpunctuation" => some (.ofRanges connectors)
  | "pd" | "dashpunctuation" => some (.ofRanges dashes)
  | "ps" | "openpunctuation" => some (.ofRanges openPunctuation)
  | "pe" | "closepunctuation" => some (.ofRanges closePunctuation)
  | "pi" | "initialpunctuation" => some (.ofRanges initialPunctuation)
  | "pf" | "finalpunctuation" => some (.ofRanges finalPunctuation)
  | "po" | "otherpunctuation" => some (.ofRanges otherPunctuation)
  | "s" | "symbol" => some (.ofRanges symbols)
  | "sm" | "mathsymbol" => some (.ofRanges mathSymbols)
  | "sc" | "currencysymbol" => some (.ofRanges currencySymbols)
  | "sk" | "modifiersymbol" => some (.ofRanges modifierSymbols)
  | "so" | "othersymbol" => some (.ofRanges otherSymbols)
  | "z" | "separator" => some (.ofRanges separators)
  | "zs" | "spaceseparator" => some (.ofRanges spaceSeparators)
  | "zl" | "lineseparator" => some (.ofRanges lineSeparators)
  | "zp" | "paragraphseparator" => some (.ofRanges paragraphSeparators)
  | "c" | "other" => some (CharSet.ofRanges visible).compl
  | "cc" | "control" | "cntrl" => some (.ofRanges controls)
  | "cf" | "format" => some (.ofRanges formats)
  | "cn" | "unassigned" => some (CharSet.ofRanges assigned).compl
  | "co" | "privateuse" => some (.ofRanges privateUse)
  | _ => none

/-- The table with a normalized name. -/
def named? (tables : List (List String × Ranges)) (name : String) : Option CharSet :=
  (tables.find? (·.1.contains name)).map (.ofRanges ·.2)

/-- The script of a normalized name. -/
def script? (name : String) : Option CharSet := named? scripts name

/-- The property of a normalized name that cuts across the general categories. -/
def trait? (name : String) : Option CharSet :=
  match name with
  | "alphabetic" | "alpha" => some alphabeticSet
  | "uppercase" | "upper" => some (.ofRanges uppercase)
  | "lowercase" | "lower" => some (.ofRanges lowercase)
  | "cased" => some (.ofRanges (uppercase ++ lowercase ++ titlecaseLetters))
  | "caseignorable" | "ci" => some (.ofRanges caseIgnorable)
  | "whitespace" | "wspace" | "space" => some whiteSpaceSet
  | "math" => some (.ofRanges (mathSymbols ++ otherMath))
  | "idstart" | "ids" => some idStart
  | "idcontinue" | "idc" => some idContinue
  | "xidstart" | "xids" => some (idStart.diff (.ofRanges (compatible ++ compatibleMarks)))
  | "xidcontinue" | "xidc" => some (idContinue.diff (.ofRanges compatible))
  | "graphemeextend" | "grext" => some (.ofRanges graphemeExtend)
  | "graphemebase" | "grbase" => some graphemeBase
  | _ => named? traits name

/-- The set of a name that stands alone. -/
def CharSet.ofName? (name : List Char) : Option CharSet :=
  let name := normalize name
  ((trait? name).or (category? name)).or (script? name)

/-- The set of the value of a property. -/
def CharSet.ofValue? (property value : List Char) : Option CharSet :=
  match normalize property with
  | "gc" | "generalcategory" => category? (normalize value)
  | "sc" | "script" => script? (normalize value)
  | _ => none

end Descent.Unicode
