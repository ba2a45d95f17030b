import Timekeeper.Unicode.Binary
import Timekeeper.Unicode.Derived
import Timekeeper.Unicode.Letter
import Timekeeper.Unicode.Mark
import Timekeeper.Unicode.Number
import Timekeeper.Unicode.Script
import Timekeeper.Unicode.Symbol
import Timekeeper.Unicode.Word

/-!
# Properties by name

A **property** is a union of character sets or the complement of one. It is found by name:
a binary property, a general category or a script, in that order, under its full name or
its code. Names are compared without case, spaces, hyphens, underscores and a leading `is`.
-/

namespace Timekeeper

namespace Unicode

/-- A union of sets, or all characters outside of it. -/
structure Property where
  sets : List CodeSet
  outside : Bool

namespace Property

/-- Whether a character has the property. -/
def holds (p : Property) (c : Char) : Bool := p.sets.any (·.contains c) != p.outside

/-- The property of belonging to one of some sets. -/
def union (sets : List CodeSet) : Property := ⟨sets, false⟩

/-! ### Names -/

/-- The name without case, spaces, hyphens and underscores; what is not ASCII is dropped. -/
def plainName (name : List Char) : List Char :=
  (name.filter fun c => c != ' ' && c != '_' && c != '-' && c.toNat < 128).map Char.toLower

/-- The name under which a property is looked up. A leading `is` is dropped, except that
`isc` names a property of its own. -/
def lookupName (name : List Char) : String :=
  match name with
  | i :: s :: rest =>
    if i.toLower = 'i' ∧ s.toLower = 's' then
      if plainName rest = ['c'] then "isc" else String.ofList (plainName rest)
    else String.ofList (plainName name)
  | _ => String.ofList (plainName name)

/-- The entry listed under a name. -/
def named (table : List (List String × α)) (name : String) : Option α :=
  (table.find? fun row => row.1.contains name).map Prod.snd

/-! ### General categories -/

/-- The categories that are not unions of others. -/
def categories : List (List String × CodeSet) := [
  (["lu", "uppercaseletter"], uppercaseLetter),
  (["ll", "lowercaseletter"], lowercaseLetter),
  (["lt", "titlecaseletter"], titlecaseLetter),
  (["lm", "modifierletter"], modifierLetter),
  (["lo", "otherletter"], otherLetter),
  (["mn", "nonspacingmark"], nonspacingMark),
  (["mc", "spacingmark"], spacingMark),
  (["me", "enclosingmark"], enclosingMark),
  (["nd", "decimalnumber", "digit"], decimalNumber),
  (["nl", "letternumber"], letterNumber),
  (["no", "othernumber"], otherNumber),
  (["pc", "connectorpunctuation"], connectorPunctuation),
  (["pd", "dashpunctuation"], dashPunctuation),
  (["ps", "openpunctuation"], openPunctuation),
  (["pe", "closepunctuation"], closePunctuation),
  (["pi", "initialpunctuation"], initialPunctuation),
  (["pf", "finalpunctuation"], finalPunctuation),
  (["po", "otherpunctuation"], otherPunctuation),
  (["sm", "mathsymbol"], mathSymbol),
  (["sc", "currencysymbol"], currencySymbol),
  (["sk", "modifiersymbol"], modifierSymbol),
  (["so", "othersymbol"], otherSymbol),
  (["zs", "spaceseparator"], spaceSeparator),
  (["zl", "lineseparator"], lineSeparator),
  (["zp", "paragraphseparator"], paragraphSeparator),
  (["cc", "control", "cntrl"], control),
  (["cf", "format"], format),
  (["co", "privateuse"], privateUse)]

/-- The categories in whose name the given letter comes first. -/
def categoriesUnder (letter : Char) : List CodeSet :=
  (categories.filter fun row => (row.1.head?.bind (·.toList.head?)) == some letter).map Prod.snd

/-- The unions of categories, and the names for all, all assigned and all ASCII characters. -/
def categoryUnions : List (List String × Property) := [
  (["any"], ⟨[], true⟩),
  (["assigned"], union (categories.map Prod.snd)),
  (["ascii"], union [⟨[0, 0x80]⟩]),
  (["cn", "unassigned"], ⟨categories.map Prod.snd, true⟩),
  (["c", "other"],
    ⟨['l', 'm', 'n', 'p', 's', 'z'].flatMap categoriesUnder, true⟩),
  (["l", "letter"], union (categoriesUnder 'l')),
  (["lc", "casedletter"], union [uppercaseLetter, lowercaseLetter, titlecaseLetter]),
  (["m", "mark", "combiningmark"], union (categoriesUnder 'm')),
  (["n", "number"], union (categoriesUnder 'n')),
  (["p", "punctuation", "punct"], union (categoriesUnder 'p')),
  (["s", "symbol"], union (categoriesUnder 's')),
  (["z", "separator"], union (categoriesUnder 'z'))]

/-- The general category of a name. -/
def category? (name : String) : Option Property :=
  ((named categories name).map fun s => union [s]) <|> named categoryUnions name

/-- The script of a name. -/
def script? (name : String) : Option Property := (named scripts name).map fun s => union [s]

/-! ### Binary properties -/

/-- White space. -/
def whiteSpace : CodeSet :=
  ⟨[0x9, 0xe, 0x20, 0x21, 0x85, 0x86, 0xa0, 0xa1, 0x1680, 0x1681, 0x2000, 0x200b, 0x2028, 0x202a,
    0x202f, 0x2030, 0x205f, 0x2060, 0x3000, 0x3001]⟩

/-- The binary properties with their names. -/
def binaries : List (List String × List CodeSet) := [
  (["whitespace", "wspace", "space"], [whiteSpace]),
  (["alphabetic", "alpha"], [alphabetic]),
  (["asciihexdigit", "ahex"], [asciiHexDigit]),
  (["cased"], [cased]),
  (["caseignorable", "ci"], [caseIgnorable]),
  (["dash"], [dash]),
  (["defaultignorablecodepoint", "di"], [defaultIgnorableCodePoint]),
  (["diacritic", "dia"], [diacritic]),
  (["emoji"], [emoji]),
  (["emojipresentation", "epres"], [emojiPresentation]),
  (["extendedpictographic", "extpict"], [extendedPictographic]),
  (["extender", "ext"], [extender]),
  (["graphemeextend", "grext"], [graphemeExtend]),
  (["hexdigit", "hex"], [hexDigit]),
  (["ideographic", "ideo"], [ideographic]),
  (["joincontrol", "joinc"], [joinControl]),
  (["lowercase", "lower"], [lowercase]),
  (["math"], [math]),
  (["noncharactercodepoint", "nchar"], [noncharacterCodePoint]),
  (["patternwhitespace", "patws"], [patternWhiteSpace]),
  (["quotationmark", "qmark"], [quotationMark]),
  (["softdotted", "sd"], [softDotted]),
  (["unifiedideograph", "uideo"], [unifiedIdeograph]),
  (["uppercase", "upper"], [uppercase]),
  (["variationselector", "vs"], [variationSelector])]

/-- The binary property of a name. -/
def binary? (name : String) : Option Property := (named binaries name).map union

/-! ### Look-up -/

/-- What a name, or a name with a value, says. -/
inductive Lookup where
  | found (property : Property)
  | unknownName
  | unknownValue

/-- The property of a single name. The surrogates have a name, but no character is one. -/
def find (name : List Char) : Lookup :=
  let key := lookupName name
  match binary? key <|> category? key <|> script? key with
  | some p => .found p
  | none => if key = "cs" ∨ key = "surrogate" then .unknownValue else .unknownName

/-- The property of a name and a value, such as a script and the script's name. -/
def findValue (name value : List Char) : Lookup :=
  let key := lookupName value
  let inTable (found : Option Property) : Lookup :=
    match found with
    | some p => .found p
    | none => .unknownValue
  match lookupName name with
  | "generalcategory" | "gc" => inTable (category? key)
  | "script" | "sc" => inTable (script? key)
  | "scriptextensions" | "scx" => inTable (script? key)
  | other => if (binary? other).isSome then .unknownValue else .unknownName

end Property

end Unicode

end Timekeeper
