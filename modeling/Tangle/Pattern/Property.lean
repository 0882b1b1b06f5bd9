import Tangle.Pattern.CharSet
import Tangle.Unicode.Script

/-!
# Character sets by property

The names under which patterns ask for general categories, scripts and binary properties. Case,
blanks, hyphens and underscores in a name make no difference.
-/

namespace Tangle.Pattern

open Unicode

/-- A name in lower case without blanks, hyphens and underscores. -/
def normalName (name : String) : String :=
  String.ofList <| (name.toList.filter fun c => c ≠ ' ' && c ≠ '-' && c ≠ '_').map Char.toLower

/-- The general categories and their groups, under all their names. -/
def categoryNames : List (List String × List CodePointSet) :=
  let cased := [Category.uppercaseLetter, Category.lowercaseLetter, Category.titlecaseLetter]
  let letters := cased ++ [Category.modifierLetter, Category.otherLetter]
  let marks := [Category.nonspacingMark, Category.spacingMark, Category.enclosingMark]
  let numbers := [Category.decimalNumber, Category.letterNumber, Category.otherNumber]
  let punctuation := [Category.connectorPunctuation, Category.dashPunctuation,
    Category.openPunctuation, Category.closePunctuation, Category.initialPunctuation,
    Category.finalPunctuation, Category.otherPunctuation]
  let symbols := [Category.mathSymbol, Category.currencySymbol, Category.modifierSymbol,
    Category.otherSymbol]
  let separators := [Category.spaceSeparator, Category.lineSeparator, Category.paragraphSeparator]
  let others := [Category.control, Category.format, Category.surrogate, Category.privateUse,
    Category.unassigned]
  [(["C", "Other"], others), (["Cc", "Control", "Cntrl"], [Category.control]),
    (["Cf", "Format"], [Category.format]), (["Cn", "Unassigned"], [Category.unassigned]),
    (["Co", "Private_Use"], [Category.privateUse]), (["Cs", "Surrogate"], [Category.surrogate]),
    (["L", "Letter"], letters), (["LC", "Cased_Letter"], cased),
    (["Ll", "Lowercase_Letter"], [Category.lowercaseLetter]),
    (["Lm", "Modifier_Letter"], [Category.modifierLetter]),
    (["Lo", "Other_Letter"], [Category.otherLetter]),
    (["Lt", "Titlecase_Letter"], [Category.titlecaseLetter]),
    (["Lu", "Uppercase_Letter"], [Category.uppercaseLetter]),
    (["M", "Mark", "Combining_Mark"], marks), (["Mc", "Spacing_Mark"], [Category.spacingMark]),
    (["Me", "Enclosing_Mark"], [Category.enclosingMark]),
    (["Mn", "Nonspacing_Mark"], [Category.nonspacingMark]), (["N", "Number"], numbers),
    (["Nd", "Decimal_Number", "Digit"], [Category.decimalNumber]),
    (["Nl", "Letter_Number"], [Category.letterNumber]),
    (["No", "Other_Number"], [Category.otherNumber]), (["P", "Punctuation", "Punct"], punctuation),
    (["Pc", "Connector_Punctuation"], [Category.connectorPunctuation]),
    (["Pd", "Dash_Punctuation"], [Category.dashPunctuation]),
    (["Pe", "Close_Punctuation"], [Category.closePunctuation]),
    (["Pf", "Final_Punctuation"], [Category.finalPunctuation]),
    (["Pi", "Initial_Punctuation"], [Category.initialPunctuation]),
    (["Po", "Other_Punctuation"], [Category.otherPunctuation]),
    (["Ps", "Open_Punctuation"], [Category.openPunctuation]), (["S", "Symbol"], symbols),
    (["Sc", "Currency_Symbol"], [Category.currencySymbol]),
    (["Sk", "Modifier_Symbol"], [Category.modifierSymbol]),
    (["Sm", "Math_Symbol"], [Category.mathSymbol]),
    (["So", "Other_Symbol"], [Category.otherSymbol]),
    (["Z", "Separator"], separators), (["Zl", "Line_Separator"], [Category.lineSeparator]),
    (["Zp", "Paragraph_Separator"], [Category.paragraphSeparator]),
    (["Zs", "Space_Separator"], [Category.spaceSeparator])]

/-- The binary properties, under all their names. -/
def binaryNames : List (List String × CharSet) :=
  [(["Alphabetic", "Alpha"], .table Property.alphabetic),
    (["Uppercase", "Upper"], .table Property.uppercase),
    (["Lowercase", "Lower"], .table Property.lowercase),
    (["Cased"], .table Property.cased),
    (["Case_Ignorable", "CI"], .table Property.caseIgnorable),
    (["Grapheme_Extend", "Gr_Ext"], .table Property.graphemeExtend),
    (["White_Space", "WSpace", "space"], .space),
    (["Any"], .anything),
    (["ASCII"], .interval '\x00' '\x7F'),
    (["Assigned"], .complement (.table Category.unassigned))]

/-- The set of a general category. -/
def categorySet? (name : String) : Option CharSet :=
  (categoryNames.find? fun entry => (entry.1.map normalName).contains (normalName name)).map
    fun entry => .unionOf (entry.2.map .table)

/-- The set of a script. -/
def scriptSet? (name : String) : Option CharSet :=
  (Script.all.find? fun entry => normalName entry.1 = normalName name).map fun entry =>
    .table entry.2

/-- The set of a binary property. -/
def binarySet? (name : String) : Option CharSet :=
  (binaryNames.find? fun entry => (entry.1.map normalName).contains (normalName name)).map (·.2)

/-- The set that a single name asks for. A leading "is" may stand before it. -/
def namedSet? (name : String) : Option CharSet :=
  let find (n : String) := (binarySet? n).or ((categorySet? n).or (scriptSet? n))
  match find name with
  | some s => some s
  | none =>
    match (normalName name).toList with
    | 'i' :: 's' :: rest => find (String.ofList rest)
    | _ => none

/-- The set that a property and its value ask for. -/
def valuedSet? (property value : String) : Option CharSet :=
  match normalName property with
  | "generalcategory" | "gc" => (categorySet? value).or
      (if normalName value = "any" || normalName value = "ascii" || normalName value = "assigned"
        then binarySet? value else none)
  | "script" | "sc" => scriptSet? value
  | _ => none

end Tangle.Pattern
