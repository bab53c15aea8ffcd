import TrafficGateway.Regex.CharSet

/-!
# Names of character properties

A pattern names sets of characters by a general category, a script or a binary property. Names are
compared loosely: case, spaces, hyphens and underscores do not count, nor does a leading `is`. The
binary properties are those of `CharProperty`; the extensions of scripts, ages and the kinds of breaks
are not known.

## Main definitions

* `PropertyName.normalize`: what counts of a name.
* `Category.named?`: the categories with a name.
* `CharSet.named?`: the set with a name.
* `CharSet.valued?`: the set of a property with a value.
-/

namespace TrafficGateway

/-- What counts of the name of a property: its ASCII characters in lower case, without separators
and without a leading `is`. What is left of `isc` is the name itself, since it is a name of its
own. -/
def PropertyName.normalize (name : List Char) : List Char :=
  let keep (cs : List Char) : List Char :=
    (cs.filter fun c => c.toNat ≤ 0x7f && c != ' ' && c != '_' && c != '-').map Char.toLower
  match name with
  | i :: s :: rest =>
    if (i = 'i' ∨ i = 'I') ∧ (s = 's' ∨ s = 'S') then
      if keep rest = ['c'] then ['i', 's', 'c'] else keep rest
    else keep name
  | _ => keep name

/-- The categories with a normalized name: one of them, or a group. -/
def Category.named? : String → Option (List Category)
  | "lu" | "uppercaseletter" => some [.uppercaseLetter]
  | "ll" | "lowercaseletter" => some [.lowercaseLetter]
  | "lt" | "titlecaseletter" => some [.titlecaseLetter]
  | "lm" | "modifierletter" => some [.modifierLetter]
  | "lo" | "otherletter" => some [.otherLetter]
  | "mn" | "nonspacingmark" => some [.nonspacingMark]
  | "mc" | "spacingmark" => some [.spacingMark]
  | "me" | "enclosingmark" => some [.enclosingMark]
  | "nd" | "decimalnumber" | "digit" => some [.decimalNumber]
  | "nl" | "letternumber" => some [.letterNumber]
  | "no" | "othernumber" => some [.otherNumber]
  | "pc" | "connectorpunctuation" => some [.connectorPunctuation]
  | "pd" | "dashpunctuation" => some [.dashPunctuation]
  | "ps" | "openpunctuation" => some [.openPunctuation]
  | "pe" | "closepunctuation" => some [.closePunctuation]
  | "pi" | "initialpunctuation" => some [.initialPunctuation]
  | "pf" | "finalpunctuation" => some [.finalPunctuation]
  | "po" | "otherpunctuation" => some [.otherPunctuation]
  | "sm" | "mathsymbol" => some [.mathSymbol]
  | "sc" | "currencysymbol" => some [.currencySymbol]
  | "sk" | "modifiersymbol" => some [.modifierSymbol]
  | "so" | "othersymbol" => some [.otherSymbol]
  | "zs" | "spaceseparator" => some [.spaceSeparator]
  | "zl" | "lineseparator" => some [.lineSeparator]
  | "zp" | "paragraphseparator" => some [.paragraphSeparator]
  | "cc" | "control" | "cntrl" => some [.control]
  | "cf" | "format" => some [.format]
  | "cs" | "surrogate" => some [.surrogate]
  | "co" | "privateuse" => some [.privateUse]
  | "cn" | "unassigned" => some [.unassigned]
  | "lc" | "casedletter" => some [.uppercaseLetter, .lowercaseLetter, .titlecaseLetter]
  | "l" | "letter" =>
    some [.uppercaseLetter, .lowercaseLetter, .titlecaseLetter, .modifierLetter, .otherLetter]
  | "m" | "mark" | "combiningmark" => some [.nonspacingMark, .spacingMark, .enclosingMark]
  | "n" | "number" => some [.decimalNumber, .letterNumber, .otherNumber]
  | "p" | "punctuation" | "punct" =>
    some
      [.connectorPunctuation, .dashPunctuation, .openPunctuation, .closePunctuation,
        .initialPunctuation, .finalPunctuation, .otherPunctuation]
  | "s" | "symbol" => some [.mathSymbol, .currencySymbol, .modifierSymbol, .otherSymbol]
  | "z" | "separator" => some [.spaceSeparator, .lineSeparator, .paragraphSeparator]
  | "c" | "other" => some [.control, .format, .surrogate, .privateUse, .unassigned]
  | _ => none

namespace CharSet

/-- The set of the categories with a normalized name, and three sets that are no categories but may
stand for one. -/
def categoryNamed? (name : String) : Option CharSet :=
  match name with
  | "any" => some all
  | "assigned" => some (compl (category [.unassigned]))
  | "ascii" => some (range 0 0x7f)
  | name => (Category.named? name).map category

/-- The set of the script with a normalized name. -/
def scriptNamed? (name : String) : Option CharSet :=
  (Script.codeOf? name).map script

/-- Names of properties that are not of the kind that a code point has or has not. -/
def isValuedProperty (name : String) : Bool :=
  ["age", "generalcategory", "gc", "script", "scriptextensions", "scx", "graphemeclusterbreak",
    "gcb", "wordbreak", "wb", "sentencebreak", "sb", "block", "blk", "casefolding",
    "lowercasemapping", "uppercasemapping", "titlecasemapping", "linebreak", "bidiclass", "bc",
    "name", "na", "numerictype", "nt", "numericvalue", "nv"].contains name

/-- The set with a name: a property, else a category, else a script. Three names of properties are
more useful as categories. -/
def named? (name : List Char) : Option CharSet :=
  let name := String.ofList (PropertyName.normalize name)
  let byCategory := (categoryNamed? name).or (scriptNamed? name)
  if name == "cf" || name == "sc" || name == "lc" then byCategory
  else if isValuedProperty name then none
  else
    match CharProperty.ofName? name with
    | some p => some (property p)
    | none => byCategory

/-- The set of a property with a value: a category or a script. -/
def valued? (name value : List Char) : Option CharSet :=
  let value := String.ofList (PropertyName.normalize value)
  match String.ofList (PropertyName.normalize name) with
  | "generalcategory" | "gc" => categoryNamed? value
  | "script" | "sc" => scriptNamed? value
  | _ => none

end CharSet

end TrafficGateway
