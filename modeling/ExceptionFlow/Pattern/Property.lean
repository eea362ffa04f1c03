import ExceptionFlow.Text.Age
import ExceptionFlow.Text.Segment

set_option autoImplicit false

/-! # Properties by name

A pattern names a set of characters by a property that they have, such as `Uppercase` or `Greek`, or
by the value of a property, such as `sc=Greek`. Capitals, spaces, underscores and hyphens do not
matter in a name, nor does a leading `is`. -/

namespace ExceptionFlow.Pattern

open Text (CharSet)

/-- A name in small letters, without the marks between words and without a leading `is`. What is not
    ASCII is left out. Only `isc` is kept as it is: it names a property of its own, while `c` is a
    category. -/
def plainName (name : List Char) : String :=
  let simplify (cs : List Char) : String :=
    String.ofList ((cs.filter fun c =>
      decide (c.toNat < 128) && c != ' ' && c != '_' && c != '-').map Char.toLower)
  match name with
  | i :: s :: rest =>
    if i.toLower = 'i' ∧ s.toLower = 's' then
      if simplify rest = "c" then "isc" else simplify rest
    else simplify name
  | _ => simplify name

/-- The set that one of several names stands for. -/
def named? (table : List (List String × CharSet)) (name : String) : Option CharSet :=
  (table.find? (·.1.contains name)).map (·.2)

/-- The properties that a character has or has not. -/
def binaryProperties : List (List String × CharSet) :=
  [(["asciihexdigit", "ahex"], Text.asciiHexDigits),
   (["alphabetic", "alpha"], Text.alphabetic),
   (["bidicontrol", "bidic"], Text.bidiControls),
   (["bidimirrored", "bidim"], Text.bidiMirrored),
   (["caseignorable", "ci"], Text.caseIgnorable),
   (["cased"], Text.cased),
   (["changeswhencasefolded", "cwcf"], Text.changesWhenCasefolded),
   (["changeswhencasemapped", "cwcm"], Text.changesWhenCasemapped),
   (["changeswhenlowercased", "cwl"], Text.changesWhenLowercased),
   (["changeswhentitlecased", "cwt"], Text.changesWhenTitlecased),
   (["changeswhenuppercased", "cwu"], Text.changesWhenUppercased),
   (["dash"], Text.dashes),
   (["defaultignorablecodepoint", "di"], Text.defaultIgnorable),
   (["deprecated", "dep"], Text.deprecatedChars),
   (["diacritic", "dia"], Text.diacritics),
   (["emoji"], Text.emoji),
   (["emojicomponent", "ecomp"], Text.emojiComponents),
   (["emojimodifier", "emod"], Text.emojiModifiers),
   (["emojimodifierbase", "ebase"], Text.emojiModifierBases),
   (["emojipresentation", "epres"], Text.emojiPresentation),
   (["extendedpictographic", "extpict"], Text.extendedPictographic),
   (["extender", "ext"], Text.extenders),
   (["graphemebase", "grbase"], Text.graphemeBase),
   (["graphemeextend", "grext"], Text.graphemeExtend),
   (["graphemelink", "grlink"], Text.graphemeLinks),
   (["hexdigit", "hex"], Text.hexDigits),
   (["hyphen"], Text.hyphens),
   (["idcompatmathcontinue"], Text.compatMathContinue),
   (["idcompatmathstart"], Text.compatMathStart),
   (["idcontinue", "idc"], Text.idContinue),
   (["idstart", "ids"], Text.idStart),
   (["ideographic", "ideo"], Text.ideographs),
   (["idsbinaryoperator", "idsb"], Text.ideographicBinaryOperators),
   (["idstrinaryoperator", "idst"], Text.ideographicTrinaryOperators),
   (["idsunaryoperator", "idsu"], Text.ideographicUnaryOperators),
   (["joincontrol", "joinc"], Text.joinControls),
   (["logicalorderexception", "loe"], Text.logicalOrderExceptions),
   (["lowercase", "lower"], Text.lowercase),
   (["math"], Text.math),
   (["modifiercombiningmark", "mcm"], Text.modifierCombiningMarks),
   (["noncharactercodepoint", "nchar"], Text.noncharacters),
   (["otheralphabetic", "oalpha"], Text.otherAlphabetic),
   (["otherdefaultignorablecodepoint", "odi"], Text.otherDefaultIgnorable),
   (["othergraphemeextend", "ogrext"], Text.otherGraphemeExtend),
   (["otheridcontinue", "oidc"], Text.otherIdContinue),
   (["otheridstart", "oids"], Text.otherIdStart),
   (["otherlowercase", "olower"], Text.otherLowercase),
   (["othermath", "omath"], Text.otherMath),
   (["otheruppercase", "oupper"], Text.otherUppercase),
   (["patternsyntax", "patsyn"], Text.patternPunctuation),
   (["patternwhitespace", "patws"], Text.patternBlanks),
   (["prependedconcatenationmark", "pcm"], Text.prependedMarks),
   (["quotationmark", "qmark"], Text.quotationMarks),
   (["radical"], Text.radicals),
   (["regionalindicator", "ri"], Text.regionalIndicators),
   (["sentenceterminal", "sterm"], Text.sentenceTerminals),
   (["softdotted", "sd"], Text.softDotted),
   (["terminalpunctuation", "term"], Text.terminalPunctuation),
   (["unifiedideograph", "uideo"], Text.unifiedIdeographs),
   (["uppercase", "upper"], Text.uppercase),
   (["variationselector", "vs"], Text.variationSelectors),
   (["whitespace", "wspace", "space"], Text.blanks),
   (["xidcontinue", "xidc"], Text.xidContinue),
   (["xidstart", "xids"], Text.xidStart)]

/-- The general categories, with the sets that are named like one. -/
def categories : List (List String × CharSet) :=
  [(["any"], .all),
   (["assigned"], Text.assigned),
   (["ascii"], .ofTable ["0-7F"]),
   (["other", "c"], Text.others),
   (["control", "cc", "cntrl"], Text.controls),
   (["format", "cf"], Text.formats),
   (["unassigned", "cn"], Text.unassigned),
   (["privateuse", "co"], Text.privateUse),
   (["letter", "l"], Text.letters),
   (["casedletter", "lc"], Text.casedLetters),
   (["lowercaseletter", "ll"], Text.lowercaseLetters),
   (["modifierletter", "lm"], Text.modifierLetters),
   (["otherletter", "lo"], Text.otherLetters),
   (["titlecaseletter", "lt"], Text.titlecaseLetters),
   (["uppercaseletter", "lu"], Text.uppercaseLetters),
   (["mark", "m", "combiningmark"], Text.marks),
   (["spacingmark", "mc"], Text.spacingMarks),
   (["enclosingmark", "me"], Text.enclosingMarks),
   (["nonspacingmark", "mn"], Text.nonspacingMarks),
   (["number", "n"], Text.numbers),
   (["decimalnumber", "nd", "digit"], Text.decimalNumbers),
   (["letternumber", "nl"], Text.letterNumbers),
   (["othernumber", "no"], Text.otherNumbers),
   (["punctuation", "p", "punct"], Text.punctuation),
   (["connectorpunctuation", "pc"], Text.connectorPunctuation),
   (["dashpunctuation", "pd"], Text.dashPunctuation),
   (["closepunctuation", "pe"], Text.closePunctuation),
   (["finalpunctuation", "pf"], Text.finalPunctuation),
   (["initialpunctuation", "pi"], Text.initialPunctuation),
   (["otherpunctuation", "po"], Text.otherPunctuation),
   (["openpunctuation", "ps"], Text.openPunctuation),
   (["symbol", "s"], Text.symbols),
   (["currencysymbol", "sc"], Text.currencySymbols),
   (["modifiersymbol", "sk"], Text.modifierSymbols),
   (["mathsymbol", "sm"], Text.mathSymbols),
   (["othersymbol", "so"], Text.otherSymbols),
   (["separator", "z"], Text.separators),
   (["lineseparator", "zl"], Text.lineSeparators),
   (["paragraphseparator", "zp"], Text.paragraphSeparators),
   (["spaceseparator", "zs"], Text.spaceSeparators)]

/-- The set that a name stands for: a property, a general category or a script. -/
def propertyByName? (name : String) : Option CharSet :=
  named? binaryProperties name <|> named? categories name <|>
    (Text.script? name).map (·.members)

/-- The set of characters for which a property has a value. -/
def propertyByValue? (property value : String) : Option CharSet :=
  match property with
  | "generalcategory" | "gc" => named? categories value
  | "script" | "sc" => (Text.script? value).map (·.members)
  | "scriptextensions" | "scx" => (Text.script? value).map (·.used)
  | "age" => Text.charsOfVersion? value
  | "graphemeclusterbreak" | "gcb" => named? Text.clusterClasses value
  | "wordbreak" | "wb" => named? Text.wordClasses value
  | "sentencebreak" | "sb" => named? Text.sentenceClasses value
  | _ => none

/-- Cut a text at the first place where a separator stands. -/
def cutAt? (separator : List Char) : List Char → Option (List Char × List Char)
  | [] => none
  | c :: rest =>
    if separator.isPrefixOf (c :: rest) then some ([], (c :: rest).drop separator.length)
    else (cutAt? separator rest).map fun (before, after) => (c :: before, after)

/-- The set that the text between the braces of a property stands for. A property and its value are
    separated by `!=`, `:` or `=`, all of which ask for the value. -/
def property? (text : List Char) : Option CharSet :=
  match cutAt? ['!', '='] text <|> cutAt? [':'] text <|> cutAt? ['='] text with
  | some (property, value) => propertyByValue? (plainName property) (plainName value)
  | none => propertyByName? (plainName text)

end ExceptionFlow.Pattern
