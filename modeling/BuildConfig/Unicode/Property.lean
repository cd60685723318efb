import BuildConfig.Unicode.Age
import BuildConfig.Unicode.Break

namespace BuildConfig.Unicode

/-- The properties that a character has or has not, by their names. -/
def binaryProperties : List (List String × CodeSet) :=
  [(["ahex", "asciihexdigit"], asciiHexDigit), (["alpha", "alphabetic"], alphabetic),
    (["bidic", "bidicontrol"], bidiControl), (["bidim", "bidimirrored"], bidiMirrored),
    (["caseignorable", "ci"], caseIgnorable), (["cased"], cased),
    (["changeswhencasefolded", "cwcf"], changesWhenCasefolded),
    (["changeswhencasemapped", "cwcm"], changesWhenCasemapped),
    (["changeswhenlowercased", "cwl"], changesWhenLowercased),
    (["changeswhentitlecased", "cwt"], changesWhenTitlecased),
    (["changeswhenuppercased", "cwu"], changesWhenUppercased), (["dash"], dash),
    (["defaultignorablecodepoint", "di"], defaultIgnorableCodePoint),
    (["dep", "deprecated"], deprecated), (["dia", "diacritic"], diacritic),
    (["ebase", "emojimodifierbase"], emojiModifierBase),
    (["ecomp", "emojicomponent"], emojiComponent), (["emod", "emojimodifier"], emojiModifier),
    (["emoji"], emoji), (["emojipresentation", "epres"], emojiPresentation),
    (["ext", "extender"], extender), (["extendedpictographic", "extpict"], extendedPictographic),
    (["graphemebase", "grbase"], graphemeBase), (["graphemeextend", "grext"], graphemeExtend),
    (["graphemelink", "grlink"], graphemeLink), (["hex", "hexdigit"], hexDigit),
    (["hyphen"], hyphen), (["idc", "idcontinue"], idContinue),
    (["idcompatmathcontinue"], idCompatMathContinue), (["idcompatmathstart"], idCompatMathStart),
    (["ideo", "ideographic"], ideographic), (["ids", "idstart"], idStart),
    (["idsb", "idsbinaryoperator"], idsBinaryOperator),
    (["idst", "idstrinaryoperator"], idsTrinaryOperator),
    (["idsu", "idsunaryoperator"], idsUnaryOperator), (["joinc", "joincontrol"], joinControl),
    (["loe", "logicalorderexception"], logicalOrderException),
    (["lower", "lowercase"], lowercase), (["math"], math),
    (["mcm", "modifiercombiningmark"], modifierCombiningMark),
    (["nchar", "noncharactercodepoint"], noncharacterCodePoint),
    (["oalpha", "otheralphabetic"], otherAlphabetic),
    (["odi", "otherdefaultignorablecodepoint"], otherDefaultIgnorableCodePoint),
    (["ogrext", "othergraphemeextend"], otherGraphemeExtend),
    (["oidc", "otheridcontinue"], otherIdContinue), (["oids", "otheridstart"], otherIdStart),
    (["olower", "otherlowercase"], otherLowercase), (["omath", "othermath"], otherMath),
    (["otheruppercase", "oupper"], otherUppercase), (["patsyn", "patternsyntax"], patternSyntax),
    (["patternwhitespace", "patws"], patternWhiteSpace),
    (["pcm", "prependedconcatenationmark"], prependedConcatenationMark),
    (["qmark", "quotationmark"], quotationMark), (["radical"], radical),
    (["regionalindicator", "ri"], regionalIndicator), (["sd", "softdotted"], softDotted),
    (["sentenceterminal", "sterm"], sentenceTerminal),
    (["space", "whitespace", "wspace"], whiteSpace),
    (["term", "terminalpunctuation"], terminalPunctuation),
    (["uideo", "unifiedideograph"], unifiedIdeograph), (["upper", "uppercase"], uppercase),
    (["variationselector", "vs"], variationSelector), (["xidc", "xidcontinue"], xidContinue),
    (["xids", "xidstart"], xidStart)]

/-- Names are compared without case, blanks, underscores and hyphens, and without an `is` that they
start with. -/
def looseName (name : List Char) : String :=
  let bare (name : List Char) : List Char :=
    (name.filter fun c => c.toNat < 0x80 && c != ' ' && c != '_' && c != '-').map Char.toLower
  match name with
  | i :: s :: rest =>
    let rest := bare rest
    if i.toLower == 'i' && s.toLower == 's' && rest != ['c'] then String.ofList rest
    else String.ofList (bare name)
  | _ => String.ofList (bare name)

/-- The characters with a property that stands alone: a binary one, a general category or a
script. -/
def property? (name : List Char) : Option CodeSet :=
  let name := looseName name
  (named? binaryProperties name) <|> category? name <|> script? name

/-- The characters for which a property has a value. -/
def propertyValue? (property value : List Char) : Option CodeSet :=
  let value := looseName value
  match looseName property with
  | "gc" | "generalcategory" => category? value
  | "sc" | "script" => script? value
  | "scx" | "scriptextensions" => scriptExtension? value
  | "age" => age? value
  | "gcb" | "graphemeclusterbreak" => named? graphemeBreaks value
  | "sb" | "sentencebreak" => named? sentenceBreaks value
  | "wb" | "wordbreak" => named? wordBreaks value
  | _ => none

end BuildConfig.Unicode
