import TypeSchema.Text.CharTable

/-!
# Names of character properties

A pattern may ask for the characters with a Unicode property: a category, a script or a property
that holds or not, by its name alone, or any value of a few properties by the property's name and
the value. Names are compared in a simple form: small ASCII letters without spaces, hyphens and
underlines, and without an `is` in front. The names are those of Unicode 16.0.
-/

namespace TypeSchema.Pattern

/-- What a pattern asks of a character. -/
inductive PropertyQuery where
  | named (name : String)
  | valued (property value : String)
  deriving DecidableEq, Repr

/-- General categories, and the sets of all, of assigned and of ASCII characters. -/
def categoryNames : List String := [
  "any", "ascii", "assigned", "c", "casedletter", "cc", "cf", "closepunctuation", "cn", "cntrl",
  "co", "combiningmark", "connectorpunctuation", "control", "currencysymbol", "dashpunctuation",
  "decimalnumber", "digit", "enclosingmark", "finalpunctuation", "format", "initialpunctuation",
  "l", "lc", "letter", "letternumber", "lineseparator", "ll", "lm", "lo", "lowercaseletter",
  "lt", "lu", "m", "mark", "mathsymbol", "mc", "me", "mn", "modifierletter", "modifiersymbol",
  "n", "nd", "nl", "no", "nonspacingmark", "number", "openpunctuation", "other", "otherletter",
  "othernumber", "otherpunctuation", "othersymbol", "p", "paragraphseparator", "pc", "pd", "pe",
  "pf", "pi", "po", "privateuse", "ps", "punct", "punctuation", "s", "sc", "separator", "sk",
  "sm", "so", "spaceseparator", "spacingmark", "symbol", "titlecaseletter", "unassigned",
  "uppercaseletter", "z", "zl", "zp", "zs"]

/-- Properties that a character has or has not. -/
def binaryNames : List String := [
  "ahex", "alpha", "alphabetic", "asciihexdigit", "bidic", "bidicontrol", "bidim",
  "bidimirrored", "cased", "caseignorable", "changeswhencasefolded", "changeswhencasemapped",
  "changeswhenlowercased", "changeswhentitlecased", "changeswhenuppercased", "ci", "cwcf",
  "cwcm", "cwl", "cwt", "cwu", "dash", "defaultignorablecodepoint", "dep", "deprecated", "di",
  "dia", "diacritic", "ebase", "ecomp", "emod", "emoji", "emojicomponent", "emojimodifier",
  "emojimodifierbase", "emojipresentation", "epres", "ext", "extendedpictographic", "extender",
  "extpict", "graphemebase", "graphemeextend", "graphemelink", "grbase", "grext", "grlink",
  "hex", "hexdigit", "hyphen", "idc", "idcompatmathcontinue", "idcompatmathstart", "idcontinue",
  "ideo", "ideographic", "ids", "idsb", "idsbinaryoperator", "idst", "idstart",
  "idstrinaryoperator", "idsu", "idsunaryoperator", "joinc", "joincontrol", "loe",
  "logicalorderexception", "lower", "lowercase", "math", "mcm", "modifiercombiningmark",
  "nchar", "noncharactercodepoint", "oalpha", "odi", "ogrext", "oidc", "oids", "olower",
  "omath", "otheralphabetic", "otherdefaultignorablecodepoint", "othergraphemeextend",
  "otheridcontinue", "otheridstart", "otherlowercase", "othermath", "otheruppercase", "oupper",
  "patsyn", "patternsyntax", "patternwhitespace", "patws", "pcm", "prependedconcatenationmark",
  "qmark", "quotationmark", "radical", "regionalindicator", "ri", "sd", "sentenceterminal",
  "softdotted", "space", "sterm", "term", "terminalpunctuation", "uideo", "unifiedideograph",
  "upper", "uppercase", "variationselector", "vs", "whitespace", "wspace", "xidc",
  "xidcontinue", "xids", "xidstart"]

/-- Scripts. -/
def scriptNames : List String := [
  "adlam", "adlm", "aghb", "ahom", "anatolianhieroglyphs", "arab", "arabic", "armenian", "armi",
  "armn", "avestan", "avst", "bali", "balinese", "bamu", "bamum", "bass", "bassavah", "batak",
  "batk", "beng", "bengali", "bhaiksuki", "bhks", "bopo", "bopomofo", "brah", "brahmi", "brai",
  "braille", "bugi", "buginese", "buhd", "buhid", "cakm", "canadianaboriginal", "cans", "cari",
  "carian", "caucasianalbanian", "chakma", "cham", "cher", "cherokee", "chorasmian", "chrs",
  "common", "copt", "coptic", "cpmn", "cprt", "cuneiform", "cypriot", "cyprominoan", "cyrillic",
  "cyrl", "deseret", "deva", "devanagari", "diak", "divesakuru", "dogr", "dogra", "dsrt",
  "dupl", "duployan", "egyp", "egyptianhieroglyphs", "elba", "elbasan", "elym", "elymaic",
  "ethi", "ethiopic", "gara", "garay", "geor", "georgian", "glag", "glagolitic", "gong", "gonm",
  "goth", "gothic", "gran", "grantha", "greek", "grek", "gujarati", "gujr", "gukh",
  "gunjalagondi", "gurmukhi", "guru", "gurungkhema", "han", "hang", "hangul", "hani",
  "hanifirohingya", "hano", "hanunoo", "hatr", "hatran", "hebr", "hebrew", "hira", "hiragana",
  "hluw", "hmng", "hmnp", "hung", "imperialaramaic", "inherited", "inscriptionalpahlavi",
  "inscriptionalparthian", "ital", "java", "javanese", "kaithi", "kali", "kana", "kannada",
  "katakana", "kawi", "kayahli", "khar", "kharoshthi", "khitansmallscript", "khmer", "khmr",
  "khoj", "khojki", "khudawadi", "kiratrai", "kits", "knda", "krai", "kthi", "lana", "lao",
  "laoo", "latin", "latn", "lepc", "lepcha", "limb", "limbu", "lina", "linb", "lineara",
  "linearb", "lisu", "lyci", "lycian", "lydi", "lydian", "mahajani", "mahj", "maka", "makasar",
  "malayalam", "mand", "mandaic", "mani", "manichaean", "marc", "marchen", "masaramgondi",
  "medefaidrin", "medf", "meeteimayek", "mend", "mendekikakui", "merc", "mero",
  "meroiticcursive", "meroitichieroglyphs", "miao", "mlym", "modi", "mong", "mongolian", "mro",
  "mroo", "mtei", "mult", "multani", "myanmar", "mymr", "nabataean", "nagm", "nagmundari",
  "nand", "nandinagari", "narb", "nbat", "newa", "newtailue", "nko", "nkoo", "nshu", "nushu",
  "nyiakengpuachuehmong", "ogam", "ogham", "olchiki", "olck", "oldhungarian", "olditalic",
  "oldnortharabian", "oldpermic", "oldpersian", "oldsogdian", "oldsoutharabian", "oldturkic",
  "olduyghur", "olonal", "onao", "oriya", "orkh", "orya", "osage", "osge", "osma", "osmanya",
  "ougr", "pahawhhmong", "palm", "palmyrene", "pauc", "paucinhau", "perm", "phag", "phagspa",
  "phli", "phlp", "phnx", "phoenician", "plrd", "prti", "psalterpahlavi", "qaac", "qaai",
  "rejang", "rjng", "rohg", "runic", "runr", "samaritan", "samr", "sarb", "saur", "saurashtra",
  "sgnw", "sharada", "shavian", "shaw", "shrd", "sidd", "siddham", "signwriting", "sind",
  "sinh", "sinhala", "sogd", "sogdian", "sogo", "sora", "sorasompeng", "soyo", "soyombo",
  "sund", "sundanese", "sunu", "sunuwar", "sylo", "sylotinagri", "syrc", "syriac", "tagalog",
  "tagb", "tagbanwa", "taile", "taitham", "taiviet", "takr", "takri", "tale", "talu", "tamil",
  "taml", "tang", "tangsa", "tangut", "tavt", "telu", "telugu", "tfng", "tglg", "thaa",
  "thaana", "thai", "tibetan", "tibt", "tifinagh", "tirh", "tirhuta", "tnsa", "todhri", "todr",
  "toto", "tulutigalari", "tutg", "ugar", "ugaritic", "vai", "vaii", "vith", "vithkuqi",
  "wancho", "wara", "warangciti", "wcho", "xpeo", "xsux", "yezi", "yezidi", "yi", "yiii",
  "zanabazarsquare", "zanb", "zinh", "zyyy"]

/-- The versions of Unicode that first assigned some character. -/
def ageNames : List String := [
  "1.1", "v11", "2.0", "v20", "2.1", "v21", "3.0", "v30", "3.1", "v31", "3.2", "v32", "4.0",
  "v40", "4.1", "v41", "5.0", "v50", "5.1", "v51", "5.2", "v52", "6.0", "v60", "6.1", "v61",
  "6.2", "v62", "6.3", "v63", "7.0", "v70", "8.0", "v80", "9.0", "v90", "10.0", "v100", "11.0",
  "v110", "12.0", "v120", "12.1", "v121", "13.0", "v130", "14.0", "v140", "15.0", "v150",
  "15.1", "v151", "16.0", "v160"]

/-- How a character may break a sequence of user-perceived characters. -/
def graphemeBreakNames : List String := [
  "cr", "control", "cn", "extend", "ex", "l", "lf", "lv", "lvt", "prepend", "pp",
  "regionalindicator", "ri", "spacingmark", "sm", "t", "v", "zwj"]

/-- How a character may break a sequence of sentences. -/
def sentenceBreakNames : List String := [
  "aterm", "at", "cr", "close", "cl", "extend", "ex", "format", "fo", "lf", "lower", "lo",
  "numeric", "nu", "oletter", "le", "scontinue", "sc", "sterm", "st", "sep", "se", "sp",
  "upper", "up"]

/-- How a character may break a sequence of words. -/
def wordBreakNames : List String := [
  "aletter", "le", "cr", "doublequote", "dq", "extend", "extendnumlet", "ex", "format", "fo",
  "hebrewletter", "hl", "katakana", "ka", "lf", "midletter", "ml", "midnum", "mn", "midnumlet",
  "mb", "newline", "nl", "numeric", "nu", "regionalindicator", "ri", "singlequote", "sq",
  "wsegspace", "zwj"]

/-- The simple form of a name. `isc` is the name of a property of its own, so only there the two
letters in front stay. -/
def simpleName (name : String) : String :=
  let kept (cs : List Char) : List Char :=
    (cs.filter fun c => c.toNat < 0x80 && c ≠ ' ' && c ≠ '_' && c ≠ '-').map Char.toLower
  match name.toList with
  | a :: b :: rest =>
    if a.toLower = 'i' ∧ b.toLower = 's' then
      if kept rest = ['c'] then "isc" else String.ofList (kept rest)
    else String.ofList (kept (a :: b :: rest))
  | cs => String.ofList (kept cs)

/-- The values of a property, given in simple form. -/
def valueNames (property : String) : List String :=
  match property with
  | "gc" | "generalcategory" => categoryNames
  | "sc" | "script" => scriptNames
  | "scx" | "scriptextensions" => scriptNames
  | "age" => ageNames
  | "gcb" | "graphemeclusterbreak" => graphemeBreakNames
  | "sb" | "sentencebreak" => sentenceBreakNames
  | "wb" | "wordbreak" => wordBreakNames
  | _ => []

/-- Whether the property, or its value, exists. -/
def PropertyQuery.isKnown : PropertyQuery → Bool
  | named name =>
    let name := simpleName name
    categoryNames.contains name || binaryNames.contains name || scriptNames.contains name
  | valued property value => (valueNames (simpleName property)).contains (simpleName value)

end TypeSchema.Pattern
