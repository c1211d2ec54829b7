import PipelineConfig.Text.Unicode.Age
import PipelineConfig.Text.Unicode.GraphemeBreak
import PipelineConfig.Text.Unicode.Property
import PipelineConfig.Text.Unicode.Script
import PipelineConfig.Text.Unicode.ScriptExtension
import PipelineConfig.Text.Unicode.SentenceBreak
import PipelineConfig.Text.Unicode.WordBreak

/-!
# Names of classes

The names by which a pattern can ask for a class of characters: general categories, properties that
a character has or has not, scripts, versions, and roles at boundaries, in full or by their short
names. Case, spaces, hyphens and underscores do not count, nor does a leading `is`.
-/

namespace PipelineConfig.Pattern

open PipelineConfig.Text

/-- The form in which names are compared. The short name of a comment, which begins with `is`, is
kept apart from the category `c`. -/
def normalName (name : List Char) : String :=
  let (marked, rest) :=
    match name with
    | first :: second :: rest =>
      if first.toLower = 'i' && second.toLower = 's' then (true, rest) else (false, name)
    | _ => (false, name)
  let kept := rest.filter fun char => char.val < 128 && char != ' ' && char != '_' && char != '-'
  let lowered := kept.map Char.toLower
  if marked && lowered = ['c'] then "isc" else String.ofList lowered

/-- The short name that goes with a name in a list of short names and full names. -/
def shortName? (names name : String) : Option String :=
  ((words names.toList).find? fun entry =>
      normalName (beforeFirst [':'] entry) == name ||
        afterFirst? [':'] entry == some name.toList).map
    fun entry => String.ofList (beforeFirst [':'] entry)

/-- The names of general categories and of groups of them, with the categories. -/
def categoryNames : List (List String × List String) := [
  (["c", "other"], ["Cc", "Cf", "Cs", "Co", "Cn"]),
  (["cc", "control", "cntrl"], ["Cc"]),
  (["cf", "format"], ["Cf"]),
  (["cn", "unassigned"], ["Cn"]),
  (["co", "privateuse"], ["Co"]),
  (["l", "letter"], ["Lu", "Ll", "Lt", "Lm", "Lo"]),
  (["lc", "casedletter"], ["Lu", "Ll", "Lt"]),
  (["ll", "lowercaseletter"], ["Ll"]),
  (["lm", "modifierletter"], ["Lm"]),
  (["lo", "otherletter"], ["Lo"]),
  (["lt", "titlecaseletter"], ["Lt"]),
  (["lu", "uppercaseletter"], ["Lu"]),
  (["m", "mark", "combiningmark"], ["Mn", "Mc", "Me"]),
  (["mc", "spacingmark"], ["Mc"]),
  (["me", "enclosingmark"], ["Me"]),
  (["mn", "nonspacingmark"], ["Mn"]),
  (["n", "number"], ["Nd", "Nl", "No"]),
  (["nd", "decimalnumber", "digit"], ["Nd"]),
  (["nl", "letternumber"], ["Nl"]),
  (["no", "othernumber"], ["No"]),
  (["p", "punctuation", "punct"], ["Pc", "Pd", "Ps", "Pe", "Pi", "Pf", "Po"]),
  (["pc", "connectorpunctuation"], ["Pc"]),
  (["pd", "dashpunctuation"], ["Pd"]),
  (["pe", "closepunctuation"], ["Pe"]),
  (["pf", "finalpunctuation"], ["Pf"]),
  (["pi", "initialpunctuation"], ["Pi"]),
  (["po", "otherpunctuation"], ["Po"]),
  (["ps", "openpunctuation"], ["Ps"]),
  (["s", "symbol"], ["Sm", "Sc", "Sk", "So"]),
  (["sc", "currencysymbol"], ["Sc"]),
  (["sk", "modifiersymbol"], ["Sk"]),
  (["sm", "mathsymbol"], ["Sm"]),
  (["so", "othersymbol"], ["So"]),
  (["z", "separator"], ["Zs", "Zl", "Zp"]),
  (["zl", "lineseparator"], ["Zl"]),
  (["zp", "paragraphseparator"], ["Zp"]),
  (["zs", "spaceseparator"], ["Zs"])]

/-- The class of a general category. -/
def category? (name : String) : Option CharSet :=
  match name with
  | "any" => some .all
  | "ascii" => some ⟨[(0, 0x7f)]⟩
  | "assigned" => some (Unicode.inCategories ["Cn"]).complement
  | name =>
    (categoryNames.find? fun entry => entry.1.contains name).map fun entry =>
      Unicode.inCategories entry.2

/-- The short names of properties, with their full names. -/
def propertyNames : String :=
  "wspace:whitespace space:whitespace bidic:bidicontrol joinc:joincontrol qmark:quotationmark
    term:terminalpunctuation sterm:sentenceterminal hex:hexdigit ahex:asciihexdigit
    ideo:ideographic uideo:unifiedideograph dia:diacritic ext:extender sd:softdotted
    loe:logicalorderexception dep:deprecated nchar:noncharactercodepoint vs:variationselector
    ri:regionalindicator pcm:prependedconcatenationmark mcm:modifiercombiningmark
    patsyn:patternsyntax patws:patternwhitespace idsb:idsbinaryoperator idst:idstrinaryoperator
    idsu:idsunaryoperator di:defaultignorablecodepoint grlink:graphemelink
    oalpha:otheralphabetic odi:otherdefaultignorablecodepoint ogrext:othergraphemeextend
    oidc:otheridcontinue oids:otheridstart olower:otherlowercase omath:othermath
    oupper:otheruppercase ecomp:emojicomponent emod:emojimodifier ebase:emojimodifierbase
    epres:emojipresentation extpict:extendedpictographic ci:caseignorable
    cwl:changeswhenlowercased cwu:changeswhenuppercased cwt:changeswhentitlecased
    cwcf:changeswhencasefolded cwcm:changeswhencasemapped lower:lowercase upper:uppercase
    alpha:alphabetic grext:graphemeextend grbase:graphemebase ids:idstart idc:idcontinue
    xids:xidstart xidc:xidcontinue"

/-- The class of a property that a character has or has not. -/
def property? (name : String) : Option CharSet :=
  let entry := (words propertyNames.toList).find? fun entry =>
    beforeFirst [':'] entry == name.toList
  Unicode.property? ((entry.bind (afterFirst? [':'])).elim name String.ofList)

/-- The short names of scripts, with their full names. -/
def scriptNames : String :=
  "Adlm:adlam Aghb:caucasianalbanian Ahom:ahom Arab:arabic Armi:imperialaramaic Armn:armenian
    Avst:avestan Bali:balinese Bamu:bamum Bass:bassavah Batk:batak Beng:bengali Bhks:bhaiksuki
    Bopo:bopomofo Brah:brahmi Brai:braille Bugi:buginese Buhd:buhid Cakm:chakma
    Cans:canadianaboriginal Cari:carian Cham:cham Cher:cherokee Chrs:chorasmian Copt:coptic
    Cpmn:cyprominoan Cprt:cypriot Cyrl:cyrillic Deva:devanagari Diak:divesakuru Dogr:dogra
    Dsrt:deseret Dupl:duployan Egyp:egyptianhieroglyphs Elba:elbasan Elym:elymaic Ethi:ethiopic
    Gara:garay Geor:georgian Glag:glagolitic Gong:gunjalagondi Gonm:masaramgondi Goth:gothic
    Gran:grantha Grek:greek Gujr:gujarati Gukh:gurungkhema Guru:gurmukhi Hang:hangul Hani:han
    Hano:hanunoo Hatr:hatran Hebr:hebrew Hira:hiragana Hluw:anatolianhieroglyphs
    Hmng:pahawhhmong Hmnp:nyiakengpuachuehmong Hung:oldhungarian Ital:olditalic Java:javanese
    Kali:kayahli Kana:katakana Kawi:kawi Khar:kharoshthi Khmr:khmer Khoj:khojki
    Kits:khitansmallscript Knda:kannada Krai:kiratrai Kthi:kaithi Lana:taitham Laoo:lao
    Latn:latin Lepc:lepcha Limb:limbu Lina:lineara Linb:linearb Lisu:lisu Lyci:lycian
    Lydi:lydian Mahj:mahajani Maka:makasar Mand:mandaic Mani:manichaean Marc:marchen
    Medf:medefaidrin Mend:mendekikakui Merc:meroiticcursive Mero:meroitichieroglyphs
    Mlym:malayalam Modi:modi Mong:mongolian Mroo:mro Mtei:meeteimayek Mult:multani Mymr:myanmar
    Nagm:nagmundari Nand:nandinagari Narb:oldnortharabian Nbat:nabataean Newa:newa Nkoo:nko
    Nshu:nushu Ogam:ogham Olck:olchiki Onao:olonal Orkh:oldturkic Orya:oriya Osge:osage
    Osma:osmanya Ougr:olduyghur Palm:palmyrene Pauc:paucinhau Perm:oldpermic Phag:phagspa
    Phli:inscriptionalpahlavi Phlp:psalterpahlavi Phnx:phoenician Plrd:miao
    Prti:inscriptionalparthian Rjng:rejang Rohg:hanifirohingya Runr:runic Samr:samaritan
    Sarb:oldsoutharabian Saur:saurashtra Sgnw:signwriting Shaw:shavian Shrd:sharada Sidd:siddham
    Sind:khudawadi Sinh:sinhala Sogd:sogdian Sogo:oldsogdian Sora:sorasompeng Soyo:soyombo
    Sund:sundanese Sunu:sunuwar Sylo:sylotinagri Syrc:syriac Tagb:tagbanwa Takr:takri Tale:taile
    Talu:newtailue Taml:tamil Tang:tangut Tavt:taiviet Telu:telugu Tfng:tifinagh Tglg:tagalog
    Thaa:thaana Thai:thai Tibt:tibetan Tirh:tirhuta Tnsa:tangsa Todr:todhri Toto:toto
    Tutg:tulutigalari Ugar:ugaritic Vaii:vai Vith:vithkuqi Wara:warangciti Wcho:wancho
    Xpeo:oldpersian Xsux:cuneiform Yezi:yezidi Yiii:yi Zanb:zanabazarsquare Zinh:inherited
    Zyyy:common"

/-- The short name of a script. Two scripts have an older short name as well. -/
def scriptCode? (name : String) : Option String :=
  match name with
  | "qaac" => some "Copt"
  | "qaai" => some "Zinh"
  | name => shortName? scriptNames name

/-- The class of a script. -/
def script? (name : String) : Option CharSet :=
  (scriptCode? name).map fun code => Unicode.setWhere Unicode.scriptRuns (· == code)

/-- The class of all characters that are used with a script. -/
def scriptExtension? (name : String) : Option CharSet :=
  (scriptCode? name).map fun code =>
    let own := (Unicode.setWhere Unicode.scriptRuns (· == code)).inter
      (Unicode.setWhere Unicode.scriptExtensionRuns (· == "-"))
    own.union (Unicode.setWhere Unicode.scriptExtensionRuns fun codes =>
      occurs code.toList codes.toList)

/-- The versions of the standard, from the first one on. -/
def versions : List String :=
  ["1.1", "2.0", "2.1", "3.0", "3.1", "3.2", "4.0", "4.1", "5.0", "5.1", "5.2", "6.0", "6.1",
    "6.2", "6.3", "7.0", "8.0", "9.0", "10.0", "11.0", "12.0", "12.1", "13.0", "14.0", "15.0",
    "15.1", "16.0"]

/-- The class of the characters that a version has. A version may also be written without its point
and with a leading `v`. -/
def age? (name : String) : Option CharSet :=
  (versions.find? fun version =>
      version == name || 'v' :: version.toList.filter (· != '.') == name.toList).map
    fun version =>
      let former := versions.takeWhile (· != version)
      Unicode.setWhere Unicode.ageRuns fun age => age == version || former.contains age

/-- The short names of the roles at the boundaries of graphemes, with their full names. -/
def graphemeRoles : String :=
  "CN:control CR:cr EX:extend L:l LF:lf LV:lv LVT:lvt PP:prepend RI:regionalindicator
    SM:spacingmark T:t V:v ZWJ:zwj"

/-- The short names of the roles at the boundaries of words, with their full names. -/
def wordRoles : String :=
  "CR:cr DQ:doublequote EX:extendnumlet Extend:extend FO:format HL:hebrewletter KA:katakana
    LE:aletter LF:lf MB:midnumlet ML:midletter MN:midnum NL:newline NU:numeric
    RI:regionalindicator SQ:singlequote WSegSpace:wsegspace ZWJ:zwj"

/-- The short names of the roles at the boundaries of sentences, with their full names. -/
def sentenceRoles : String :=
  "AT:aterm CL:close CR:cr EX:extend FO:format LE:oletter LF:lf LO:lower NU:numeric
    SC:scontinue SE:sep SP:sp ST:sterm UP:upper"

/-- The class of the characters that have a role in a table. -/
def role? (names runs name : String) : Option CharSet :=
  (shortName? names name).map fun code => Unicode.setWhere runs (· == code)

/-- The class of a single name. -/
def classOfName? (name : List Char) : Option CharSet :=
  let normal := normalName name
  (property? normal).or ((category? normal).or (script? normal))

/-- The class of the characters for which a property has a value. -/
def classOfValue? (property value : List Char) : Option CharSet :=
  let normal := normalName value
  match normalName property with
  | "gc" | "generalcategory" => category? normal
  | "sc" | "script" => script? normal
  | "scx" | "scriptextensions" => scriptExtension? normal
  | "age" => age? normal
  | "gcb" | "graphemeclusterbreak" =>
    role? graphemeRoles Unicode.graphemeRuns normal
  | "wb" | "wordbreak" => role? wordRoles Unicode.wordRuns normal
  | "sb" | "sentencebreak" => role? sentenceRoles Unicode.sentenceRuns normal
  | _ => none

end PipelineConfig.Pattern
