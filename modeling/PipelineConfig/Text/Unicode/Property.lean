import PipelineConfig.Text.Unicode.Category
import PipelineConfig.Text.Unicode.PropertyRuns
import PipelineConfig.Text.Unicode.Runs

/-!
# Sets of code points by property

The properties that the standard lists one by one, and those that it derives from them and from the
general categories. A property is named by its full name without case and signs.
-/

namespace PipelineConfig.Text.Unicode

/-- The code points of some general categories, given by their short names. -/
def inCategories (names : List String) : CharSet :=
  setWhere categoryRuns fun name => names.contains name

/-- The code points that have a listed property. -/
def listed (name : String) : CharSet :=
  ((List.lookup name propertyRuns).map setOfLengths).getD .empty

/-- The members of any of several sets. -/
def unionOf (sets : List CharSet) : CharSet :=
  CharSet.ofRanges (sets.flatMap CharSet.ranges)

/-- The lower-case letters. -/
def lowercase : CharSet := (inCategories ["Ll"]).union (listed "otherlowercase")

/-- The upper-case letters. -/
def uppercase : CharSet := (inCategories ["Lu"]).union (listed "otheruppercase")

/-- The letters that have a case. -/
def cased : CharSet := unionOf [lowercase, uppercase, inCategories ["Lt"]]

/-- The letters and what counts as letters. -/
def alphabetic : CharSet :=
  unionOf [inCategories ["Lu", "Ll", "Lt", "Lm", "Lo", "Nl"], listed "otherlowercase",
    listed "otheruppercase", listed "otheralphabetic"]

/-- The signs of mathematics. -/
def math : CharSet := (inCategories ["Sm"]).union (listed "othermath")

/-- The code points that continue a user-perceived character. -/
def graphemeExtend : CharSet :=
  (inCategories ["Mn", "Me"]).union (listed "othergraphemeextend")

/-- The code points that can stand alone as a user-perceived character. -/
def graphemeBase : CharSet :=
  (unionOf [inCategories ["Cc", "Cf", "Cs", "Co", "Cn", "Zl", "Zp"], graphemeExtend]).complement

/-- The code points set aside for the structure of patterns. -/
def patternSigns : CharSet := (listed "patternsyntax").union (listed "patternwhitespace")

/-- The code points with which an identifier can start. -/
def idStart : CharSet :=
  ((inCategories ["Lu", "Ll", "Lt", "Lm", "Lo", "Nl"]).union (listed "otheridstart")).diff
    patternSigns

/-- The code points that an identifier can have after its start. -/
def idContinue : CharSet :=
  (unionOf [idStart, inCategories ["Mn", "Mc", "Nd", "Pc"], listed "otheridcontinue"]).diff
    patternSigns

/-- The code points of identifiers whose compatible forms are not identifiers. -/
def unstable : CharSet :=
  ⟨[(0x37a, 0x37a), (0x309b, 0x309c), (0xfc5e, 0xfc63), (0xfdfa, 0xfdfb), (0xfe70, 0xfe70),
    (0xfe72, 0xfe72), (0xfe74, 0xfe74), (0xfe76, 0xfe76), (0xfe78, 0xfe78), (0xfe7a, 0xfe7a),
    (0xfe7c, 0xfe7c), (0xfe7e, 0xfe7e)]⟩

/-- The code points whose compatible forms are no starts of identifiers. -/
def unstableStart : CharSet :=
  unstable.union ⟨[(0xe33, 0xe33), (0xeb3, 0xeb3), (0xff9e, 0xff9f)]⟩

/-- The decimal digits. -/
def digits : CharSet := inCategories ["Nd"]

/-- The code points of white space. -/
def blanks : CharSet := listed "whitespace"

/-- The code points of words. -/
def wordSigns : CharSet :=
  unionOf [alphabetic, inCategories ["Mn", "Mc", "Me", "Nd", "Pc"], listed "joincontrol"]

/-- The code points of numbers. -/
def numeric : CharSet := inCategories ["Nd", "Nl", "No"]

/-- The code points that have a property, if the property is known. -/
def property? : String → Option CharSet
  | "lowercase" => some lowercase
  | "uppercase" => some uppercase
  | "cased" => some cased
  | "alphabetic" => some alphabetic
  | "math" => some math
  | "graphemeextend" => some graphemeExtend
  | "graphemebase" => some graphemeBase
  | "idstart" => some idStart
  | "idcontinue" => some idContinue
  | "xidstart" => some (idStart.diff unstableStart)
  | "xidcontinue" => some (idContinue.diff unstable)
  | "changeswhencasemapped" =>
    some (unionOf [listed "changeswhenlowercased", listed "changeswhenuppercased",
      listed "changeswhentitlecased"])
  | name => (List.lookup name propertyRuns).map setOfLengths

end PipelineConfig.Text.Unicode
