import HealthRules.Unicode.Additions
import HealthRules.Unicode.Age
import HealthRules.Unicode.Category
import HealthRules.Unicode.Property
import HealthRules.Unicode.Script
import HealthRules.Unicode.Segmentation

/-!
# Query — sets of code points by the names of their properties

A set is asked for by one name (of a binary property, a general category or a script) or by the name of a
property and of one of its values. Names match loosely: letter case, blanks, hyphens, underscores,
characters beyond ASCII and a leading `is` do not count.

* `Query` and `QueryError`;
* `looseName`, the form in which names are compared;
* `Query.resolve`, which finds the set.
-/

namespace HealthRules.Unicode

inductive Query where
  | named (name : String)
  | valued (property value : String)
  deriving DecidableEq, Repr

inductive QueryError where
  | unknownProperty
  | unknownValue
  deriving DecidableEq, Repr

/-! ## Names -/

/-- The form in which names are compared; of what stands after a leading `is` only ASCII counts. The
abbreviation `isc` keeps its first letters, since what would be left names something else. -/
def looseName (name : String) : String :=
  let (isPrefixed, cs) := match name.toList with
    | a :: b :: rest =>
        if a.toLower = 'i' ∧ b.toLower = 's' then (true, rest) else (false, a :: b :: rest)
    | cs => (false, cs)
  let counts (c : Char) : Bool := c.toNat < 0x80 && c != ' ' && c != '_' && c != '-'
  let kept := (cs.filter counts).map Char.toLower
  if isPrefixed ∧ kept = ['c'] then "isc" else String.ofList kept

def answersTo (loose : String) (names : List String) : Bool :=
  names.any fun n => looseName n == loose

/-- Properties whose values can be asked for. -/
inductive Valued where
  | generalCategory
  | script
  | scriptExtensions
  | age
  | graphemeBreak
  | wordBreak
  | sentenceBreak
  deriving DecidableEq, Repr

def valuedNames : List (List String × Valued) := [
  (["gc", "General_Category"], .generalCategory),
  (["sc", "Script"], .script),
  (["scx", "Script_Extensions"], .scriptExtensions),
  (["age", "Age"], .age),
  (["GCB", "Grapheme_Cluster_Break"], .graphemeBreak),
  (["WB", "Word_Break"], .wordBreak),
  (["SB", "Sentence_Break"], .sentenceBreak)]

/-- Names of the properties of which no sets are kept. -/
def otherProperties : List String := [
  "bc", "Bidi_Class", "blk", "Block", "bmg", "Bidi_Mirroring_Glyph",
  "bpb", "Bidi_Paired_Bracket", "bpt", "Bidi_Paired_Bracket_Type", "ccc",
  "Canonical_Combining_Class", "CE", "Composition_Exclusion", "cf", "Case_Folding",
  "cjkAccountingNumeric", "kAccountingNumeric", "cjkCompatibilityVariant", "kCompatibilityVariant",
  "cjkIICore", "kIICore", "cjkIRG_GSource", "kIRG_GSource", "cjkIRG_HSource", "kIRG_HSource",
  "cjkIRG_JSource", "kIRG_JSource", "cjkIRG_KPSource", "kIRG_KPSource", "cjkIRG_KSource",
  "kIRG_KSource", "cjkIRG_MSource", "kIRG_MSource", "cjkIRG_SSource", "kIRG_SSource",
  "cjkIRG_TSource", "kIRG_TSource", "cjkIRG_UKSource", "kIRG_UKSource", "cjkIRG_USource",
  "kIRG_USource", "cjkIRG_VSource", "kIRG_VSource", "cjkOtherNumeric", "kOtherNumeric",
  "cjkPrimaryNumeric", "kPrimaryNumeric", "cjkRSUnicode", "kRSUnicode", "Unicode_Radical_Stroke",
  "URS", "kEH_Cat", "kEH_Desc", "kEH_HG", "kEH_IFAO", "kEH_JSesh", "kEH_NoMirror", "kEH_NoRotate",
  "Comp_Ex", "Full_Composition_Exclusion", "CWKCF", "Changes_When_NFKC_Casefolded", "dm",
  "Decomposition_Mapping", "dt", "Decomposition_Type", "ea", "East_Asian_Width", "EqUIdeo",
  "Equivalent_Unified_Ideograph", "FC_NFKC", "FC_NFKC_Closure", "hst", "Hangul_Syllable_Type",
  "InCB", "Indic_Conjunct_Break", "InPC", "Indic_Positional_Category", "InSC",
  "Indic_Syllabic_Category", "isc", "ISO_Comment", "jg", "Joining_Group", "JSN",
  "Jamo_Short_Name", "jt", "Joining_Type", "lb", "Line_Break", "lc", "Lowercase_Mapping", "na",
  "Name", "na1", "Unicode_1_Name", "Name_Alias", "NFC_QC", "NFC_Quick_Check", "NFD_QC",
  "NFD_Quick_Check", "NFKC_CF", "NFKC_Casefold", "NFKC_QC", "NFKC_Quick_Check", "NFKC_SCF",
  "NFKC_Simple_Casefold", "NFKD_QC", "NFKD_Quick_Check", "nt", "Numeric_Type", "nv",
  "Numeric_Value", "scf", "Simple_Case_Folding", "sfc", "slc", "Simple_Lowercase_Mapping", "stc",
  "Simple_Titlecase_Mapping", "suc", "Simple_Uppercase_Mapping", "tc", "Titlecase_Mapping", "uc",
  "Uppercase_Mapping", "vo", "Vertical_Orientation", "XO_NFC", "Expands_On_NFC", "XO_NFD",
  "Expands_On_NFD", "XO_NFKC", "Expands_On_NFKC", "XO_NFKD", "Expands_On_NFKD"]

/-- What a property name stands for. -/
inductive Known where
  | binary (e : Property.Entry)
  | valued (v : Valued)
  | other

def property? (loose : String) : Option Known :=
  match Property.table.find? fun e => answersTo loose e.names with
  | some e => some (.binary e)
  | none => match valuedNames.find? fun e => answersTo loose e.1 with
    | some e => some (.valued e.2)
    | none => if answersTo loose otherProperties then some .other else none

/-! ## Values -/

/-- Further names of general categories. -/
def categoryAliases : List (String × String) := [
  ("digit", "Nd"), ("punct", "P"), ("cntrl", "Cc"), ("combiningmark", "M")]

/-- The set of a general category or of a union of them. -/
def category? (loose : String) : Option CharSet :=
  let loose := ((categoryAliases.find? (·.1 == loose)).map fun e => looseName e.2).getD loose
  if loose = "any" then some (.ofRange 0 maxCodePoint)
  else if loose = "assigned" then some (Category.setOf "Cn").complement
  else if loose = "ascii" then some (.ofRange 0 0x7F)
  else match Category.groups.find? fun g => answersTo loose [g.short, g.long] with
    | some g => some (Category.unionOf g.members)
    | none => (Category.table.find? fun e => answersTo loose [e.short, e.long]).map fun e =>
        CharSet.unpack e.packed

def script? (loose : String) : Option Script.Entry :=
  Script.table.find? fun e => answersTo loose e.names

def breakClass? (table : List Segmentation.Entry) (loose : String) : Option CharSet :=
  (table.find? fun e => answersTo loose e.names).map fun e => CharSet.unpack e.packed

/-- An edition is named by its number, or by its number after the letter v with an underscore. -/
def edition? (loose : String) : Option CharSet :=
  match Age.table.find? fun e =>
      answersTo loose [e.edition, "V" ++ String.ofList (e.edition.toList.filter (· != '.'))] with
  | some e => Age.upTo? e.edition
  | none => none

def valueSet? (v : Valued) (loose : String) : Option CharSet :=
  match v with
  | .generalCategory => category? loose
  | .script => (script? loose).map fun e => CharSet.unpack e.packed
  | .scriptExtensions => (script? loose).map fun e => CharSet.unpack e.usedIn
  | .age => edition? loose
  | .graphemeBreak => breakClass? Segmentation.graphemeBreaks loose
  | .wordBreak => breakClass? Segmentation.wordBreaks loose
  | .sentenceBreak => breakClass? Segmentation.sentenceBreaks loose

/-! ## Resolution -/

/-- Names of a category and of scripts that no character has. -/
def memberless : List String :=
  ["Cs", "Surrogate", "Hrkt", "Katakana_Or_Hiragana", "Zzzz", "Unknown"]

/-- One name: a property first, unless its name is better known as that of a category, then a category,
then a script. -/
def resolveName (loose : String) : Except QueryError CharSet :=
  let property := if ["cf", "sc", "lc"].contains loose then none else property? loose
  match property with
  | some (.binary e) => .ok (CharSet.unpack e.packed)
  | some _ => .error .unknownProperty
  | none => match category? loose with
    | some s => .ok s
    | none => if answersTo loose memberless then .error .unknownValue
      else match script? loose with
        | some e => .ok (CharSet.unpack e.packed)
        | none => .error .unknownProperty

def Query.resolve : Query → Except QueryError CharSet
  | .named name => resolveName (looseName name)
  | .valued property value => match property? (looseName property) with
    | none => .error .unknownProperty
    | some (.valued v) => match valueSet? v (looseName value) with
      | some s => .ok s
      | none => .error .unknownValue
    | some _ => .error .unknownValue

/-! ## Classes of their own -/

/-- The characters of words: letters, marks, decimal digits, connectors and joiners. -/
def wordChars : CharSet :=
  CharSet.ofRuns ((CharSet.unpack Property.propertyAlphabetic.packed).runs ++
    (Category.unionOf ["Mn", "Mc", "Me", "Nd", "Pc"]).runs ++
    (CharSet.unpack Property.propertyJoinControl.packed).runs)

def decimalDigits : CharSet := Category.setOf "Nd"

def whiteSpace : CharSet := CharSet.unpack Property.propertyWhiteSpace.packed

/-- Letters and what is used like them, by edition 17.0. -/
def alphabetic : CharSet :=
  (CharSet.unpack Property.propertyAlphabetic.packed).union Additions.letters

/-- Letters and numbers of all kinds, by edition 17.0. -/
def alphanumeric : CharSet :=
  CharSet.ofRuns (alphabetic.runs ++ (Category.unionOf ["Nd", "Nl", "No"]).runs ++
    Additions.numbers.runs)

end HealthRules.Unicode
