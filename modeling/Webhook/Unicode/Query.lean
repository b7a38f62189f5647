import Webhook.Unicode.CaseOrbit
import Webhook.Unicode.Letter
import Webhook.Unicode.ScriptExtension
import Webhook.Text.RangeSet

/-!
# Asking for characters by name

A name stands for a property, a general category or a script.  With a value it stands for one of
the properties that have values.  The case of letters, blanks, hyphens and underscores do not
matter, and neither does a leading `is`.
-/

namespace Webhook.Unicode

open Text (Ranges)

/-- What is wrong with a name. -/
inductive Unknown where
  /-- There is no such property. -/
  | property
  /-- The property does not have the value. -/
  | value
  deriving DecidableEq, Repr

/-- A name without what does not matter. -/
def plainName (name : String) : String :=
  let cs := name.toList
  let isMarked := (cs.take 2).map Char.toLower == ['i', 's']
  let kept := ((if isMarked then cs.drop 2 else cs).filter fun c =>
    c.toNat < 128 && c != ' ' && c != '_' && c != '-').map Char.toLower
  if isMarked && kept == ['c'] then "isc" else String.ofList kept

/-- The names of properties that no question is answered about. -/
def unansweredNames : List String :=
  [ "age", "bc", "bidiclass", "bidimirroringglyph", "bidipairedbracket",
    "bidipairedbrackettype", "blk", "block", "bmg", "bpb", "bpt", "canonicalcombiningclass",
    "casefolding", "ccc", "ce", "cf", "changeswhennfkccasefolded", "compositionexclusion",
    "cwkcf", "decompositionmapping", "decompositiontype", "dm", "dt", "ea", "eastasianwidth",
    "equideo", "equivalentunifiedideograph", "expandsonnfc", "expandsonnfd", "expandsonnfkc",
    "expandsonnfkd", "fcnfkc", "fcnfkcclosure", "fullcompositionexclusion", "gc", "gcb",
    "generalcategory", "graphemeclusterbreak", "graphemelink", "grlink", "hangulsyllabletype",
    "hst", "hyphen", "idcompatmathcontinue", "idcompatmathstart", "idsu", "idsunaryoperator",
    "incb", "indicconjunctbreak", "indicpositionalcategory", "indicsyllabiccategory", "inpc",
    "insc", "isc", "isocomment", "jamoshortname", "jg", "joininggroup", "joiningtype", "jsn",
    "jt", "lb", "lc", "linebreak", "lowercasemapping", "mcm", "modifiercombiningmark", "na",
    "na1", "name", "namealias", "nfcqc", "nfcquickcheck", "nfdqc", "nfdquickcheck",
    "nfkccasefold", "nfkccf", "nfkcqc", "nfkcquickcheck", "nfkcscf", "nfkcsimplecasefold",
    "nfkdqc", "nfkdquickcheck", "nt", "numerictype", "numericvalue", "nv", "oalpha", "odi",
    "ogrext", "oidc", "oids", "olower", "omath", "otheralphabetic",
    "otherdefaultignorablecodepoint", "othergraphemeextend", "otheridcontinue",
    "otheridstart", "otherlowercase", "othermath", "otheruppercase", "oupper", "pcm",
    "prependedconcatenationmark", "sb", "sc", "scf", "script", "scriptextensions", "scx",
    "sentencebreak", "sfc", "simplecasefolding", "simplelowercasemapping",
    "simpletitlecasemapping", "simpleuppercasemapping", "slc", "stc", "suc", "tc",
    "titlecasemapping", "uc", "unicode1name", "uppercasemapping", "verticalorientation", "vo",
    "wb", "wordbreak", "xonfc", "xonfd", "xonfkc", "xonfkd" ]

/-- The characters of a general category, or of one of the classes beside them. -/
def generalCategory? (name : String) : Option (Except Unknown Ranges) :=
  match name with
  | "any" => some (.ok [(0, Ranges.maxCodePoint)])
  | "ascii" => some (.ok [(0, 127)])
  | "assigned" => some (.ok (Ranges.complement Ranges.maxCodePoint (category "Cn")))
  | "cs" | "surrogate" => some (.error .value)
  | _ => (category? name).map .ok

/-- The characters that a name alone stands for. -/
def byName (name : String) : Except Unknown Ranges :=
  let plain := plainName name
  let asProperty : Option (Except Unknown Ranges) :=
    if plain ∈ ["cf", "sc", "lc"] then none
    else match propertyOfName? plain with
      | some p => some (.ok (property p))
      | none => if plain ∈ unansweredNames then some (.error .property) else none
  match asProperty, generalCategory? plain, scriptOfName? plain with
  | some answer, _, _ => answer
  | none, some answer, _ => answer
  | none, none, some s => .ok (script s)
  | none, none, none => .error .property

/-- The characters for which a property has a value. -/
def byValue (name value : String) : Except Unknown Ranges :=
  let plain := plainName name
  let wanted := plainName value
  if plain ∈ ["gc", "generalcategory"] then (generalCategory? wanted).getD (.error .value)
  else if plain ∈ ["sc", "script"] then
    match scriptOfName? wanted with
    | some s => .ok (script s)
    | none => .error .value
  else if plain ∈ ["scx", "scriptextensions"] then
    match scriptOfName? wanted with
    | some s => .ok (Ranges.difference (script s) (lent s) ++ borrowed s)
    | none => .error .value
  else if (propertyOfName? plain).isSome || plain ∈ unansweredNames then .error .value
  else .error .property

/-- A set together with the letters that differ from its members in case only. -/
def ignoringCase (set : Ranges) : Ranges :=
  set ++ (orbits.filter fun orbit => orbit.any set.has).flatMap fun orbit =>
    orbit.map fun n => (n, n)

/-- A set together with the letters of ASCII that differ from its members in case only. -/
def ignoringAsciiCase (set : Ranges) : Ranges :=
  set ++ (List.range 26).flatMap fun i =>
    if set.has (0x41 + i) || set.has (0x61 + i) then [(0x41 + i, 0x41 + i), (0x61 + i, 0x61 + i)]
    else []

end Webhook.Unicode
