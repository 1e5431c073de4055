import Sct.Lib.Dict
import Sct.Utils.VersionUtils

/-!
# Versions as labels of GCE images

A label of a GCE image holds no dots and no tildes, so the version of an image is written with
dashes there: `gce_image_version_label` of `sdcm/utils/common.py`. Two functions make a version of a
label again, `_gce_label_to_version` of `sdcm/utils/trigger_matrix/versions.py` and
`_resolve_version_from_gce_image` of `images.py`. As in `Sct.Utils.VersionUtils`, digits and word
characters are the ASCII ones.
-/

namespace Sct.Utils

open Sct.Scan

/-! ## The parts of a tag -/

structure FullVersionTag where
  baseVersion : List Char
  /-- `build`, empty if there is none. -/
  build : List Char
  date : List Char
  commitId : List Char
deriving DecidableEq

/-- `[\w.~]`. -/
def isVersionChar (char : Char) : Bool :=
  isAlphanumeric char || char == '_' || char == '.' || char == '~'

/-- `(rc\d+)\.`. -/
def candidateNumber (text : List Char) : Option (List Char × List Char) := do
  let rest ← literal "rc".toList text
  let (number, rest) ← run isDigit rest
  let rest ← one (· == '.') rest
  pure ("rc".toList ++ number, rest)

/-- `(?:(?P<build>0|rc\d+)\.)?`. What it takes begins no date, so it is never given back. -/
def buildNumber (text : List Char) : List Char × List Char :=
  match literal "0.".toList text with
  | some rest => (['0'], rest)
  | none => (candidateNumber text).getD ([], text)

/-- `[-~](?:(?P<build>0|rc\d+)\.)?(?P<date>[\d]{8})\.(?P<commit_id>[a-f0-9]+)`. -/
def datedBuild (text : List Char) : Option (List Char × List Char × List Char) := do
  let rest ← one (fun char => char == '-' || char == '~') text
  let (date, afterDate) ← times isDigit 8 (buildNumber rest).2
  let afterDot ← one (· == '.') afterDate
  let (commitId, _) ← run isHex afterDot
  pure ((buildNumber rest).1, date, commitId)

/-- `(?:-(?:dev|enterprise))?` and a dated build after it. -/
def versionEnd (text : List Char) : Option (List Char × List Char × List Char × List Char) :=
  ["-dev".toList, "-enterprise".toList, []].findSome? fun suffix => do
    let rest ← literal suffix text
    let found ← datedBuild rest
    pure (suffix, found)

/-- The match of `SCYLLA_VERSION_GROUPED_RE` whose first run is as long as possible, and at most
this long. -/
def groupedVersion (text : List Char) : Nat → Option FullVersionTag
  | 0 => none
  | shorter + 1 =>
    match versionEnd (text.drop (shorter + 1)) with
    | some (suffix, build, date, commitId) =>
      some ⟨text.take (shorter + 1) ++ suffix, build, date, commitId⟩
    | none => groupedVersion text shorter

def parseScyllaVersionTag (versionTag : List Char) : Option FullVersionTag :=
  groupedVersion versionTag (versionTag.takeWhile isVersionChar).length

/-- `RC_VERSION_TAG_RE.match`. -/
def rcVersionTag (version : List Char) : Bool :=
  match (threeNumbers version).bind fun found => dottedEnd found.2 with
  | none => false
  | some rest => atEnd rest

/-! ## Labels -/

/-- `text.replace(".", "-").replace("~", "-")`. -/
def dashed (text : List Char) : List Char := exchange '~' '-' (exchange '.' '-' text)

def gceImageVersionLabel (version : String) : String :=
  if version = "" then ""
  else
    match parseScyllaVersionTag version.toList with
    | some tag => String.ofList (dashed (tag.baseVersion ++
        '-' :: (tag.build ++ '-' :: (tag.date ++ '-' :: tag.commitId))))
    | none =>
      if rcVersionTag version.toList then String.ofList (dashed version.toList) else ""

/-- `".".join(parts)`. -/
def dotJoined (parts : List (List Char)) : List Char := List.intercalate ['.'] parts

def gceLabelToVersion (label : String) : String :=
  match label.toList.splitOnP (· == '-') with
  | major :: minor :: patch :: first :: rest =>
    let numbers := major ++ '.' :: (minor ++ '.' :: patch)
    let version := String.ofList <|
      if first = "dev".toList then numbers ++ "~dev-".toList ++ dotJoined rest
      else if "rc".toList.isPrefixOf first then numbers ++ '.' :: dotJoined (first :: rest)
      else numbers ++ '-' :: dotJoined (first :: rest)
    if (fullVersionTag version).isSome then version else ""
  | _ => ""

/-- `_resolve_version_from_gce_image`, with the labels of the image if they can be read. -/
def resolveVersionFromGceImage (labels : Option (Dict String String)) : String :=
  match truthy (labels.bind fun labels => labels.get "scylla_version") with
  | some versionLabel => String.ofList (exchange '-' '.' versionLabel.toList)
  | none => ""

end Sct.Utils
