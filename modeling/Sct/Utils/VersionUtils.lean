import Sct.Lib.Search

/-!
# Version texts

The patterns of `sdcm/utils/version_utils.py` that name a build or a line of Scylla. Digits and word
characters are the ASCII ones.
-/

namespace Sct.Utils

open Sct.Scan

/-- `(?:[separator]\d+)?$`. -/
def revisionEnds (separator : Char) (text : List Char) : Bool :=
  match one (· == separator) text with
  | none => atEnd text
  | some rest =>
    match run isDigit rest with
    | none => false
    | some (_, rest) => atEnd rest

/-- `(\d+)\.(\d+)`. -/
def majorMinor (text : List Char) : Option (List Char × List Char × List Char) := do
  let (major, rest) ← run isDigit text
  let rest ← one (· == '.') rest
  let (minor, rest) ← run isDigit rest
  pure (major, minor, rest)

/-- `\.\d{8}\.[0-9a-f]+`. -/
def dateAndCommit (text : List Char) : Option (List Char) := do
  let rest ← one (· == '.') text
  let (_, rest) ← times isDigit 8 rest
  let rest ← one (· == '.') rest
  let (_, rest) ← run isHex rest
  pure rest

/-- `-?\d*\.\d{8}\.[0-9a-f]+(?:-\d+)?$`. -/
def plainTagEnds (text : List Char) : Bool :=
  let rest := (one (· == '-') text).getD text
  match dateAndCommit (rest.dropWhile isDigit) with
  | none => false
  | some rest => revisionEnds '-' rest

/-- `[~-][a-zA-Z0-9._~]+-?\d*\.\d{8}\.[0-9a-f]+(?:-\d+)?$`: the repeated class also accepts what
follows it, so every length is tried. -/
def plainTag (text : List Char) : Bool :=
  match one (fun char => char == '~' || char == '-') text with
  | none => false
  | some rest =>
    (List.range rest.length).any fun count =>
      ((rest.take (count + 1)).all fun char =>
        isAlphanumeric char || char == '.' || char == '_' || char == '~') &&
        plainTagEnds (rest.drop (count + 1))

/-- `\.rc\d+\.\d+\.\d{8}\.[0-9a-f]+`. -/
def dottedEnd (text : List Char) : Option (List Char) := do
  let rest ← literal ".rc".toList text
  let (_, rest) ← run isDigit rest
  let rest ← one (· == '.') rest
  let (_, rest) ← run isDigit rest
  dateAndCommit rest

/-- `\.rc\d+\.\d+\.\d{8}\.[0-9a-f]+(?:\.\d+)?$`. -/
def dottedTag (text : List Char) : Bool :=
  match dottedEnd text with
  | none => false
  | some rest => revisionEnds '.' rest

/-- `FULL_VERSION_TAG_RE.match`: the groups `major` and `minor`. -/
def fullVersionTag (version : String) : Option (String × String) := do
  let (major, minor, rest) ← majorMinor version.toList
  let rest ← one (· == '.') rest
  let (_, rest) ← run isDigit rest
  if plainTag rest || dottedTag rest then pure (String.ofList major, String.ofList minor) else none

/-- `SIMPLE_VERSION_RE.match`: the groups `major` and `minor`. -/
def simpleVersion (version : String) : Option (String × String) := do
  let (major, minor, rest) ← majorMinor version.toList
  if revisionEnds '.' rest then pure (String.ofList major, String.ofList minor) else none

/-- `BRANCH_VERSION_RE.match`: the group `branch`. -/
def branchVersion (version : String) : Option String := do
  let (branch, rest) ← run (fun char =>
    isAlphanumeric char || char == '.' || char == '_' || char == '-') version.toList
  let rest ← one (· == ':') rest
  let (_, rest) ← run (· != '\n') rest
  if atEnd rest then pure (String.ofList branch) else none

/-- `RELEASE_VERSION_RE.match`. -/
def releaseVersion (version : String) : Bool :=
  let scanned : Option (List Char) := do
    let (_, _, rest) ← majorMinor version.toList
    let rest ← one (· == '.') rest
    let (_, rest) ← run isDigit rest
    pure rest
  match scanned with
  | none => false
  | some rest => atEnd rest

/-- `[.-](\d{8})[.-]`: the group. -/
def buildDate (text : List Char) : Option (List Char) := do
  let rest ← one (fun char => char == '.' || char == '-') text
  let (date, rest) ← times isDigit 8 rest
  let _ ← one (fun char => char == '.' || char == '-') rest
  pure date

def versionBuildDate (version : String) : String :=
  String.ofList ((search buildDate version.toList).getD [])

/-! ## Parsing a version to compare it -/

/-- `\d+\.\d+\.\d+`. -/
def threeNumbers (text : List Char) : Option (List Char × List Char) := do
  let (major, minor, rest) ← majorMinor text
  let rest ← one (· == '.') rest
  let (patch, rest) ← run isDigit rest
  pure (major ++ '.' :: minor ++ '.' :: patch, rest)

end Sct.Utils
