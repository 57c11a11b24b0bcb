import Sectum.Lib.Substitute
import Sectum.Spec.Untrusted

/-! `_redact_config_value` of `sectum_ai.cli.app`: what is packed of a parsed configuration, whose
strings may have any character of Python. -/

namespace Sectum

open Py

section Patterns

def amongPoints (text : String) (c : CodePoint) : Bool := (pointsOf text).contains c

def betweenPoints (first last : Char) (c : CodePoint) : Bool :=
  codePoint first ≤ c && c ≤ codePoint last

/-- `[A-Z0-9]`. -/
def isUpperOrDigit (c : CodePoint) : Bool := betweenPoints 'A' 'Z' c || betweenPoints '0' '9' c

/-- `[A-Za-z0-9]`. -/
def isAlnumPoint (c : CodePoint) : Bool := isUpperOrDigit c || betweenPoints 'a' 'z' c

/-- The characters that `\s` matches. -/
def spacePoints : List CodePoint :=
  [0x09, 0x0a, 0x0b, 0x0c, 0x0d, 0x1c, 0x1d, 0x1e, 0x1f, 0x20, 0x85, 0xa0, 0x1680, 0x2000, 0x2001,
    0x2002, 0x2003, 0x2004, 0x2005, 0x2006, 0x2007, 0x2008, 0x2009, 0x200a, 0x2028, 0x2029, 0x202f,
    0x205f, 0x3000]

def isSpacePoint (c : CodePoint) : Bool := spacePoints.contains c

/-- The patterns of a list, one behind the other. -/
def inOrder (parts : List (Re CodePoint)) : Re CodePoint := parts.foldr .seq .empty

def word (text : String) : Re CodePoint := .literal (pointsOf text)

/-- `(?<![A-Za-z0-9])`. -/
def boundary : Re CodePoint := .notAfter isAlnumPoint

/-- The alternatives of `_CONFIG_SECRET_VALUE_RE` without the last one, in their order. -/
def tokenRes : List (Re CodePoint) :=
  [inOrder [boundary, word "sk-", .one isAlnumPoint,
      .many (fun c => isAlnumPoint c || amongPoints "_-" c) 14],
    inOrder [boundary, word "AKIA", .times isUpperOrDigit 16],
    inOrder [boundary, word "gh", .one (betweenPoints 'a' 'z'), word "_", .many isAlnumPoint 20],
    inOrder [boundary, word "github_pat_", .many (fun c => isAlnumPoint c || amongPoints "_" c) 20],
    inOrder [boundary, word "glpat-", .many (fun c => isAlnumPoint c || amongPoints "_-" c) 18],
    inOrder [boundary, word "xox", .one (amongPoints "baprs"), word "-",
      .many (fun c => isAlnumPoint c || amongPoints "-" c) 10],
    inOrder [boundary, word "hf_", .many isAlnumPoint 20],
    inOrder [boundary, word "AIza", .many (fun c => isAlnumPoint c || amongPoints "_-" c) 16],
    inOrder [word "SECTUM-CANARY-",
      .many (fun c => betweenPoints 'A' 'Z' c || betweenPoints '2' '7' c) 1]]

/-- `(?i:bearer)\s+[A-Za-z0-9._~+/=-]{8,}`. -/
def bearerRe : Re CodePoint :=
  inOrder [.one (amongPoints "bB"), .one (amongPoints "eE"), .one (amongPoints "aA"),
    .one (amongPoints "rR"), .one (amongPoints "eE"), .one (amongPoints "rR"),
    .many isSpacePoint 1, .many (fun c => isAlnumPoint c || amongPoints "._~+/=-" c) 8]

/-- `_CONFIG_SECRET_VALUE_RE`. -/
def configSecretValueRe : Re CodePoint := tokenRes.foldr .alt bearerRe

/-- `[^\s/]`. -/
def isUserinfoPoint (c : CodePoint) : Bool := !isSpacePoint c && !amongPoints "/" c

/-- `[^=&\s]`. -/
def isQueryKeyPoint (c : CodePoint) : Bool := !amongPoints "=&" c && !isSpacePoint c

/-- `[^&\s]`. -/
def isQueryValuePoint (c : CodePoint) : Bool := !amongPoints "&" c && !isSpacePoint c

def configSecretValue : Pattern CodePoint where
  cut := configSecretValueRe

/-- `_URL_USERINFO_RE`, whose template has what is around the userinfo. -/
def urlUserinfo : Pattern CodePoint where
  before := word "://"
  cut := .many isUserinfoPoint 1
  after := word "@"

/-- `_URL_QUERY_VALUE_RE`, whose group is what is before the value. -/
def urlQueryValue : Pattern CodePoint where
  before := inOrder [.one (amongPoints "?&"), .many isQueryKeyPoint 1, word "="]
  cut := .many isQueryValuePoint 1

def redactedText : List CodePoint := pointsOf "<redacted>"

/-- `_scrub_config_secret_value`. -/
def scrubConfigSecretValue (text : List CodePoint) : List CodePoint :=
  let scrubbed := urlUserinfo.sub redactedText text
  let scrubbed := urlQueryValue.sub redactedText scrubbed
  configSecretValue.sub redactedText scrubbed

end Patterns

section Keys

/-- `text.endswith(suffix)`. -/
def endsWithPoints (ending : String) (text : List CodePoint) : Bool :=
  (pointsOf ending).isSuffixOf text

/-- The alternatives of `SECRET_KEY_RE`. -/
def secretKeyWords : List String :=
  ["api_key", "apikey", "dsn", "password", "passphrase", "token", "secret", "credential",
    "credentials", "application_key", "authorization"]

/-- `SECRET_KEY_RE.search(name)`: one of the words, with no letter or digit behind it. -/
def namesSecret (name : List CodePoint) : Bool :=
  secretKeyWords.any fun secret => name.tails.any fun tail =>
    (pointsOf secret).isPrefixOf tail &&
      (tail.drop (pointsOf secret).length).head?.all (!isAlnumPoint ·)

end Keys

/-- `str` of a scalar that is no string. -/
class ScalarText (S : Type) where
  str : S → List CodePoint

/-- `str.lower`.  Nothing is assumed of it. -/
class LowerPoints where
  lower : List CodePoint → List CodePoint

@[reducible] def LowerPoints.ascii : LowerPoints where
  lower text := text.map fun c =>
    if h : betweenPoints 'A' 'Z' c then ⟨c.val + 0x20, by
      have hlast : c ≤ codePoint 'Z' := by simpa using (Bool.and_eq_true_iff.mp h).2
      have : c.val ≤ 0x5a := hlast
      omega⟩ else c

variable {S : Type}

/-- What `yaml.safe_load` makes of a scalar, where `S` is what is no string: numbers, truth values,
dates, bytes and `None`. -/
inductive YamlScalar (S : Type)
  | text (s : List CodePoint)
  | other (value : S)

/-- What `yaml.safe_load` returns.  The keys of a mapping and the elements of a set are hashable,
and the tuples are the pairs of `!!pairs` and `!!omap`. -/
inductive YamlValue (S : Type)
  | scalar (value : YamlScalar S)
  | list (items : List (YamlValue S))
  | set (items : List (YamlScalar S))
  | tuple (items : List (YamlValue S))
  | dict (entries : List (YamlScalar S × YamlValue S))

/-- `str(key)`. -/
def YamlScalar.str [ScalarText S] : YamlScalar S → List CodePoint
  | text s => s
  | other value => ScalarText.str value

section Strings

def YamlScalar.strings : YamlScalar S → List (List CodePoint)
  | text s => [s]
  | other _ => []

mutual

/-- Every string that occurs in a value: as a key, as an element or as a value. -/
def YamlValue.strings : YamlValue S → List (List CodePoint)
  | .scalar value => value.strings
  | .list items => stringsOfItems items
  | .set items => items.flatMap YamlScalar.strings
  | .tuple items => stringsOfItems items
  | .dict entries => stringsOfEntries entries
termination_by structural value => value

def stringsOfItems : List (YamlValue S) → List (List CodePoint)
  | [] => []
  | item :: items => item.strings ++ stringsOfItems items
termination_by structural items => items

def stringsOfEntries : List (YamlScalar S × YamlValue S) → List (List CodePoint)
  | [] => []
  | (key, value) :: entries => key.strings ++ (value.strings ++ stringsOfEntries entries)
termination_by structural entries => entries

end

end Strings

section Redact

variable [ScalarText S] [LowerPoints]

/-- `is_secret_key or is_headers`. -/
def isRedactedKey (key : YamlScalar S) : Bool :=
  let name := LowerPoints.lower key.str
  let isSecretKey := !endsWithPoints "_env" name && namesSecret name
  let isHeaders := name = pointsOf "headers" || endsWithPoints "_headers" name
  isSecretKey || isHeaders

mutual

/-- `_redact_config_value`. -/
def redactConfigValue : YamlValue S → YamlValue S
  | .dict entries => .dict (redactEntries entries)
  | .list items => .list (redactItems items)
  | .scalar (.text s) => .scalar (.text (scrubConfigSecretValue s))
  | .scalar (.other value) => .scalar (.other value)
  | .set items => .set items
  | .tuple items => .tuple items
termination_by structural value => value

def redactItems : List (YamlValue S) → List (YamlValue S)
  | [] => []
  | item :: items => redactConfigValue item :: redactItems items
termination_by structural items => items

def redactEntries : List (YamlScalar S × YamlValue S) → List (YamlScalar S × YamlValue S)
  | [] => []
  | (key, value) :: entries =>
    (key, if isRedactedKey key then .scalar (.text redactedText) else redactConfigValue value) ::
      redactEntries entries
termination_by structural entries => entries

end

end Redact

end Sectum
