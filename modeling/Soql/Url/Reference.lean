import Soql.Url.Percent
import Soql.Url.Host

/-!
This module contains URL references, split into their parts and put together again, and the
resolution of a reference against a base.

Splitting forgives what people paste: spaces and controls in front of a reference are skipped, and
tabs and line ends are dropped wherever they stand.
-/

namespace Soql
namespace Url

/--
`scheme://authority/path;parameters?query#fragment`, where a part that is missing is empty.
-/
structure Reference where
  scheme : List Char
  authority : List Char
  path : List Char
  parameters : List Char
  query : List Char
  fragment : List Char
  deriving DecidableEq

def isSchemeChar (c : Char) : Bool :=
  isAsciiLetter c || c.isDigit || c == '+' || c == '-' || c == '.'

def splitScheme (cs : List Char) : Option (List Char) × List Char :=
  match cs.takeWhile (· != ':'), cs.dropWhile (· != ':') with
  | c :: scheme, ':' :: rest =>
    if isAsciiLetter c && (c :: scheme).all isSchemeChar then
      (some ((c :: scheme).map Char.toLower), rest)
    else
      (none, cs)
  | _, _ => (none, cs)

def endsAuthority (c : Char) : Bool :=
  c == '/' || c == '?' || c == '#'

def splitAuthority (cs : List Char) : List Char × List Char :=
  match cs with
  | '/' :: '/' :: cs => (cs.takeWhile (!endsAuthority ·), cs.dropWhile (!endsAuthority ·))
  | cs => ([], cs)

def splitParameters (path : List Char) : List Char × List Char :=
  let last := (path.reverse.takeWhile (· != '/')).reverse
  let (name, parameters) := splitFirst ';' last
  (path.take (path.length - last.length) ++ name, parameters)

def clean (cs : List Char) : List Char :=
  (cs.dropWhile (·.toNat ≤ 0x20)).filter fun c => c != '\t' && c != '\r' && c != '\n'

namespace Reference

def parse (defaultScheme : List Char) (cs : List Char) : Except Fault Reference := do
  let (scheme, rest) := splitScheme (clean cs)
  let (authority, rest) := splitAuthority rest
  checkBrackets authority
  let (rest, fragment) := splitFirst '#' rest
  let (path, query) := splitFirst '?' rest
  checkNormalized authority
  let (path, parameters) := splitParameters path
  return ⟨scheme.getD defaultScheme, authority, path, parameters, query, fragment⟩

def part (mark : Char) (cs : List Char) : List Char :=
  if cs.isEmpty then [] else mark :: cs

/--
A reference with a scheme gets an authority, even an empty one, unless its path begins with two
slashes and thus reads like one. The path behind an authority is absolute.
-/
def render (r : Reference) : List Char :=
  let path := r.path ++ part ';' r.parameters
  let hasAuthority :=
    !r.authority.isEmpty || (!r.scheme.isEmpty && !"//".toList.isPrefixOf path)
  let path :=
    if hasAuthority then
      let path := if path.isEmpty || path.head? == some '/' then path else '/' :: path
      '/' :: '/' :: r.authority ++ path
    else
      path
  let scheme := if r.scheme.isEmpty then [] else r.scheme ++ [':']
  scheme ++ path ++ part '?' r.query ++ part '#' r.fragment

end Reference

/--
The segments of a base path that a relative path continues: the last one goes, unless it is empty.
-/
def directory (path : List Char) : List (List Char) :=
  let parts := splitAll '/' path
  if parts.getLast? == some [] then parts else parts.dropLast

def dropEmptyMiddle (parts : List (List Char)) : List (List Char) :=
  match parts with
  | [] => []
  | [part] => [part]
  | first :: rest => first :: rest.dropLast.filter (!·.isEmpty) ++ rest.getLast?.toList

/--
Resolves the segments for the same and for the parent directory. `kept` holds what precedes, the
last segment first.
-/
def removeDots (kept : List (List Char)) : List (List Char) → List (List Char)
  | [] => kept.reverse
  | part :: parts =>
    if part == ['.', '.'] then removeDots kept.tail parts
    else if part == ['.'] then removeDots kept parts
    else removeDots (part :: kept) parts

def joinPath (parts : List (List Char)) : List Char :=
  let ending := match parts.getLast? with
    | some last => if last == ['.'] || last == ['.', '.'] then [[]] else []
    | none => []
  let path := ['/'].intercalate (removeDots [] parts ++ ending)
  if path.isEmpty then ['/'] else path

def mergePaths (base path : List Char) : List Char :=
  if path.head? == some '/' then joinPath (splitAll '/' path)
  else joinPath (dropEmptyMiddle (directory base ++ splitAll '/' path))

def isHierarchical (scheme : List Char) : Bool :=
  scheme == "http".toList || scheme == "https".toList

namespace Reference

def under (r base : Reference) : Reference :=
  if !r.authority.isEmpty then
    r
  else if r.path.isEmpty && r.parameters.isEmpty then
    { r with
      authority := base.authority
      path := base.path
      parameters := base.parameters
      query := if r.query.isEmpty then base.query else r.query }
  else
    { r with authority := base.authority, path := mergePaths base.path r.path }

end Reference

def resolve (base reference : List Char) : Except Fault (List Char) := do
  if reference.isEmpty then
    return base
  let b ← Reference.parse [] base
  let r ← Reference.parse b.scheme reference
  if r.scheme != b.scheme || !isHierarchical r.scheme then
    return reference
  return (r.under b).render

example : (resolve "https://h/a/b/".toList "../c?q#f".toList).toOption
    = some "https://h/a/c?q#f".toList := by decide
example : (resolve "https://h/".toList "mailto:x".toList).toOption = some "mailto:x".toList := by
  decide

end Url
end Soql
