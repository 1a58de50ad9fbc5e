import Soql.Text.Symbol

/-!
This module contains the two ways in which untrusted text enters a query: as a string literal, and
as a search phrase. Both put a backslash in front of the characters that would end or alter it.
-/

namespace Soql

def backslash (special : Char → Bool) (t : Text) : Text :=
  t.flatMap fun s => if s.satisfies special then [.char '\\', s] else [s]

theorem backslash_cons (special : Char → Bool) (s : Symbol) (t : Text) :
    backslash special (s :: t)
      = (if s.satisfies special then [.char '\\', s] else [s]) ++ backslash special t := rfl

theorem backslash_append (special : Char → Bool) (a b : Text) :
    backslash special (a ++ b) = backslash special a ++ backslash special b := by
  simp [backslash]

def isQuoteSpecial (c : Char) : Bool :=
  c == '\\' || c == '\''

def quote (t : Text) : Text :=
  .char '\'' :: backslash isQuoteSpecial t ++ [.char '\'']

def isReserved (c : Char) : Bool :=
  "\\?&|!\x7b\x7d[]()^~*:\"'+-".toList.contains c

def escapePhrase (t : Text) : Text :=
  backslash isReserved t

end Soql
