import Soql.Text.Printable
import Soql.Text.Symbol

/-!
This module contains the quoted display of a text, as diagnostics show it: between quotes, with
everything that is not printable written as an escape.
-/

namespace Soql
namespace Text
namespace Quoted

/--
A text is shown between apostrophes, unless it contains one and no double quote.
-/
def delimiter (t : Text) : Char :=
  if t.contains (.char '\'') && !t.contains (.char '"') then '"' else '\''

def hexEscape (n : Nat) : List Char :=
  let digits := Nat.toDigits 16 n
  if n < 0x100 then '\\' :: 'x' :: digits.leftpad 2 '0'
  else if n < 0x10000 then '\\' :: 'u' :: digits.leftpad 4 '0'
  else '\\' :: 'U' :: digits.leftpad 8 '0'

def escapeChar (ascii : Bool) (delimiter c : Char) : List Char :=
  if c == delimiter || c == '\\' then ['\\', c]
  else if c == '\t' then ['\\', 't']
  else if c == '\n' then ['\\', 'n']
  else if c == '\r' then ['\\', 'r']
  else if isPrintable c && !(ascii && 0x80 ≤ c.toNat) then [c]
  else hexEscape c.toNat

def escapeSymbol (ascii : Bool) (delimiter : Char) : Symbol → List Char
  | .char c => escapeChar ascii delimiter c
  | s => hexEscape s.codePoint

/--
The display of a text. With `ascii`, everything beyond ASCII counts as not printable.
-/
def display (ascii : Bool) (t : Text) : List Char :=
  let quote := delimiter t
  quote :: t.flatMap (escapeSymbol ascii quote) ++ [quote]

end Quoted

def quoted (t : Text) : String :=
  String.ofList (Quoted.display false t)

def asciiOnly (s : String) : String :=
  String.ofList (s.toList.flatMap fun c => if c.toNat < 0x80 then [c] else Quoted.hexEscape c.toNat)

end Text
end Soql
