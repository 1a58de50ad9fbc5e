import Soql.Value
import Soql.Error
import Soql.Calendar.Pattern
import Soql.Number.Pattern.Decimal

/-!
This module contains the literals of numbers and points in time: plain, or laid out by a pattern.
-/

namespace Soql

namespace Decimal

def shown (d : Decimal) : String :=
  "Decimal('" ++ d.text ++ "')"

end Decimal

namespace Value

def notFinite (label : Option Label) (x : Binary64) : Error :=
  .unescapable (kind (.float x label)) (.notFinite ((label.map Label.shown).getD x.text))

def intLiteral (n : Int) : Except Error Text :=
  if isWritable n then .ok (Text.ofChars (intText n)) else .error .integerTooLong

def floatLiteral (x : Binary64) (label : Option Label) : Except Error Text :=
  if x.isFinite then .ok x.text else .error (notFinite label x)

def decimalLiteral : Decimal → Except Error Text
  | .finite negative coefficient exponent =>
    .ok (Text.ofChars (Number.signed negative (Decimal.fixed coefficient exponent)))
  | d => .error (.unescapable "Decimal" (.notFinite d.shown))

/--
A point in time counts as such only where its offset is known; otherwise it is a date.
-/
def dateTimeLiteral (d : DateTime) : Text :=
  match d.zone.offset? with
  | some _ => Text.ofChars (d.text 'T' true)
  | none => Text.ofChars d.date.text

def laidOut (pattern kind : String) : Except PatternFailure Text → Except Error Text
  | .ok s => .ok s
  | .error (.fault fault) => .error (.badPattern pattern kind fault)
  | .error (.overflow o) => .error (.overflow o)

/--
The literal that a pattern gives, for numbers and points in time. No other value heeds a pattern.
-/
def patterned? (pattern : String) : Value → Option (Except Error Text)
  | .int n _ => some (laidOut pattern "int" (NumberPattern.formatInt "int" pattern n))
  | .float x label =>
    if x.isFinite then some (laidOut pattern "float" (NumberPattern.formatBinary pattern x))
    else some (.error (notFinite label x))
  | .decimal d =>
    if d.isFinite then some (laidOut pattern "Decimal" (NumberPattern.formatDecimal pattern d))
    else some (decimalLiteral d)
  | .date d => some (.ok (d.format pattern))
  | .dateTime d => some (.ok (d.format pattern))
  | _ => none

end Value
end Soql
