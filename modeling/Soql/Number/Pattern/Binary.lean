import Soql.Number.Pattern.Layout
import Soql.Number.Positional
import Soql.Number.Shortest

/-!
This module contains the layout of binary numbers by a pattern: in fixed places, in scientific
writing, or in whichever of the two suits the magnitude.
-/

namespace Soql

namespace Binary64

def powerText (mark : Char) (power : Int) : List Char :=
  mark :: (if power < 0 then '-' else '+') :: (Nat.toDigits 10 power.natAbs).leftpad 2 '0'

structure Writing where
  /-- The mark of a power of ten. -/
  mark : Char
  /-- The least number of digits in all. -/
  count : Nat
  /-- A point stands even where no fraction follows. -/
  keepPoint : Bool
  /-- A number in positional writing has a fraction, if only a zero. -/
  keepFraction : Bool

/--
Digits whose point stands in front, or far to the right, are written with a power of ten: positional
writing reaches from `0.0001` up to `limit` digits before the point.
-/
def writeDigits (w : Writing) (limit : Int) (digits : Digits) : List Char :=
  let (ds, point) := digits
  if point ≤ -4 || limit < point then
    let p := (Number.Positional.ofDigits ds 1).withPlaces (w.count - 1)
    p.render w.keepPoint ++ powerText w.mark (point - 1)
  else
    let places := if 0 < point then w.count - point.toNat else w.count + (-point).toNat
    let p := Number.Positional.ofDigits ds point
    let p := p.withPlaces (if w.keepFraction then max places 1 else places)
    p.render w.keepPoint

def leadingDigits (significand : Nat) (exponent : Int) (count : Nat) : Digits :=
  if significand = 0 then
    (['0'], 1)
  else
    let (num, den) := ratio significand exponent
    let (digits, point) := Number.leadingDigits num den count
    (Number.dropTrailingZeros digits, point)

def scientific (mark : Char) (keepPoint : Bool) (places : Nat) (significand : Nat)
    (exponent : Int) : List Char :=
  let (digits, point) := leadingDigits significand exponent (places + 1)
  let p := (Number.Positional.ofDigits digits 1).withPlaces places
  p.render keepPoint ++ powerText mark (point - 1)

def fixed (keepPoint : Bool) (places : Nat) (significand : Nat) (exponent : Int) : List Char :=
  let (num, den) := ratio significand exponent
  let scaled := Number.roundHalfEven (num * Nat.pow 10 places) den
  (Number.Positional.ofScaled scaled places).render keepPoint

/--
The shortest text that reads back: positional below `10 ^ 16` and with a fraction there.
-/
def shortest (keepPoint : Bool) (significand : Nat) (exponent : Int) : List Char :=
  let digits := if significand = 0 then (['0'], 1) else shortestDigits significand exponent
  writeDigits ⟨'e', 0, keepPoint, true⟩ 16 digits

def text : Binary64 → String
  | .finite negative significand exponent =>
    String.ofList (Number.signed negative (shortest false significand exponent))
  | .infinite negative => String.ofList (Number.signed negative ['i', 'n', 'f'])
  | .nan => "nan"

end Binary64

namespace NumberPattern

def maxPrecision : Nat := 2147483647

def magnitudeText (p : NumberPattern) (code : Option Char) (significand : Nat) (exponent : Int) :
    List Char :=
  let precision := p.precision.getD 6
  match code with
  | some 'e' => Binary64.scientific 'e' p.alternate precision significand exponent
  | some 'E' => Binary64.scientific 'E' p.alternate precision significand exponent
  | some 'f' | some 'F' | some '%' => Binary64.fixed p.alternate precision significand exponent
  | some 'g' | some 'n' => general 'e' false precision
  | some 'G' => general 'E' false precision
  | _ =>
    match p.precision with
    | none => Binary64.shortest p.alternate significand exponent
    | some precision => general 'e' true precision
where
  /-- Significant digits; without a code one digit is kept for the fraction. -/
  general (mark : Char) (keepFraction : Bool) (precision : Nat) : List Char :=
    let count := max precision 1
    let limit : Int := if keepFraction then count - 1 else count
    Binary64.writeDigits ⟨mark, if p.alternate then count else 0, p.alternate, keepFraction⟩ limit
      (Binary64.leadingDigits significand exponent count)

def splitDigits (cs : List Char) : List Char × List Char :=
  cs.span Char.isDigit

/--
A text whose digits are all zeros denotes zero, whatever its power of ten.
-/
def isZeroText (cs : List Char) : Bool :=
  (cs.takeWhile fun c => c.isDigit || c == '.').all fun c => c == '0' || c == '.'

def specialText (code : Option Char) (name : List Char) : List Char :=
  if code.any "EFG".toList.contains then name.map Char.toUpper else name

def binaryText (p : NumberPattern) (x : Binary64) : Except PatternFailure Text :=
  if (p.precision.getD 0) > maxPrecision then
    .error (.fault .precisionTooBig)
  else
    let percent := p.code == some '%'
    let value := if percent then x.mulNat 100 else x
    let magnitude := match value with
      | .finite _ significand exponent => p.magnitudeText p.code significand exponent
      | .infinite _ => specialText p.code ['i', 'n', 'f']
      | .nan => specialText p.code ['n', 'a', 'n']
    let negative := x.isNegative && !(p.positiveZero && value.isFinite && isZeroText magnitude)
    let (digits, rest) := splitDigits magnitude
    .ok (p.layout ⟨negative, [], digits, Text.ofChars (if percent then rest ++ ['%'] else rest)⟩)

def formatBinary (pattern : Text) (x : Binary64) : Except PatternFailure Text := do
  let p ← (read "float" .right none pattern).mapError .fault
  match p.code with
  | none => pure ()
  | some code =>
    if !"eEfFgGn%\x00".toList.contains code then
      throw (.fault (.unknownCode code "float"))
  p.binaryText x

end NumberPattern
end Soql
