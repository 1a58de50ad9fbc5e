import Soql.Number.Positional
import Soql.Number.Numeral

/-!
This module contains decimal floating point numbers: exact, with trailing zeros that count, and with
the special values that arithmetic on them can produce.
-/

namespace Soql

inductive Decimal where
  /-- `± coefficient · 10 ^ exponent` -/
  | finite (negative : Bool) (coefficient : Nat) (exponent : Int)
  | infinite (negative : Bool)
  /-- Not a number, with a payload of which zero means none. -/
  | nan (negative signalling : Bool) (payload : Nat)
  deriving DecidableEq

namespace Decimal

def isFinite : Decimal → Bool
  | .finite .. => true
  | _ => false

def readSpecial (negative : Bool) (cs : List Char) : Option Decimal :=
  let name := cs.map Char.toLower
  if name == "inf".toList || name == "infinity".toList then
    some (.infinite negative)
  else
    match name with
    | 'n' :: 'a' :: 'n' :: payload => readNan negative false payload
    | 's' :: 'n' :: 'a' :: 'n' :: payload => readNan negative true payload
    | _ => none
where
  readNan (negative signalling : Bool) (payload : List Char) : Option Decimal :=
    match Text.takeDigits payload with
    | (digits, []) => some (.nan negative signalling (Text.digitsValue 0 digits))
    | _ => none

inductive ReadFault where
  | unreadable
  | outOfReach
  deriving DecidableEq

/--
The last digit of a number, and its first one, have powers of ten within these limits.
-/
def isWithinReach (coefficient : Nat) (exponent : Int) : Bool :=
  let count := (Nat.toDigits 10 coefficient).length
  exponent + count ≤ 1000000000000000000 && -1999999999999999997 ≤ exponent

/--
Reads a number from text. Blanks may surround it, and underscores are skipped.
-/
def ofText (s : String) : Except ReadFault Decimal :=
  let (negative, cs) := Number.takeSign ((Text.trim s.toList).filter (· != '_'))
  match readSpecial negative cs with
  | some d => .ok d
  | none =>
    match Number.Numeral.readUnsigned negative cs with
    | none => .error .unreadable
    | some n =>
      if isWithinReach n.coefficient n.exponent then
        .ok (.finite negative n.coefficient n.exponent)
      else
        .error .outOfReach

def powerText (mark : Char) (power : Int) : List Char :=
  mark :: (if power < 0 then '-' else '+') :: Nat.toDigits 10 power.natAbs

/--
Writes the digits of a coefficient with the point behind the first `point` of them, and the power of
ten that this leaves, if any.
-/
def writeDigits (mark : Char) (digits : List Char) (exponent point : Int) (keepPower : Bool) :
    List Char :=
  let power := digits.length + exponent - point
  (Number.Positional.ofDigits digits point).render false
    ++ if power != 0 || keepPower then powerText mark power else []

def fixedDigits (digits : List Char) (exponent : Int) : List Char :=
  writeDigits 'e' digits exponent (digits.length + exponent) false

/--
Fixed writing of a number. A zero does not show how large its exponent is.
-/
def fixed (coefficient : Nat) (exponent : Int) : List Char :=
  let exponent := if coefficient = 0 && 0 < exponent then 0 else exponent
  fixedDigits (Nat.toDigits 10 coefficient) exponent

/--
Natural writing: positional where the exponent is not positive and at most six zeros follow the
point, scientific otherwise.
-/
def natural (mark : Char) (digits : List Char) (exponent : Int) : List Char :=
  let point := digits.length + exponent
  writeDigits mark digits exponent (if exponent ≤ 0 && -6 < point then point else 1) false

def scientific (mark : Char) (digits : List Char) (exponent point : Int) : List Char :=
  writeDigits mark digits exponent point true

def isNegative : Decimal → Bool
  | .finite negative .. => negative
  | .infinite negative => negative
  | .nan negative .. => negative

def magnitudeName : Decimal → List Char
  | .finite _ coefficient exponent => natural 'E' (Nat.toDigits 10 coefficient) exponent
  | .infinite _ => "Infinity".toList
  | .nan _ signalling payload =>
    (if signalling then "sNaN".toList else "NaN".toList)
      ++ if payload = 0 then [] else Nat.toDigits 10 payload

def text (d : Decimal) : String :=
  String.ofList (Number.signed d.isNegative d.magnitudeName)

end Decimal
end Soql
