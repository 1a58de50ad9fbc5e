import Soql.Number.Decimal
import Soql.Number.Rounding
import Soql.Number.Pattern.Layout

/-!
This module contains the layout of decimal numbers by a pattern. Decimals read patterns more
strictly than other numbers do: there is no alternate form and no underscore, and zeros in front of
the width exclude an alignment. Only the mark of a positive zero has more places where it may stand.
-/

namespace Soql
namespace NumberPattern

/--
Limits of decimal layout: widths and precisions above the first are refused, counts above the second
cannot be read.
-/
def maxDecimalCount : Nat := 999999999999999999

def readAsciiCount (t : Text) : Except PatternFault (Option Nat × Text) :=
  let digits := t.leading.takeWhile Char.isDigit
  if digits.isEmpty then
    .ok (none, t)
  else
    let n := Nat.ofDigitChars 10 digits 0
    if n ≤ maxCount then .ok (some n, t.drop digits.length) else .error .decimalUnreadable

/--
The width of a decimal starts with no zero: one zero in front of it is a mark of its own.
-/
def readDecimalWidth (t : Text) : Except PatternFault (Option Nat × Text) :=
  if t.head? == some (.char '0') then .error .decimalUnreadable else readAsciiCount t

def readDecimalPrecision (t : Text) : Except PatternFault (Option Nat × Text) :=
  let (point, rest) := readMark '.' t
  if point then do
    let (count, rest) ← readAsciiCount rest
    match count with
    | some n => return (some n, rest)
    | none => throw .decimalUnreadable
  else
    .ok (none, t)

def isMark (isOne : Char → Bool) (c : Char) : Bool :=
  isOne c || c == '\x00'

/--
How many characters fill and alignment take. The fill character takes all that are not ASCII behind
it along.
-/
def alignLength : List Char → Nat
  | [] => 0
  | c :: cs =>
    let run := (cs.takeWhile (128 ≤ ·.toNat)).length
    if ((cs.drop run).head?.map (isMark (Align.ofChar? · |>.isSome))).getD false then run + 2
    else if (Align.ofChar? c).isSome then 1
    else 0

/--
Takes out the mark `z` for a positive zero, which stands behind the sign, or where a sign would.
What remains is read as if the mark had never been there, so that a sign may still follow, or even
fill and alignment.
-/
def takePositiveZero (cs : List Char) : Bool × List Char :=
  let place := alignLength cs
  let place :=
    if ((cs.drop place).head?.map (isMark (SignRule.ofChar? · |>.isSome))).getD false then place + 1
    else place
  if cs[place]? == some 'z' then (true, cs.eraseIdx place) else (false, cs)

/--
A NUL can be a fill character; anywhere else it ends the pattern.
-/
def untilNul (cs : List Char) : List Char :=
  match cs with
  | '\x00' :: cs =>
    if (cs.head?.bind Align.ofChar?).isSome then '\x00' :: cs.takeWhile (· != '\x00') else ['\x00']
  | cs => cs.takeWhile (· != '\x00')

/--
Reads a pattern for decimals. The codes `n` and `N` stand for the general writing without
separators.
-/
def readDecimal (pattern : String) : Except PatternFault NumberPattern := do
  let (positiveZero, cs) := takePositiveZero pattern.toList
  let (fill, align, t) := readAlign (Text.ofChars (untilNul cs))
  let (sign, t) := readSign t
  let (zeros, t) := readMark '0' t
  if zeros && align.isSome then
    throw .decimalUnreadable
  let (width, t) ← readDecimalWidth t
  let (comma, t) := readMark ',' t
  let (precision, t) ← readDecimalPrecision t
  let code ← match t with
    | [] => pure 'G'
    | [.char c] =>
      if "eEfFgG%".toList.contains c then pure c
      else if c == 'n' && !comma then pure 'g'
      else if c == 'N' && !comma then pure 'G'
      else throw .decimalUnreadable
    | _ => throw .decimalUnreadable
  return {
    fill := fill.getD (if zeros then '0' else ' ')
    align := align.getD (if zeros then .afterSign else .right)
    zeroDigits := zeros
    sign, positiveZero, width, precision
    alternate := false
    separator := if comma then some .comma else none
    code := some code }

def isDecimalExponent (exponent : Int) : Bool :=
  -1999999999999999998 ≤ exponent && exponent ≤ 1000000000000000000

def rescale (coefficient : Nat) (exponent target : Int) : Except PatternFailure (List Char) :=
  let digits := Nat.toDigits 10 coefficient
  if coefficient = 0 then
    .ok digits
  else if !isDecimalExponent target then
    .error (.fault .decimalTooLarge)
  else if target ≤ exponent then
    let zeros := (exponent - target).toNat
    if maxDecimalCount + 1 < digits.length + zeros then .error (.fault .decimalTooLarge)
    else .ok (digits ++ List.replicate zeros '0')
  else
    let dropped := (target - exponent).toNat
    -- Note: beyond its digits a number is less than a tenth of the unit it is rounded to.
    if digits.length < dropped then .ok ['0']
    else .ok (Nat.toDigits 10 (Number.roundHalfEven coefficient (Nat.pow 10 dropped)))

/--
Rounds a coefficient that is not zero to exactly `count` digits. Rounding may carry into a new
leading digit; then the last digit is a zero.
-/
def roundDigits (coefficient : Nat) (exponent : Int) (count : Nat) :
    Except PatternFailure (List Char × Int) := do
  let target := exponent + (Nat.toDigits 10 coefficient).length - count
  let rounded ← rescale coefficient exponent target
  if rounded.length ≤ count then return (rounded, target)
  else return (rounded.dropLast, target + 1)

def decimalMagnitude (p : NumberPattern) (coefficient : Nat) (exponent : Int) :
    Except PatternFailure (List Char × Bool) :=
  let fixed (exponent : Int) : Except PatternFailure (List Char × Bool) :=
    match p.precision with
    | none => .ok (Decimal.fixed coefficient exponent, coefficient = 0)
    | some places => do
      let rounded ← rescale coefficient exponent (-places)
      return (Decimal.fixedDigits rounded (-places), rounded == ['0'])
  let scientific (mark : Char) : Except PatternFailure (List Char × Bool) :=
    match p.precision with
    | none =>
      .ok (Decimal.scientific mark (Nat.toDigits 10 coefficient) exponent 1, coefficient = 0)
    | some places =>
      if coefficient = 0 then
        .ok (Decimal.scientific mark ['0'] exponent (1 - places), true)
      else do
        let (rounded, exponent) ← roundDigits coefficient exponent (places + 1)
        return (Decimal.scientific mark rounded exponent 1, false)
  let general (mark : Char) : Except PatternFailure (List Char × Bool) := do
    let digits := Nat.toDigits 10 coefficient
    let (rounded, exponent) ← match p.precision with
      | some count =>
        if max count 1 < digits.length then roundDigits coefficient exponent (max count 1)
        else pure (digits, exponent)
      | none => pure (digits, exponent)
    return (Decimal.natural mark rounded exponent, coefficient = 0)
  match p.code with
  | some 'f' | some 'F' => fixed exponent
  | some '%' => do
    let (cs, isZero) ← fixed (exponent + 2)
    return (cs ++ ['%'], isZero)
  | some 'e' => scientific 'e'
  | some 'E' => scientific 'E'
  | some 'g' => general 'e'
  | _ => general 'E'

def withoutZeros (p : NumberPattern) : NumberPattern :=
  if p.zeroDigits then { p with fill := ' ', align := .right } else p

/--
A number whose sign depends on how it is rounded has a fault of its own for digits beyond the
limits.
-/
def roundingFault (failure : PatternFailure) : PatternFailure :=
  if failure = .fault .decimalTooLarge then .fault .decimalRounding else failure

def formatDecimal (pattern : String) (d : Decimal) : Except PatternFailure Text := do
  let p ← (readDecimal pattern).mapError .fault
  if maxDecimalCount < p.width.getD 0 || maxDecimalCount < p.precision.getD 0 then
    throw (.fault .decimalTooLarge)
  match d with
  | .finite negative coefficient exponent =>
    let signDepends := p.positiveZero && negative
    let (magnitude, isZero) ← (p.decimalMagnitude coefficient exponent).mapError
      (if signDepends then roundingFault else id)
    let (digits, rest) := magnitude.span Char.isDigit
    return p.layout ⟨negative && !(signDepends && isZero), [], digits, Text.ofChars rest⟩
  | d =>
    let percent := if p.code == some '%' then ['%'] else []
    let rest := Text.ofChars (d.magnitudeName ++ percent)
    return p.withoutZeros.layout ⟨d.isNegative, [], [], rest⟩

end NumberPattern
end Soql
