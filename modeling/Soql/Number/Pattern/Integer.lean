import Soql.Number.Pattern.Layout
import Soql.Number.Pattern.Binary

/-!
This module contains the layout of integers by a pattern. Codes for fractions and percentages lay
out the nearest binary number instead.
-/

namespace Soql

/--
An integer with this many decimal digits, or fewer, is written and read in decimal.
-/
def maxDecimalDigits : Nat := 4300

def isWritable (n : Int) : Bool :=
  n.natAbs < Nat.pow 10 maxDecimalDigits

def intText (n : Int) : List Char :=
  if n < 0 then '-' :: Nat.toDigits 10 n.natAbs else Nat.toDigits 10 n.natAbs

namespace NumberPattern

def baseOf (code : Char) : Nat :=
  match code with
  | 'b' => 2
  | 'o' => 8
  | 'x' | 'X' => 16
  | _ => 10

def markerOf (code : Char) : List Char :=
  if "boxX".toList.contains code then ['0', code] else []

def characterText (p : NumberPattern) (n : Int) : Except PatternFailure Text :=
  if p.sign.isSome then .error (.fault .signOnCharacter)
  else if p.alternate then .error (.fault .alternateOnCharacter)
  else if !Number.isWord n then .error (.overflow .wordTooSmall)
  else if n < 0 || 0x110000 ≤ n then .error (.overflow .notCodePoint)
  else .ok (p.layout ⟨false, [], [], [.ofCodePoint n.toNat]⟩)

def integerText (p : NumberPattern) (code : Char) (n : Int) : Except PatternFailure Text :=
  if p.precision.isSome then .error (.fault .precisionOnInteger)
  else if p.positiveZero then .error (.fault .positiveZeroOnInteger)
  else if code == 'c' then p.characterText n
  else if baseOf code == 10 && !isWritable n then .error (.fault .integerTooLong)
  else
    let digits := Nat.toDigits (baseOf code) n.natAbs
    let digits := if code == 'X' then digits.map Char.toUpper else digits
    let marker := if p.alternate then markerOf code else []
    .ok (p.layout ⟨n < 0, marker, digits, []⟩)

def formatInt (kind : String) (pattern : Text) (n : Int) : Except PatternFailure Text := do
  let p ← (read kind .right (some 'd') pattern).mapError .fault
  let code := p.code.getD 'd'
  if "bcdoxXn".toList.contains code then
    p.integerText code n
  else if "eEfFgG%".toList.contains code then
    let x := Binary64.ofInt n
    if x.isFinite then
      p.binaryText x
    else
      throw (.overflow .intBeyondBinary)
  else
    throw (.fault (.unknownCode code kind))

end NumberPattern
end Soql
