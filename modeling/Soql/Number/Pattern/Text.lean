import Soql.Number.Pattern.Layout

/-!
This module contains the layout of texts by a pattern: what it has for numbers is refused, and the
precision says how many characters are kept.
-/

namespace Soql
namespace NumberPattern

def checkForText (p : NumberPattern) : Except PatternFault Unit :=
  if p.sign == some .space then .error .spaceOnText
  else if p.sign.isSome then .error .signOnText
  else if p.positiveZero then .error .positiveZeroOnText
  else if p.alternate then .error .alternateOnText
  else if p.align == .afterSign then .error .alignAfterSignOnText
  else .ok ()

def formatText (pattern t : Text) : Except PatternFailure Text := do
  let p ← (read "str" .left (some 's') pattern).mapError .fault
  let code := p.code.getD 's'
  if code != 's' then
    throw (.fault (.unknownCode code "str"))
  p.checkForText.mapError .fault
  let kept := match p.precision with
    | some count => t.take count
    | none => t
  return p.pad [] kept

end NumberPattern
end Soql
