/-!
This module contains the class of blank characters and the two operations on literal text that
depend on it: collapsing runs of blanks and trimming the ends.
-/

namespace Soql
namespace Text

/--
The blank characters: those with Unicode's `White_Space` property, and the four information
separators U+001C to U+001F.
-/
def isBlank (c : Char) : Bool :=
  let n := c.toNat
  (0x09 ≤ n && n ≤ 0x0D) || (0x1C ≤ n && n ≤ 0x20) || n == 0x85 || n == 0xA0 || n == 0x1680
    || (0x2000 ≤ n && n ≤ 0x200A) || n == 0x2028 || n == 0x2029 || n == 0x202F || n == 0x205F
    || n == 0x3000

def collapse (cs : List Char) : List Char :=
  go false cs
where
  /-- The flag says whether the previous character was blank. -/
  go : Bool → List Char → List Char
    | _, [] => []
    | inRun, c :: cs =>
      if isBlank c then
        if inRun then go true cs else ' ' :: go true cs
      else
        c :: go false cs

@[simp]
theorem collapse_nil : collapse [] = [] := rfl

theorem collapse.go_cons_of_not_blank (inRun : Bool) (c : Char) (cs : List Char)
    (h : isBlank c = false) : go inRun (c :: cs) = c :: go false cs := by
  simp [go, h]

theorem collapse_cons_of_not_blank (c : Char) (cs : List Char) (h : isBlank c = false) :
    collapse (c :: cs) = c :: collapse cs :=
  collapse.go_cons_of_not_blank false c cs h

def trimLeft (cs : List Char) : List Char :=
  cs.dropWhile isBlank

def trimRight (cs : List Char) : List Char :=
  (cs.reverse.dropWhile isBlank).reverse

def trim (cs : List Char) : List Char :=
  trimRight (trimLeft cs)

theorem trimLeft_cons_of_not_blank (c : Char) (cs : List Char) (h : isBlank c = false) :
    trimLeft (c :: cs) = c :: cs := by
  simp [trimLeft, h]

end Text
end Soql
