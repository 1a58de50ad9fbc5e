/-!
This module contains the signed words of 64 bits, which bound the counts and codes that a pattern or
a field can hold.
-/

namespace Soql
namespace Number

def maxWord : Nat := 9223372036854775807

def isWord (n : Int) : Bool :=
  -(maxWord : Int) - 1 ≤ n && n ≤ maxWord

end Number
end Soql
