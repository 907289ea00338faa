/-! Natural numbers in decimal, without leading zeros. -/

namespace CssInline.Text

def decimal (n : Nat) : List Char :=
  Nat.toDigits 10 n

/-- At least one digit, and a leading zero only when it stands alone. -/
def isCanonicalDecimal (digits : List Char) : Bool :=
  !digits.isEmpty && digits.all Char.isDigit && (digits.length == 1 || digits.head? != some '0')

def decimalValue (digits : List Char) : Nat :=
  digits.foldl (fun n digit => n * 10 + (digit.toNat - '0'.toNat)) 0

def readDecimal? (digits : List Char) : Option Nat :=
  if isCanonicalDecimal digits then some (decimalValue digits) else none

end CssInline.Text
