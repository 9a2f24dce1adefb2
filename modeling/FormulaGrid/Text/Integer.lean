/-!
Text and integers are converted into each other only up to `maxDigits` digits, leading zeros counted
and the sign not. Arithmetic has no such bound, so an integer may exist that has no text.
-/

namespace FormulaGrid.Text

def maxDigits : Nat := 4300

inductive DigitLimit where
  | reading (digits : Nat)
  | writing
  deriving DecidableEq, Repr

def DigitLimit.message : DigitLimit → String
  | .reading digits =>
    s!"Exceeds the limit ({maxDigits} digits) for integer string conversion: value has {digits} " ++
      "digits; use sys.set_int_max_str_digits() to increase the limit"
  | .writing =>
    s!"Exceeds the limit ({maxDigits} digits) for integer string conversion; " ++
      "use sys.set_int_max_str_digits() to increase the limit"

def integerText : Int → List Char
  | .ofNat n => Nat.toDigits 10 n
  | .negSucc n => '-' :: Nat.toDigits 10 (n + 1)

def writeInteger (n : Int) : Except DigitLimit (List Char) :=
  if n.natAbs < Nat.pow 10 maxDigits then .ok (integerText n) else .error .writing

def readDigits (digits : List Char) : Except DigitLimit Nat :=
  if digits.length ≤ maxDigits then .ok (Nat.ofDigitChars 10 digits 0)
  else .error (.reading digits.length)

def isDigits (text : List Char) : Bool :=
  !text.isEmpty && text.all Char.isDigit

/-- Whether a text has a minus sign in front, and the text after its sign if it has one. -/
def splitSign : List Char → Bool × List Char
  | '-' :: rest => (true, rest)
  | '+' :: rest => (false, rest)
  | text => (false, text)

def readInteger? (text : List Char) : Option (Except DigitLimit Int) :=
  let (negative, digits) := splitSign text
  if isDigits digits then
    some ((readDigits digits).map fun n => if negative then -Int.ofNat n else Int.ofNat n)
  else none

end FormulaGrid.Text
