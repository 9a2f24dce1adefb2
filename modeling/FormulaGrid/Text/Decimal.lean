import FormulaGrid.Text.Shortest

/-!
A number is written out in place while its point lies no more than three places before its first digit
and no more than sixteen places after it, and with an exponent of at least two digits otherwise.
-/

namespace FormulaGrid.Text

structure Decimal where
  mantissa : Nat
  places : Nat
  deriving DecidableEq, Repr

/-- A fraction without zeros at the end of its mantissa: its digits, and how many of them stand
before the point. -/
def Decimal.digits (d : Decimal) : List Char × Int :=
  let all := Nat.toDigits 10 d.mantissa
  let shown := (all.reverse.dropWhile (· = '0')).reverse
  if shown.isEmpty then (['0'], 1) else (shown, Int.ofNat all.length - Int.ofNat d.places)

def inPlace (digits : List Char) (before : Int) : List Char :=
  if before ≤ 0 then '0' :: '.' :: List.replicate before.natAbs '0' ++ digits
  else
    let whole := before.toNat
    if whole < digits.length then digits.take whole ++ '.' :: digits.drop whole
    else digits ++ List.replicate (whole - digits.length) '0' ++ ['.', '0']

def withExponent (digits : List Char) (before : Int) : List Char :=
  let exponent := before - 1
  let shown := Nat.toDigits 10 exponent.natAbs
  let fraction := if digits.length = 1 then [] else '.' :: digits.drop 1
  digits.take 1 ++ fraction ++ 'e' :: (if exponent < 0 then '-' else '+') ::
    List.replicate (2 - shown.length) '0' ++ shown

def Decimal.text (d : Decimal) : List Char :=
  let (digits, before) := d.digits
  if -4 < before ∧ before ≤ 16 then inPlace digits before else withExponent digits before

def floatText (x : Float) : List Char :=
  let bits := x.toBits.toNat
  let exponent := bits / Nat.pow 2 52 % 2048
  let fraction := bits % Nat.pow 2 52
  if exponent = 2047 ∧ fraction ≠ 0 then ['n', 'a', 'n']
  else
    let unsigned :=
      if exponent = 2047 then ['i', 'n', 'f']
      else
        let span := Span.ofFields exponent fraction
        Decimal.text ⟨span.shortest, span.places⟩
    if bits < Nat.pow 2 63 then unsigned else '-' :: unsigned

end FormulaGrid.Text
