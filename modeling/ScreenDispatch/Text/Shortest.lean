/-!
Binary floating point numbers of 64 bits as text: the fewest decimal digits that read back as the
same number, and of those the nearest. They are written out from 0.0001 up to sixteen digits
before the point, and with an exponent otherwise.
-/
set_option autoImplicit false

namespace ScreenDispatch.Text

-- A positive number `mantissa · 2 ^ exponent`. The numbers next to it are one unit of the mantissa
-- away, or half a unit below where the exponent changes.
structure BinaryFraction where
  mantissa : Nat
  exponent : Int
  isStep : Bool

structure Quotient where
  num : Nat
  den : Nat

def scaled (base : Nat) (e : Int) (q : Quotient) : Quotient :=
  if 0 ≤ e then ⟨q.num * base.pow e.toNat, q.den⟩ else ⟨q.num, q.den * base.pow (-e).toNat⟩

def Quotient.less (q r : Quotient) : Bool := q.num * r.den < r.num * q.den

namespace BinaryFraction

def atQuarter (x : BinaryFraction) (quarters : Nat) : Quotient := scaled 2 x.exponent ⟨quarters, 4⟩

def value (x : BinaryFraction) : Quotient := x.atQuarter (4 * x.mantissa)

-- Whether a number reads back as this one: it lies between the middles to both neighbours, or
-- on one of them if the mantissa is even.
def holds (x : BinaryFraction) (q : Quotient) : Bool :=
  let low := x.atQuarter (4 * x.mantissa - if x.isStep then 1 else 2)
  let high := x.atQuarter (4 * x.mantissa + 2)
  if x.mantissa % 2 = 0 then !q.less low && !high.less q else low.less q && q.less high

def point (x : BinaryFraction) : Int :=
  let bound (i : Nat) : Int := (i : Int) - 324
  (((List.range 640).find? fun i => x.value.less (scaled 10 (bound i) ⟨1, 1⟩)).map bound).getD 0

def decimal? (x : BinaryFraction) (digits : Nat) : Option (Nat × Int) :=
  let unit := x.point - digits
  let v := scaled 10 (-unit) x.value
  let below := v.num / v.den
  let upFirst := 2 * (v.num % v.den) > v.den ∨ (2 * (v.num % v.den) = v.den ∧ below % 2 = 1)
  let candidates := if upFirst then [below + 1, below] else [below, below + 1]
  (candidates.find? fun c => x.holds (scaled 10 unit ⟨c, 1⟩)).map (·, unit)

def shortest (x : BinaryFraction) : List Char × Int :=
  let (n, unit) := ((List.range 17).findSome? fun i => x.decimal? (i + 1)).getD (0, 0)
  let digits := Nat.toDigits 10 n
  (digits.reverse.dropWhile (· == '0') |>.reverse, unit + digits.length)

end BinaryFraction

def zeros (n : Nat) : List Char := List.replicate n '0'

def exponentText (e : Int) : List Char :=
  let digits := Nat.toDigits 10 e.natAbs
  'e' :: (if e < 0 then '-' else '+') :: (zeros (2 - digits.length) ++ digits)

def decimalText (digits : List Char) (point : Int) : List Char :=
  if point ≤ -4 ∨ point > 16 then
    digits.take 1 ++ (if digits.length > 1 then '.' :: digits.drop 1 else []) ++
      exponentText (point - 1)
  else if point ≤ 0 then '0' :: '.' :: (zeros (-point).toNat ++ digits)
  else
    let whole := point.toNat
    let places := digits.drop whole
    digits.take whole ++ zeros (whole - digits.length) ++
      '.' :: (if places.isEmpty then ['0'] else places)

def floatText (bits : UInt64) : String :=
  let sign := if bits.toNat / Nat.pow 2 63 = 1 then ['-'] else []
  let exponent : Nat := bits.toNat / Nat.pow 2 52 % Nat.pow 2 11
  let fraction : Nat := bits.toNat % Nat.pow 2 52
  if exponent = Nat.pow 2 11 - 1 then
    if fraction = 0 then String.ofList (sign ++ ['i', 'n', 'f']) else "nan"
  else if exponent = 0 ∧ fraction = 0 then String.ofList (sign ++ ['0', '.', '0'])
  else
    let x : BinaryFraction :=
      if exponent = 0 then ⟨fraction, -1074, false⟩
      else ⟨fraction + Nat.pow 2 52, (exponent : Int) - 1075, fraction = 0 ∧ exponent > 1⟩
    let (digits, point) := x.shortest
    String.ofList (sign ++ decimalText digits point)

end ScreenDispatch.Text
