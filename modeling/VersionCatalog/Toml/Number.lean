import VersionCatalog.Toml.Quoted

namespace VersionCatalog.Toml

/-- Whether a text consists of digits, where an underscore may stand between two of them. -/
def isDigitRun (isDigit : Char → Bool) : List Char → Bool
  | [] => false
  | [c] => isDigit c
  | c :: '_' :: rest => isDigit c && isDigitRun isDigit rest
  | c :: rest => isDigit c && isDigitRun isDigit rest

def digitsValue (base : Nat) (cs : List Char) : Nat :=
  (cs.filterMap hexDigit?).foldl (fun n digit => base * n + digit) 0

def isDigitOf (base : Nat) (c : Char) : Bool :=
  (hexDigit? c).any (· < base)

/-- Whether a text is a decimal number without a sign: digits, and no zero before others. -/
def isDecimal (cs : List Char) : Bool :=
  isDigitRun (isDigitOf 10) cs && (cs.head? != some '0' || cs.length == 1)

/-- Whether a number is minus, and the text after its sign. -/
def splitSign : List Char → Bool × List Char
  | '+' :: rest => (false, rest)
  | '-' :: rest => (true, rest)
  | cs => (false, cs)

/-- The number, if it fits in 64 bits with a sign. -/
def fitting? (n : Int) : Option Int :=
  if -9223372036854775808 ≤ n ∧ n ≤ 9223372036854775807 then some n else none

/-- The number in digits of a base, if that is what the text holds and the number fits. -/
def ofBase? (base : Nat) (cs : List Char) : Option Int :=
  if isDigitRun (isDigitOf base) cs then fitting? (digitsValue base cs) else none

/-- The value of an integer. It is decimal, with or without a sign, or else hexadecimal, octal or
binary. -/
def integer? : List Char → Option Int
  | '0' :: 'x' :: digits => ofBase? 16 digits
  | '0' :: 'o' :: digits => ofBase? 8 digits
  | '0' :: 'b' :: digits => ofBase? 2 digits
  | cs =>
    let (minus, digits) := splitSign cs
    if isDecimal digits then
      fitting? (if minus then -digitsValue 10 digits else digitsValue 10 digits)
    else none

def isExponentMark (c : Char) : Bool :=
  c == 'e' || c == 'E'

/-- The exponent of a float after its mark. -/
def exponent? (cs : List Char) : Option Int :=
  let (minus, digits) := splitSign cs
  if isDigitRun (isDigitOf 10) digits then
    some (if minus then -digitsValue 10 digits else digitsValue 10 digits)
  else none

/-- The digits of a float's fraction and its exponent, from the text after the whole part. One of
the two has to be there. -/
def fractionAndExponent? : List Char → Option (List Char × Int)
  | '.' :: cs =>
    let (fraction, rest) := cs.span (!isExponentMark ·)
    if isDigitRun (isDigitOf 10) fraction then
      match rest with
      | [] => some (fraction, 0)
      | _ :: rest => (exponent? rest).map (fraction, ·)
    else none
  | c :: cs => if isExponentMark c then (exponent? cs).map ([], ·) else none
  | [] => none

/-- Whether `digits · 10 ^ exponent` rounds to infinity as a double: whether it reaches the middle
between the largest finite double and the power of two after it. The number of its digits decides
in all cases but the close ones. -/
def overflows (digits : Nat) (exponent : Int) : Bool :=
  let limit : Nat := 1 <<< 1024 - 1 <<< 970
  let size : Int := (Nat.toDigits 10 digits).length + exponent
  if digits = 0 || size < 308 then false
  else if 310 < size then true
  else if 0 ≤ exponent then limit ≤ digits * Nat.pow 10 exponent.toNat
  else limit * Nat.pow 10 (-exponent).toNat ≤ digits

/-- Whether a text is a float. A positive one must not overflow. -/
def isFloat (cs : List Char) : Bool :=
  let (minus, body) := splitSign cs
  if body = ['i', 'n', 'f'] || body = ['n', 'a', 'n'] then true
  else
    let (whole, rest) := body.span fun c => c != '.' && !isExponentMark c
    match fractionAndExponent? rest with
    | some (fraction, exponent) =>
      let places := (fraction.filter (· != '_')).length
      isDecimal whole &&
        (minus || !overflows (digitsValue 10 (whole ++ fraction)) (exponent - places))
    | none => false

end VersionCatalog.Toml
