import VersionCatalog.Toml.Number

namespace VersionCatalog.Toml

/-- Whether characters are decimal digits whose value lies between two bounds. -/
def isNumberIn (low high : Nat) (digits : List Char) : Bool :=
  digits.all (isDigitOf 10) && low ≤ digitsValue 10 digits && digitsValue 10 digits ≤ high

def daysInMonth (year month : Nat) : Nat :=
  if month = 2 then
    if year % 4 = 0 ∧ (year % 100 ≠ 0 ∨ year % 400 = 0) then 29 else 28
  else if month = 4 ∨ month = 6 ∨ month = 9 ∨ month = 11 then 30
  else 31

/-- Whether a text is a date: year, month and day, of four, two and two digits. -/
def isDate : List Char → Bool
  | [y₁, y₂, y₃, y₄, '-', m₁, m₂, '-', d₁, d₂] =>
    let year := digitsValue 10 [y₁, y₂, y₃, y₄]
    let month := digitsValue 10 [m₁, m₂]
    isNumberIn 0 9999 [y₁, y₂, y₃, y₄] && isNumberIn 1 12 [m₁, m₂] &&
      isNumberIn 1 (daysInMonth year month) [d₁, d₂]
  | _ => false

def isSecondFraction : List Char → Bool
  | [] => true
  | '.' :: digits => !digits.isEmpty && digits.all (isDigitOf 10)
  | _ => false

/-- Whether a text is a time of day: hour, minute and second, of two digits each, and perhaps a
fraction. A minute may have a sixty-first second. -/
def isTime : List Char → Bool
  | h₁ :: h₂ :: ':' :: m₁ :: m₂ :: ':' :: s₁ :: s₂ :: fraction =>
    isNumberIn 0 23 [h₁, h₂] && isNumberIn 0 59 [m₁, m₂] && isNumberIn 0 60 [s₁, s₂] &&
      isSecondFraction fraction
  | _ => false

/-- Whether a text is an offset from universal time: `Z`, or hours and minutes after a sign. -/
def isOffset : List Char → Bool
  | [c] => c == 'Z' || c == 'z'
  | [sign, h₁, h₂, ':', m₁, m₂] =>
    (sign == '+' || sign == '-') && isNumberIn 0 23 [h₁, h₂] && isNumberIn 0 59 [m₁, m₂]
  | _ => false

def opensOffset (c : Char) : Bool :=
  c == 'Z' || c == 'z' || c == '+' || c == '-'

def isTimeWithOffset (cs : List Char) : Bool :=
  let (time, offset) := cs.span (!opensOffset ·)
  isTime time && (offset.isEmpty || isOffset offset)

/-- Whether a text is a date, a time, or a date and a time. -/
def isDatetime (cs : List Char) : Bool :=
  isDate cs || isTime cs ||
    isDate (cs.take 10) &&
      match cs.drop 10 with
      | mark :: time => (mark == 'T' || mark == 't' || mark == ' ') && isTimeWithOffset time
      | [] => false

end VersionCatalog.Toml
