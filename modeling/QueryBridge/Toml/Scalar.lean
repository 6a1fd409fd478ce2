import QueryBridge.Text.Hexadecimal
import QueryBridge.Text.Double
import QueryBridge.Toml.Node

/-!
# Scalars of TOML without quotes

A scalar is a run of characters: a truth value, an integer, a float, or a moment.
The run is taken first and then matched against the grammar of each kind, so a run
that is none of them is no value.
-/

set_option autoImplicit false

namespace QueryBridge.Toml.Scalar

/-! ## Numbers -/

/-- The digits of a run in which single underscores may stand between two digits. -/
def digits? (isDigit : Char → Bool) : List Char → Option (List Char)
  | [] => none
  | [c] => if isDigit c then some [c] else none
  | c :: '_' :: rest => if isDigit c then (digits? isDigit rest).map (c :: ·) else none
  | c :: rest => if isDigit c then (digits? isDigit rest).map (c :: ·) else none

/-- The value of digits of a base. -/
def valueOf (base : Nat) (digits : List Char) : Nat :=
  digits.foldl (fun n c => n * base + (Text.hexDigit? c).getD 0) 0

/-- A digit of a base. -/
def isDigitOf (base : Nat) (c : Char) : Bool :=
  (Text.hexDigit? c).any (· < base)

/-- The decimal digits of a run that begins with a zero only if it is one. -/
def wholeDigits? (s : List Char) : Option (List Char) :=
  (digits? Char.isDigit s).filter fun digits => digits.length = 1 || digits.head? ≠ some '0'

/-- Whether a run begins with a minus sign, and what stands behind its sign. -/
def splitSign : List Char → Bool × List Char
  | '+' :: rest => (false, rest)
  | '-' :: rest => (true, rest)
  | s => (false, s)

/-- An integer: signed and decimal, or unsigned and hexadecimal, octal or binary. -/
def integer? (s : List Char) : Option Int :=
  match s with
  | '0' :: 'x' :: rest => (digits? (isDigitOf 16) rest).map fun digits => (valueOf 16 digits : Int)
  | '0' :: 'o' :: rest => (digits? (isDigitOf 8) rest).map fun digits => (valueOf 8 digits : Int)
  | '0' :: 'b' :: rest => (digits? (isDigitOf 2) rest).map fun digits => (valueOf 2 digits : Int)
  | s =>
    let (negative, rest) := splitSign s
    (wholeDigits? rest).map fun digits =>
      if negative then -(valueOf 10 digits : Int) else (valueOf 10 digits : Int)

/-- A significand times a power of ten is past the doubles. -/
def exceedsDouble (significand : Nat) (power : Int) : Bool :=
  if significand = 0 then false
  else if 0 ≤ power then 310 ≤ power || Text.Double.overflow ≤ significand * Nat.pow 10 power.toNat
  else Text.Double.overflow * Nat.pow 10 (-power).toNat ≤ significand

/-- The digits of an exponent, with the sign in front of them. -/
def exponent? (s : List Char) : Option Int :=
  let (negative, rest) := splitSign s
  (digits? Char.isDigit rest).map fun digits =>
    if negative then -(valueOf 10 digits : Int) else (valueOf 10 digits : Int)

/-- What stands behind a fraction: nothing, or an exponent behind its mark. -/
def scale? : List Char → Option Int
  | [] => some 0
  | 'e' :: rest | 'E' :: rest => exponent? rest
  | _ => none

/-- A character of a run of digits. -/
def isRunChar (c : Char) : Bool :=
  c.isDigit || c = '_'

/-- Whether a float of whole digits, fraction and scale is past the doubles. A power far below the
length of the digits makes any number small. -/
def isPastDoubles (whole fraction : List Char) (scale : Int) : Bool :=
  let digits := whole ++ fraction
  let power := scale - fraction.length
  if power + digits.length < 0 then false
  else exceedsDouble (valueOf 10 digits) power

/-- Whether a float is past the doubles. A float has a fraction, an exponent, or both. -/
def unsignedFloat? (s : List Char) : Option Bool :=
  if s = ['i', 'n', 'f'] || s = ['n', 'a', 'n'] then some false
  else
    (wholeDigits? (s.takeWhile isRunChar)).bind fun whole =>
      match s.dropWhile isRunChar with
      | '.' :: rest =>
        (digits? Char.isDigit (rest.takeWhile isRunChar)).bind fun fraction =>
          (scale? (rest.dropWhile isRunChar)).map fun scale => isPastDoubles whole fraction scale
      | 'e' :: rest | 'E' :: rest =>
        (exponent? rest).map fun scale => isPastDoubles whole [] scale
      | _ => none

/-- Whether a float with or without a sign is past the doubles. -/
def float? (s : List Char) : Option Bool :=
  unsignedFloat? (splitSign s).2

/-! ## Moments -/

/-- The number of exactly `width` digits in front, and what stands behind them. -/
def fixed? (width : Nat) (s : List Char) : Option (Nat × List Char) :=
  let digits := s.take width
  if digits.length = width && digits.all Char.isDigit then
    some (Text.digitsValue 0 digits, s.drop width)
  else none

/-- What stands behind a character that must come next. -/
def expect? (c : Char) : List Char → Option (List Char)
  | d :: rest => if d = c then some rest else none
  | [] => none

/-- Whether a year has a day more. -/
def isLeap (year : Nat) : Bool :=
  year % 4 = 0 && (year % 100 ≠ 0 || year % 400 = 0)

/-- The number of days of a month. -/
def monthLength (year month : Nat) : Nat :=
  if month = 2 then (if isLeap year then 29 else 28)
  else if month = 4 || month = 6 || month = 9 || month = 11 then 30
  else 31

/-- What stands behind a date. -/
def date? (s : List Char) : Option (List Char) := do
  let (year, s) ← fixed? 4 s
  let (month, s) ← fixed? 2 (← expect? '-' s)
  let (day, s) ← fixed? 2 (← expect? '-' s)
  if 1 ≤ month && month ≤ 12 && 1 ≤ day && day ≤ monthLength year month then some s else none

/-- What stands behind a fraction of a second, if there is one. -/
def fraction? : List Char → Option (List Char)
  | '.' :: rest =>
    if (rest.takeWhile Char.isDigit).isEmpty then none else some (rest.dropWhile Char.isDigit)
  | s => some s

/-- What stands behind seconds and their fraction, if there are any. -/
def seconds? : List Char → Option (List Char)
  | ':' :: rest => do
    let (second, rest) ← fixed? 2 rest
    if second ≤ 60 then fraction? rest else none
  | s => some s

/-- What stands behind a time. -/
def time? (s : List Char) : Option (List Char) := do
  let (hour, s) ← fixed? 2 s
  let (minute, s) ← fixed? 2 (← expect? ':' s)
  if hour ≤ 23 && minute ≤ 59 then seconds? s else none

/-- Whether nothing or an offset from universal time stands behind a date and a time. -/
def isOffset : List Char → Bool
  | [] => true
  | ['Z'] | ['z'] => true
  | sign :: rest =>
    (sign = '+' || sign = '-') &&
      match fixed? 2 rest with
      | some (hour, ':' :: rest) =>
        match fixed? 2 rest with
        | some (minute, []) => hour ≤ 23 && minute ≤ 59
        | _ => false
      | _ => false

/-- Whether a character stands between a date and a time. -/
def isDateEnd (c : Char) : Bool :=
  c = 'T' || c = 't' || c = ' '

/-- Whether a run is a date, a time, or a date and a time with or without an offset. -/
def isMoment (s : List Char) : Bool :=
  match date? s with
  | some [] => true
  | some (c :: rest) => isDateEnd c && (time? rest).any isOffset
  | none => time? s = some []

/-! ## Runs -/

/-- A character that ends a run. -/
def isEnd (c : Char) : Bool :=
  [' ', '\t', '\n', '\r', ',', '#', '=', '[', ']', '\x7b', '\x7d', '\x22', '\x27'].contains c

/-- The run in front and what stands behind it. A date takes the time behind one space along. -/
def splitRun (s : List Char) : List Char × List Char :=
  let run := s.takeWhile (!isEnd ·)
  match s.dropWhile (!isEnd ·) with
  | ' ' :: c :: rest =>
    if date? run = some [] && c.isDigit then
      (run ++ ' ' :: (c :: rest).takeWhile (!isEnd ·), (c :: rest).dropWhile (!isEnd ·))
    else (run, ' ' :: c :: rest)
  | rest => (run, rest)

/-- The value of a run. -/
def ofRun? (run : List Char) : Option Node :=
  if run = ['t', 'r', 'u', 'e'] then some (.boolean true)
  else if run = ['f', 'a', 'l', 's', 'e'] then some (.boolean false)
  else
    match integer? run with
    | some n => some (.integer n)
    | none =>
      match float? run with
      | some overflows => some (.float overflows)
      | none => if isMoment run then some .moment else none

/-- A scalar without quotes, and what stands behind it. -/
def read (s : List Char) : Option (Node × List Char) :=
  let (run, rest) := splitRun s
  (ofRun? run).map fun node => (node, rest)

end QueryBridge.Toml.Scalar
