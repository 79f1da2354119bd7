import Sluice.Calendar
import Sluice.Text.Blank
import Sluice.Text.Search
import Sluice.Toml.Basic
import Sluice.Value.Reader

/-!
# Scalars of TOML

Strings in their four forms, and the words that stand for numbers, truth values and dates.
-/

namespace Sluice.Toml

/-- What is left of the text after a part has been read. -/
abbrev Rest := List Char

/-! ## Strings -/

/-- Tabs and everything printable. -/
def isPlain (c : Char) : Bool :=
  c == '\t' || (0x20 ≤ c.toNat && c.toNat != 0x7f)

def hexValue? (c : Char) : Option Nat :=
  if Text.isDigit c then some (c.toNat - '0'.toNat)
  else if 'a' ≤ c ∧ c ≤ 'f' then some (c.toNat - 'a'.toNat + 10)
  else if 'A' ≤ c ∧ c ≤ 'F' then some (c.toNat - 'A'.toNat + 10)
  else none

def number? (digit? : Char → Option Nat) (base : Nat) (cs : List Char) : Option Nat :=
  cs.foldlM (fun n c => (digit? c).map fun d => n * base + d) 0

def numbered? (digits : List Char) : Option Char :=
  match number? hexValue? 16 digits with
  | none => none
  | some n => if n < 0xd800 ∨ (0xdfff < n ∧ n < 0x110000) then some (Char.ofNat n) else none

/-- The character that a letter behind a backslash stands for. -/
def escaped? : Char → Option Char
  | 'b' => some '\x08'
  | 't' => some '\t'
  | 'n' => some '\n'
  | 'f' => some '\x0c'
  | 'r' => some '\r'
  | '"' => some '"'
  | '\\' => some '\\'
  | _ => none

def consTo (c : Option Char) (found : Option (List Char × Rest)) : Option (List Char × Rest) :=
  match c, found with
  | some c, some (cs, rest) => some (c :: cs, rest)
  | _, _ => none

def basic : List Char → Option (List Char × Rest)
  | [] => none
  | '"' :: rest => some ([], rest)
  | '\\' :: 'u' :: a :: b :: c :: d :: rest => consTo (numbered? [a, b, c, d]) (basic rest)
  | '\\' :: 'U' :: a :: b :: c :: d :: e :: f :: g :: h :: rest =>
    consTo (numbered? [a, b, c, d, e, f, g, h]) (basic rest)
  | '\\' :: c :: rest => consTo (escaped? c) (basic rest)
  | c :: rest => if isPlain c && c != '\\' then consTo (some c) (basic rest) else none

/-- A string without escapes on one line, up to its closing quote. -/
def literal : List Char → Option (List Char × Rest)
  | [] => none
  | '\'' :: rest => some ([], rest)
  | c :: rest => if isPlain c then consTo (some c) (literal rest) else none

/-- The end of a string over several lines: up to two more quotes belong to the string. -/
def closing (quote : Char) (cs : List Char) : Option (List Char × Rest) :=
  match cs.takeWhile (· == quote) with
  | [] => some ([], cs)
  | [a] => some ([a], cs.drop 1)
  | [a, b] => some ([a, b], cs.drop 2)
  | _ => none

/-- Whether only blanks stand before the end of the line. -/
def endsLine (cs : List Char) : Bool :=
  match cs.dropWhile fun c => c == ' ' || c == '\t' with
  | '\n' :: _ | '\r' :: '\n' :: _ => true
  | _ => false

/-- A string over several lines, up to its closing quotes. While `skipping`, blanks and line ends
are passed over, as they are behind a backslash at the end of a line. -/
def basicLines (skipping : Bool) : List Char → Option (List Char × Rest)
  | [] => none
  | '"' :: '"' :: '"' :: rest => closing '"' rest
  | '\r' :: '\n' :: rest =>
    if skipping then basicLines true rest else consTo (some '\n') (basicLines false rest)
  | '\\' :: 'u' :: a :: b :: c :: d :: rest =>
    consTo (numbered? [a, b, c, d]) (basicLines false rest)
  | '\\' :: 'U' :: a :: b :: c :: d :: e :: f :: g :: h :: rest =>
    consTo (numbered? [a, b, c, d, e, f, g, h]) (basicLines false rest)
  | '\\' :: c :: rest =>
    match escaped? c with
    | some c => consTo (some c) (basicLines false rest)
    | none =>
      if !endsLine (c :: rest) then none
      else if c == '\r' then basicLines true (c :: rest)
      else basicLines true rest
  | c :: rest =>
    if skipping && (c == ' ' || c == '\t' || c == '\n') then basicLines true rest
    else if (isPlain c && c != '\\') || c == '\n' then consTo (some c) (basicLines false rest)
    else none

/-- A string without escapes over several lines, up to its closing quotes. -/
def literalLines : List Char → Option (List Char × Rest)
  | [] => none
  | '\'' :: '\'' :: '\'' :: rest => closing '\'' rest
  | '\r' :: '\n' :: rest => consTo (some '\n') (literalLines rest)
  | c :: rest =>
    if isPlain c || c == '\n' then consTo (some c) (literalLines rest) else none

/-- A line end right behind opening quotes does not count. -/
def dropLineEnd : List Char → List Char
  | '\n' :: rest | '\r' :: '\n' :: rest => rest
  | cs => cs

def string? : List Char → Option (List Char × Rest)
  | '"' :: '"' :: '"' :: rest => basicLines false (dropLineEnd rest)
  | '"' :: rest => basic rest
  | '\'' :: '\'' :: '\'' :: rest => literalLines (dropLineEnd rest)
  | '\'' :: rest => literal rest
  | _ => none

/-! ## Numbers -/

def isDigits (isDigit : Char → Bool) (cs : List Char) : Bool :=
  (Text.splitAll '_' cs).all fun run => !run.isEmpty && run.all isDigit

/-- A text without underscores. -/
def plainDigits (cs : List Char) : List Char :=
  cs.filter (· != '_')

/-- The sign of a number and the rest of it. -/
def signOf : List Char → Int × List Char
  | '+' :: rest => (1, rest)
  | '-' :: rest => (-1, rest)
  | cs => (1, cs)

/-- Decimal digits that do not start with a zero unless they are one. -/
def isDecimal (cs : List Char) : Bool :=
  isDigits Text.isDigit cs && (cs.head? != some '0' || cs == ['0'])

/-- The integer that a word stands for, before its size is looked at. -/
def anyInteger? : List Char → Option Int
  | '0' :: base :: digits =>
    let read (limit : Nat) : Option Int :=
      let digit? (c : Char) : Option Nat := (hexValue? c).filter (· < limit)
      if isDigits (fun c => (digit? c).isSome) digits then
        (number? digit? limit (plainDigits digits)).map Int.ofNat
      else none
    match base with
    | 'x' => read 16
    | 'o' => read 8
    | 'b' => read 2
    | _ => none
  | cs =>
    let (sign, digits) := signOf cs
    if isDecimal digits then
      (number? hexValue? 10 (plainDigits digits)).map fun n => sign * Int.ofNat n
    else none

/-- The integer that a word stands for; it fits into 64 bits. -/
def integer? (cs : List Char) : Option Int :=
  (anyInteger? cs).filter fun i => -0x8000000000000000 ≤ i ∧ i < 0x8000000000000000

/-- Whether a word is a fraction or a power of ten. It may be too large below zero, but not
above. -/
def isFraction (cs : List Char) : Bool :=
  let (sign, digits) := signOf cs
  let isExponentMark (c : Char) : Bool := c == 'e' || c == 'E'
  let mantissa := digits.takeWhile fun c => !isExponentMark c
  let exponent := digits.dropWhile fun c => !isExponentMark c
  let whole := mantissa.takeWhile (· != '.')
  let behind := mantissa.dropWhile (· != '.')
  let named := digits == "inf".toList || digits == "nan".toList
  let shaped := isDecimal whole
    && (behind.isEmpty || isDigits Text.isDigit (behind.drop 1))
    && (exponent.isEmpty || isDigits Text.isDigit (signOf (exponent.drop 1)).2)
    && !(behind.isEmpty && exponent.isEmpty)
  named || (shaped && (sign < 0 || (Value.read? (String.ofList (plainDigits digits))).isSome))

/-! ## Dates -/

/-- The number in a run of exactly so many digits. -/
def fixed? (width : Nat) (cs : List Char) : Option Nat :=
  if cs.length = width ∧ cs.all Text.isDigit then number? hexValue? 10 cs else none

def isDate (cs : List Char) : Bool :=
  match (Text.splitAll '-' cs) with
  | [y, m, d] =>
    match fixed? 4 y, fixed? 2 m, fixed? 2 d with
    | some y, some m, some d =>
      1 ≤ m && m ≤ 12 && 1 ≤ d && d ≤ Date.monthLength y m
    | _, _, _ => false
  | _ => false

/-- Whether a text is an hour, a minute and a second; the second may be a leap second. -/
def isClock (cs : List Char) : Bool :=
  match Text.splitAll ':' cs with
  | [h, m, s] =>
    match fixed? 2 h, fixed? 2 m, fixed? 2 s with
    | some h, some m, some s => h ≤ 23 && m ≤ 59 && s ≤ 60
    | _, _, _ => false
  | _ => false

/-- A time of the day in its usual writing: of a second at most nine places, without zeros at the
end. -/
def time? (cs : List Char) : Option (List Char) :=
  let clock := cs.takeWhile (· != '.')
  match isClock clock, cs.dropWhile (· != '.') with
  | false, _ => none
  | true, [] => some clock
  | true, _ :: places =>
    if places.isEmpty || !places.all Text.isDigit then none
    else
      match ((places.take 9).reverse.dropWhile (· == '0')).reverse with
      | [] => some clock
      | places => some (clock ++ '.' :: places)

/-- The distance from Greenwich in its usual writing. -/
def zone? (cs : List Char) : Option (List Char) :=
  let distance (sign : Char) (cs : List Char) : Option (List Char) :=
    match Text.splitAll ':' cs with
    | [h, m] =>
      match fixed? 2 h, fixed? 2 m with
      | some hours, some minutes =>
        if hours ≤ 23 && minutes ≤ 59 then
          some ((if hours = 0 && minutes = 0 then '+' else sign) :: cs)
        else none
      | _, _ => none
    | _ => none
  match cs with
  | [] => some []
  | ['Z'] | ['z'] => some ['Z']
  | '+' :: cs => distance '+' cs
  | '-' :: cs => distance '-' cs
  | _ => none

/-- A time of the day with or without its distance from Greenwich. -/
def zonedTime? (cs : List Char) : Option (List Char) :=
  let isZoneStart (c : Char) : Bool := c == 'Z' || c == 'z' || c == '+' || c == '-'
  match time? (cs.takeWhile fun c => !isZoneStart c), zone? (cs.dropWhile fun c => !isZoneStart c) with
  | some time, some zone => some (time ++ zone)
  | _, _ => none

/-- A date, a time of the day, or both, in its usual writing. -/
def moment? (cs : List Char) : Option (List Char) :=
  if isDate cs then some cs
  else
    match time? cs, cs.drop 10 with
    | some time, _ => some time
    | none, c :: time =>
      if isDate (cs.take 10) && (c == 'T' || c == 't' || c == ' ') then
        (zonedTime? time).map fun time => cs.take 10 ++ 'T' :: time
      else none
    | none, [] => none

/-! ## Words -/

def isWordChar (c : Char) : Bool :=
  Text.isLetter c || Text.isDigit c || c == '+' || c == '-' || c == '.' || c == '_' || c == ':'

/-- The length of the word at the start: a date and a time may have a blank between them. -/
def wordLength (cs : List Char) : Nat :=
  let first := (cs.takeWhile isWordChar).length
  match cs.drop first with
  | ' ' :: a :: b :: ':' :: rest =>
    if isDate (cs.take first) && Text.isDigit a && Text.isDigit b then
      first + 4 + (rest.takeWhile isWordChar).length
    else first
  | _ => first

/-- The value that a word stands for. -/
def word? (cs : List Char) : Option Toml :=
  if cs == "true".toList then some (.boolean true)
  else if cs == "false".toList then some (.boolean false)
  else
    match integer? cs with
    | some i => some (.integer i)
    | none =>
      match moment? cs with
      | some written => some (.moment (String.ofList written))
      | none => if isFraction cs then some .fraction else none

end Sluice.Toml
