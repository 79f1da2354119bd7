import Sluice.Double.Shortest
import Sluice.Value.Basic

/-!
# JSON text of a value

Two layouts of the same tokens: `compact` without any blank, and `pretty` with two spaces per
level. Strings escape only what they must, fields keep their order, and a double is written with
the fewest digits that read back, always with a point or an exponent so that it stays a double.
-/

namespace Sluice

/-! ## Digits -/

def decimalDigits (n : Nat) : List Char :=
  Nat.toDigits 10 n

def intChars (i : Int) : List Char :=
  if i < 0 then '-' :: decimalDigits i.natAbs else decimalDigits i.natAbs

namespace Double

/-- How a double is laid out around its digits. -/
structure Layout where
  /-- The least exponent of the first digit that is written without `e`. -/
  leastPlain : Int
  /-- The greatest exponent of the first digit that is written without `e`. -/
  greatestPlain : Int

/-- In JSON text the first digit may stand up to fifteen places before and five places after the
point. -/
def jsonLayout : Layout := ⟨-5, 15⟩

/-- Digits with a point after the first `k` of them, padded with zeros on the side that needs it. -/
def withPoint (digits : List Char) (k : Int) : List Char :=
  if k ≤ 0 then '0' :: '.' :: (List.replicate (-k).toNat '0' ++ digits)
  else if k < digits.length then digits.take k.toNat ++ '.' :: digits.drop k.toNat
  else digits ++ List.replicate (k.toNat - digits.length) '0' ++ ['.', '0']

/-- The digits in scientific form: `1e-7`, `1.5e+300`. -/
def scientific (digits : List Char) (e : Int) : List Char :=
  let head := match digits with
    | [] => []
    | [d] => [d]
    | d :: ds => d :: '.' :: ds
  head ++ 'e' :: (if e < 0 then '-' else '+') :: decimalDigits e.natAbs

/-- A finite double with the fewest digits that read back. -/
def chars (layout : Layout) (d : Double) : List Char :=
  let body :=
    if d.mantissa = 0 then ['0', '.', '0']
    else
      let s := d.shortest
      let digits := decimalDigits s.digits
      let e := s.power + digits.length - 1
      if layout.leastPlain ≤ e && e ≤ layout.greatestPlain then withPoint digits (e + 1)
      else scientific digits e
  if d.isNegative then '-' :: body else body

end Double

def Number.chars : Number → List Char
  | .int i _ => intChars i
  | .double d _ => d.chars Double.jsonLayout

/-! ## Strings -/

def hexDigit (n : Nat) : Char :=
  if n < 10 then Char.ofNat (48 + n) else Char.ofNat (87 + n)

/-- One character inside quotes: `"`, the backslash and the controls are escaped. -/
def escapeChar (c : Char) : List Char :=
  if c = '"' then ['\\', '"']
  else if c = '\\' then ['\\', '\\']
  else if c.toNat < 0x20 then
    match c.toNat with
    | 8 => ['\\', 'b']
    | 9 => ['\\', 't']
    | 10 => ['\\', 'n']
    | 12 => ['\\', 'f']
    | 13 => ['\\', 'r']
    | n => ['\\', 'u', '0', '0', hexDigit (n / 16), hexDigit (n % 16)]
  else [c]

def quoted (s : String) : List Char :=
  '"' :: (s.toList.flatMap escapeChar ++ ['"'])

namespace Value

/-! ## The compact layout -/

mutual

/-- The value without any blank. -/
def compactChars : Value → List Char
  | .null => "null".toList
  | .bool true => "true".toList
  | .bool false => "false".toList
  | .num n => n.chars
  | .str s => quoted s
  | .seq xs => '[' :: (compactItems xs ++ [']'])
  | .map fs => '{' :: (compactFields fs ++ ['}'])

def compactItems : List Value → List Char
  | [] => []
  | [x] => compactChars x
  | x :: xs => compactChars x ++ ',' :: compactItems xs

def compactFields : List (String × Value) → List Char
  | [] => []
  | [(k, x)] => quoted k ++ ':' :: compactChars x
  | (k, x) :: fs => quoted k ++ ':' :: (compactChars x ++ ',' :: compactFields fs)

end

/-! ## The pretty layout -/

def newline (level : Nat) : List Char :=
  '\n' :: List.replicate (2 * level) ' '

mutual

/-- The value with an item or a field a line, two spaces a level. -/
def prettyChars (level : Nat) : Value → List Char
  | .seq [] => ['[', ']']
  | .seq (x :: xs) => '[' :: (prettyItems (level + 1) (x :: xs) ++ newline level ++ [']'])
  | .map [] => ['{', '}']
  | .map (f :: fs) => '{' :: (prettyFields (level + 1) (f :: fs) ++ newline level ++ ['}'])
  | .null => "null".toList
  | .bool true => "true".toList
  | .bool false => "false".toList
  | .num n => n.chars
  | .str s => quoted s

def prettyItems (level : Nat) : List Value → List Char
  | [] => []
  | [x] => newline level ++ prettyChars level x
  | x :: xs => newline level ++ (prettyChars level x ++ ',' :: prettyItems level xs)

def prettyFields (level : Nat) : List (String × Value) → List Char
  | [] => []
  | [(k, x)] => newline level ++ (quoted k ++ ':' :: ' ' :: prettyChars level x)
  | (k, x) :: fs =>
    newline level ++ (quoted k ++ ':' :: ' ' :: (prettyChars level x ++ ',' :: prettyFields level fs))

end

def compact (v : Value) : String :=
  String.ofList v.compactChars

def pretty (v : Value) : String :=
  String.ofList (v.prettyChars 0)

/-- Text as it stands, everything else as compact JSON. -/
def toText : Value → String
  | .str s => s
  | v => v.compact

end Value

end Sluice
