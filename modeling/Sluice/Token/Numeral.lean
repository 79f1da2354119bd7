import Sluice.Text.Blank
import Sluice.Value.Basic

/-!
# Numbers typed on a line

A word is a number when it is `-?digits[.digits][e[+-]digits]` as a whole. Whole numbers that fit
a signed word are kept exactly; all others become the nearest double, and a word whose double
would be infinite is no number.
-/

namespace Sluice.Numeral

def ofDigits (ds : List Char) : Nat :=
  ds.foldl (fun n c => n * 10 + (c.toNat - 48)) 0

/-- The exponent after `e`: an optional sign and at least one digit, to the end of the word. -/
def exponent? (cs : List Char) : Option Int :=
  let (negative, ds) := match cs with
    | '+' :: ds => (false, ds)
    | '-' :: ds => (true, ds)
    | ds => (false, ds)
  if ds.isEmpty || !ds.all Text.isDigit then none
  else some (if negative then -(ofDigits ds : Int) else ofDigits ds)

/-- The double nearest to an unsigned decimal word that starts with a digit. -/
def decimal? (negative : Bool) (cs : List Char) : Option Double :=
  let whole := cs.takeWhile Text.isDigit
  let afterWhole := cs.dropWhile Text.isDigit
  let (fraction, afterFraction) := match afterWhole with
    | '.' :: rest => (rest.takeWhile Text.isDigit, rest.dropWhile Text.isDigit)
    | rest => ([], rest)
  let exponent := match afterFraction with
    | [] => some 0
    | e :: rest => if e == 'e' || e == 'E' then exponent? rest else none
  exponent.map fun e => Double.ofDecimal negative (ofDigits (whole ++ fraction)) (e - fraction.length)

/-- The number that a word stands for, if it stands for one. -/
def read? (word : List Char) : Option Number :=
  let (negative, body) := match word with
    | '-' :: body => (true, body)
    | body => (false, body)
  if !body.head?.any Text.isDigit then none
  else
    let signed : Int := if negative then -(ofDigits body : Int) else ofDigits body
    if body.all Text.isDigit && decide (-0x8000000000000000 ≤ signed ∧ signed < 0x8000000000000000) then
      Number.ofInt? signed
    else if body.getLast? = some '.' then none
    else (decimal? negative body).bind Number.ofDouble?

end Sluice.Numeral
