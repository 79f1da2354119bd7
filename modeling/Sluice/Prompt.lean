import Sluice.Host
import Sluice.Text.Blank
import Sluice.Token.Unfinished

/-!
# The operator's input

Statements and answers come from the same lines, in the order in which they are asked for. A
statement goes on over further lines while a parenthesis or a string is open.
-/

namespace Sluice.Prompt

open Host

def invitation : String := "cx> "

def continuation : String := "... "

/-- Reads on until the statement is complete or the input ends; `limit` bounds the lines. -/
def readMore : Nat → String → Act host String
  | 0, text => return text
  | limit + 1, text =>
    if needsMore text then do
      tell (.print continuation)
      match ← ask .readLine with
      | some line => readMore limit (text ++ "\n" ++ line)
      | none => return text
    else return text

/-- Reads a statement; there is none at the end of the input. -/
def readStatement (limit : Nat) : Act host (Option String) := do
  tell (.print invitation)
  match ← ask .readLine with
  | some line => return some (← readMore limit line)
  | none => return none

def agrees (answer : String) : Bool :=
  let word := String.ofList ((Text.trim answer).toList.map Char.toLower)
  word == "y" || word == "yes"

/-- Asks the operator a question; no answer is a no. -/
def confirm (question : String) : Act host Bool := do
  tell (.print s!"{question} [y/N] ")
  return ((← ask .readLine).map agrees).getD false

end Sluice.Prompt
