import Sluice.Token.Basic

/-!
# Syntax errors

Why a line has no reading, where, and what would have been allowed there. Positions count bytes
while a line is read and characters when the error is reported.
-/

namespace Sluice

/-- What the reader hoped for at the place of an error. -/
inductive Expectation where
  | closingQuote (quote : Char)
  | flagName
  | command
  | openingParen
  | pipeOrEnd
  | targetName
  | expression
  | commandOrGroup
  | groupContent
  | groupClose (column : Nat)
  | pipeOrGroupFlag
  | pipeBeforeGroup
  | argument
  | valueFor (key : String)
  | listClose (column : Nat)
  | listItem
  | listSeparator
deriving DecidableEq

def Expectation.describe : Expectation → String
  | closingQuote quote => s!"closing {quote}"
  | flagName => "--name"
  | command => "a command"
  | openingParen => "no ')' without a matching '('"
  | pipeOrEnd => "'|' or end of input"
  | targetName => "a name like 'pets'"
  | expression => "an expression after '='"
  | commandOrGroup => "a command name or '('"
  | groupContent => "a command inside '( )'"
  | groupClose column => s!"')' to close the group opened at column {column}"
  | pipeOrGroupFlag => "'|' or an output flag after a group"
  | pipeBeforeGroup => "'|' before a group, or no space between a command and its argument list"
  | argument => "an argument, a flag, '|' or end of input"
  | valueFor key => s!"a value for '{key}'"
  | listClose column => s!"')' to close the argument list opened at column {column}"
  | listItem => "an argument or ')'"
  | listSeparator => "',' or ')'"

/-- What is wrong with a line. -/
inductive SyntaxFault where
  | unterminatedString
  | invalidFlag (text : String)
  | unexpected (found : Token.Kind)
  | invalidTarget (name : String)
deriving DecidableEq

def SyntaxFault.message : SyntaxFault → String
  | unterminatedString => "unterminated string"
  | invalidFlag text => s!"invalid flag '{text}'"
  | unexpected .finish => "unexpected end of input"
  | unexpected found => s!"unexpected {found.describe}"
  | invalidTarget name => s!"assignment target '{name}' must be a bare identifier"

/-- A fault, where it is, and what was expected instead. -/
structure SyntaxError where
  fault : SyntaxFault
  position : Nat
  expected : Expectation
deriving DecidableEq

def SyntaxError.message (e : SyntaxError) : String :=
  s!"{e.fault.message} at column {e.position + 1} (expected {e.expected.describe})"

/-- The same error with its byte position counted in characters of the source. -/
def SyntaxError.inCharacters (source : String) (e : SyntaxError) : SyntaxError :=
  { e with position := Text.charOffset source e.position }

end Sluice
