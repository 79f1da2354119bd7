import Sluice.Text.Bytes
import Sluice.Value.Writer

/-!
# Tokens

The words of a command line, each with the exact text it stands for and the bytes that it covers.
-/

namespace Sluice

/-- A range of bytes in the source. -/
structure Span where
  start : Nat
  stop : Nat
deriving DecidableEq, Inhabited

/-- The column at which a span starts: characters, from 1. -/
def Span.column (span : Span) (source : String) : Nat :=
  Text.charOffset source span.start + 1

inductive Token.Kind where
  /-- A bare word: a command name, a dotted path, a source. -/
  | word (name : String)
  /-- A quoted string, its escapes already replaced. -/
  | quoted (text : String)
  | number (n : Number)
  /-- A flag, without its dashes. -/
  | flag (name : String)
  | pipe
  | equals
  | openParen
  | closeParen
  /-- A point that belongs to no word. -/
  | dot
  | comma
  | finish
deriving DecidableEq

structure Token where
  kind : Token.Kind
  text : String
  span : Span
deriving DecidableEq

namespace Token.Kind

def describe : Token.Kind → String
  | word name => s!"'{name}'"
  | quoted text => s!"string \"{text}\""
  | number n => s!"number {String.ofList n.chars}"
  | flag name => s!"flag '--{name}'"
  | pipe => "'|'"
  | equals => "'='"
  | openParen => "'('"
  | closeParen => "')'"
  | dot => "'.'"
  | comma => "','"
  | finish => "end of input"

/-- The tokens that can be an argument; a lone point reads as one. -/
def isOperand : Token.Kind → Bool
  | quoted _ | number _ | word _ | dot => true
  | _ => false

def isWord : Token.Kind → Bool
  | word _ => true
  | _ => false

end Token.Kind

end Sluice
