import Sluice.Text.Blank
import Sluice.Token.Lexer
import Sluice.Tree.Basic

/-!
# From tokens to trees

A recursive descent over the tokens of a line:

* a line is a chain, or a name, `=` and a chain;
* a chain is stages with `|` between them;
* a stage is a call, or a chain in parentheses followed by flags;
* a call is a word, an argument list if `(` follows it without a gap, then operands and flags;
* an argument list holds operands and `name=operand` pairs with `,` between them;
* a flag takes the operand that follows it, if one does.

Every part returns what it left, which is shorter than what it was given.
-/

namespace Sluice.Tree

abbrev Rest (ts : List Token) := { r : List Token // r.length < ts.length }

/-- What is left after a part that may be empty. -/
abbrev Below (ts : List Token) := { r : List Token // r.length ≤ ts.length }

def unexpected (ts : List Token) (expected : Expectation) : SyntaxError :=
  match ts with
  | [] => ⟨.unexpected .finish, 0, expected⟩
  | t :: _ => ⟨.unexpected t.kind, t.span.start, expected⟩

def startsWith (kind : Token.Kind) (ts : List Token) : Bool :=
  ts.head?.any (·.kind == kind)

/-! ## Operands and flags -/

def operand (t : Token) : Operand :=
  match t.kind with
  | .word name => .word name t.span
  | .quoted text => .literal (.str text) t.span
  | .number n => .literal (.num n) t.span
  | _ => .word t.text t.span

def flag (name : String) (span : Span) (ts : List Token) : FlagNode × Below ts :=
  match ts with
  | v :: rest =>
    if v.kind.isOperand then (⟨name, some (operand v), ⟨span.start, v.span.stop⟩⟩, ⟨rest, by simp⟩)
    else (⟨name, none, span⟩, ⟨v :: rest, Nat.le_refl _⟩)
  | [] => (⟨name, none, span⟩, ⟨[], Nat.le_refl _⟩)

/-- The arguments collected so far, with the byte at which they end. -/
structure Arguments where
  positional : List Operand
  flags : List FlagNode
  stop : Nat

def Arguments.addOperand (o : Operand) (args : Arguments) : Arguments :=
  { args with positional := o :: args.positional }

def Arguments.addFlag (f : FlagNode) (args : Arguments) : Arguments :=
  { args with flags := f :: args.flags }

/-- The operands and flags behind a command, up to a token that is neither. -/
def arguments (stop : Nat) (ts : List Token) : Arguments × Below ts :=
  match ts with
  | [] => (⟨[], [], stop⟩, ⟨[], Nat.le_refl _⟩)
  | t :: rest =>
    match t.kind with
    | .flag name =>
      let (f, ⟨r, h⟩) := flag name t.span rest
      let (args, ⟨r', h'⟩) := arguments f.span.stop r
      (args.addFlag f, ⟨r', by simp; omega⟩)
    | kind =>
      if kind.isOperand then
        let (args, ⟨r, h⟩) := arguments t.span.stop rest
        (args.addOperand (operand t), ⟨r, by simp; omega⟩)
      else (⟨[], [], stop⟩, ⟨t :: rest, Nat.le_refl _⟩)
termination_by ts.length

/-- The flags behind a group. -/
def groupFlags (stop : Nat) (ts : List Token) : List FlagNode × Nat × Below ts :=
  match ts with
  | [] => ([], stop, ⟨[], Nat.le_refl _⟩)
  | t :: rest =>
    match t.kind with
    | .flag name =>
      let (f, ⟨r, h⟩) := flag name t.span rest
      let (fs, stop', ⟨r', h'⟩) := groupFlags f.span.stop r
      (f :: fs, stop', ⟨r', by simp; omega⟩)
    | _ => ([], stop, ⟨t :: rest, Nat.le_refl _⟩)
termination_by ts.length

def endsStage (ts : List Token) : Bool :=
  ts.isEmpty || startsWith .pipe ts || startsWith .closeParen ts || startsWith .finish ts

/-! ## Argument lists -/

def listOperand (column : Nat) (t : Token) (rest : List Token) :
    Except SyntaxError ((Operand ⊕ FlagNode) × Rest (t :: rest)) :=
  if t.kind.isOperand then .ok (.inl (operand t), ⟨rest, by simp⟩)
  else if t.kind = .finish then .error (unexpected (t :: rest) (.listClose column))
  else .error (unexpected (t :: rest) .listItem)

/-- One argument of a list: an operand, or a name, `=` and an operand. -/
def listItem (column : Nat) (ts : List Token) : Except SyntaxError ((Operand ⊕ FlagNode) × Rest ts) :=
  match ts with
  | [] => .error (unexpected [] (.listClose column))
  | [t] => listOperand column t []
  | t :: e :: rest =>
    if t.kind.isWord ∧ e.kind = .equals then
      match rest with
      | v :: after =>
        if v.kind.isOperand then
          .ok (.inr ⟨t.text, some (operand v), ⟨t.span.start, v.span.stop⟩⟩,
            ⟨after, by simp; omega⟩)
        else .error (unexpected (v :: after) (.valueFor t.text))
      | [] => .error (unexpected [] (.valueFor t.text))
    else listOperand column t (e :: rest)

/-- The arguments of a list that is not empty, and its closing parenthesis. -/
def listItems (column : Nat) (ts : List Token) : Except SyntaxError (Arguments × Rest ts) :=
  match listItem column ts with
  | .error e => .error e
  | .ok (item, ⟨r, h⟩) =>
    let add (args : Arguments) : Arguments := match item with
      | .inl o => args.addOperand o
      | .inr f => args.addFlag f
    match r, h with
    | [], _ => .error (unexpected [] (.listClose column))
    | t :: rest, h =>
      match t.kind with
      | .comma =>
        (listItems column rest).map fun (args, r') =>
          (add args, ⟨r'.1, by have := r'.2; simp at h; omega⟩)
      | .closeParen => .ok (add ⟨[], [], t.span.stop⟩, ⟨rest, by simp at h; omega⟩)
      | .finish => .error (unexpected (t :: rest) (.listClose column))
      | _ => .error (unexpected (t :: rest) .listSeparator)
termination_by ts.length
decreasing_by simp at h; omega

/-- The argument list behind a command that ends at byte `stop`, if one starts right there. -/
def argumentList (source : String) (stop : Nat) (ts : List Token) :
    Except SyntaxError (Arguments × Below ts) :=
  match ts with
  | [] => .ok (⟨[], [], stop⟩, ⟨[], Nat.le_refl _⟩)
  | t :: rest =>
    if t.kind = .openParen ∧ t.span.start = stop then
      match rest with
      | u :: after =>
        if u.kind = .closeParen then .ok (⟨[], [], u.span.stop⟩, ⟨after, by simp; omega⟩)
        else (listItems (t.span.column source) (u :: after)).map fun (args, r) =>
          (args, ⟨r.1, by have := r.2; simp at this ⊢; omega⟩)
      | [] => .error (unexpected [] (.listClose (t.span.column source)))
    else .ok (⟨[], [], stop⟩, ⟨t :: rest, Nat.le_refl _⟩)

def call (source : String) (name : String) (span : Span) (ts : List Token) :
    Except SyntaxError (Call × Below ts) :=
  match argumentList source span.stop ts with
  | .error e => .error e
  | .ok (list, ⟨r, h⟩) =>
    let (args, ⟨r', h'⟩) := arguments list.stop r
    if endsStage r' then
      .ok (⟨name, list.positional ++ args.positional, list.flags ++ args.flags,
        ⟨span.start, args.stop⟩⟩, ⟨r', by omega⟩)
    else if startsWith .openParen r' then .error (unexpected r' .pipeBeforeGroup)
    else .error (unexpected r' .argument)

/-! ## Stages, chains and lines -/

mutual

def stage (source : String) (ts : List Token) : Except SyntaxError (Stage × Rest ts) :=
  match ts with
  | [] => .error (unexpected [] .commandOrGroup)
  | t :: rest =>
    match t.kind with
    | .word name =>
      (call source name t.span rest).map fun (c, r) =>
        (.call c, ⟨r.1, by have := r.2; simp; omega⟩)
    | .openParen =>
      if startsWith .closeParen rest then .error (unexpected rest .groupContent)
      else
        match chain source rest with
        | .error e => .error e
        | .ok (inner, ⟨[], _⟩) => .error (unexpected [] (.groupClose (t.span.column source)))
        | .ok (inner, ⟨u :: after, h⟩) =>
          if u.kind = .closeParen then
            let (fs, stop, ⟨r, h'⟩) := groupFlags u.span.stop after
            if endsStage r then
              .ok (.group inner fs ⟨t.span.start, stop⟩, ⟨r, by simp at h ⊢; omega⟩)
            else .error (unexpected r .pipeOrGroupFlag)
          else .error (unexpected (u :: after) (.groupClose (t.span.column source)))
    | _ => .error (unexpected (t :: rest) .commandOrGroup)
termination_by (ts.length, 0)

/-- Stages with pipes between them. -/
def chain (source : String) (ts : List Token) : Except SyntaxError (Chain × Rest ts) :=
  match stage source ts with
  | .error e => .error e
  | .ok (s, ⟨r, h⟩) =>
    (chainTail source (.stage s) r).map fun (c, r') => (c, ⟨r'.1, by have := r'.2; omega⟩)
termination_by (ts.length, 1)

def chainTail (source : String) (left : Chain) (ts : List Token) :
    Except SyntaxError (Chain × Below ts) :=
  match ts with
  | [] => .ok (left, ⟨[], Nat.le_refl _⟩)
  | t :: rest =>
    if t.kind = .pipe then
      match stage source rest with
      | .error e => .error e
      | .ok (s, ⟨r, h⟩) =>
        (chainTail source (.pipe left s) r).map fun (c, r') =>
          (c, ⟨r'.1, by have := r'.2; simp; omega⟩)
    else .ok (left, ⟨t :: rest, Nat.le_refl _⟩)
termination_by (ts.length, 0)

end

def wholeChain (source : String) (ts : List Token) : Except SyntaxError Chain :=
  match chain source ts with
  | .error e => .error e
  | .ok (c, ⟨rest, _⟩) =>
    if rest.isEmpty || startsWith .finish rest then .ok c
    else if startsWith .closeParen rest then .error (unexpected rest .openingParen)
    else .error (unexpected rest .pipeOrEnd)

def line (source : String) (ts : List Token) : Except SyntaxError Line :=
  if ts.isEmpty || startsWith .finish ts then .error (unexpected ts .command)
  else
    match ts with
    | t :: e :: rest =>
      match t.kind, e.kind with
      | .word name, .equals =>
        if !Text.isIdentifier name then .error ⟨.invalidTarget name, t.span.start, .targetName⟩
        else if rest.isEmpty || startsWith .finish rest then .error (unexpected rest .expression)
        else (wholeChain source rest).map fun c => ⟨some ⟨name, t.span.start⟩, c⟩
      | _, _ => (wholeChain source ts).map fun c => ⟨none, c⟩
    | _ => (wholeChain source ts).map fun c => ⟨none, c⟩

end Tree

/-- The tree of a line or block. Errors count characters. -/
def parse (source : String) : Except SyntaxError Line :=
  ((tokenize source).bind (Tree.line source)).mapError (·.inCharacters source)

end Sluice
