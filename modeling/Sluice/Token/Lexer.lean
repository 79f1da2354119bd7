import Sluice.Template
import Sluice.Token.Error
import Sluice.Token.Numeral

/-!
# From text to tokens

Each step skips a gap of blanks and comments and then takes one lexeme, a nonempty stretch at the
front of what is left. A `Lexeme` carries the proof that it is such a stretch, so nothing of the
text is lost and the loop ends.

An opening parenthesis right behind a word opens an argument list, in which commas separate; any
other one opens a group. A template that closes on its line stays inside its word, whatever
characters it holds.
-/

namespace Sluice.Token

/-! ## Pieces of a line -/

/-- The characters that always end a bare word. -/
def isDelimiter (c : Char) : Bool :=
  Text.isBlank c || c == '|' || c == '=' || c == '(' || c == ')' || c == '"' || c == '\''

/-- What a parenthesis that is still open began. -/
inductive Paren where
  /-- An argument list, right behind a command name. -/
  | list
  | group
deriving DecidableEq

/-- The blanks and comments at the front, and what follows. A comment ends before its line does. -/
def gap (comment : Bool) : List Char → List Char × List Char
  | [] => ([], [])
  | c :: cs =>
    let more (comment : Bool) : List Char × List Char :=
      let (skipped, rest) := gap comment cs
      (c :: skipped, rest)
    if comment then more (c != '\n')
    else if Text.isBlank c then more false
    else if c == '#' then more true
    else ([], c :: cs)

/-- A stretch of a bare word: one character, or a whole template. -/
inductive WordPiece where
  | char (c : Char)
  | template (text : List Char)
deriving DecidableEq

def WordPiece.chars : WordPiece → List Char
  | .char c => [c]
  | .template text => text

def wordPieces (splitsAtComma : Bool) (cs : List Char) : List WordPiece × List Char :=
  match h : Template.lead? cs with
  | some (template, after) =>
    have := Template.lead?_length_lt h
    let (pieces, rest) := wordPieces splitsAtComma after
    (.template template :: pieces, rest)
  | none =>
    match cs with
    | [] => ([], [])
    | c :: cs =>
      if isDelimiter c || (splitsAtComma && c == ',') then ([], c :: cs)
      else
        let (pieces, rest) := wordPieces splitsAtComma cs
        (.char c :: pieces, rest)
termination_by cs.length

/-- The replacement for an escaped character; unknown escapes stay as they are, backslash
included, since paths and patterns are full of them. -/
def unescape (c : Char) : List Char :=
  match c with
  | 'n' => ['\n']
  | 't' => ['\t']
  | 'r' => ['\r']
  | '0' => ['\x00']
  | '\\' | '"' | '\'' => [c]
  | _ => ['\\', c]

/-- A quoted string behind its opening quote. -/
structure QuotedTail where
  /-- The content with its escapes replaced. -/
  content : List Char
  /-- The source up to and including the closing quote. -/
  taken : List Char
  rest : List Char

/-- Reads up to the closing quote; none if there is none. -/
def quotedTail? (quote : Char) : List Char → Option QuotedTail
  | [] => none
  | c :: cs =>
    if c = quote then some ⟨[], [c], cs⟩
    else if c = '\\' then
      match cs with
      | [] => none
      | e :: cs =>
        (quotedTail? quote cs).map fun t => ⟨unescape e ++ t.content, c :: e :: t.taken, t.rest⟩
    else (quotedTail? quote cs).map fun t => ⟨c :: t.content, c :: t.taken, t.rest⟩

/-- A flag's name: a letter, then letters, digits, dashes and underscores. -/
def isFlagName : List Char → Bool
  | [] => false
  | c :: cs => Text.isLetter c &&
      cs.all fun d => Text.isLetter d || Text.isDigit d || d == '-' || d == '_'

/-- What a bare word is: a flag, a number, or a plain word. -/
def classify (word : List Char) : Except SyntaxFault Kind :=
  match word with
  | '-' :: '-' :: name =>
    if isFlagName name then .ok (.flag (String.ofList name))
    else .error (.invalidFlag (String.ofList word))
  | _ =>
    match Numeral.read? word with
    | some n => .ok (.number n)
    | none => .ok (.word (String.ofList word))

/-! ## What the pieces take -/

theorem gap_append (comment : Bool) (cs : List Char) :
    (gap comment cs).1 ++ (gap comment cs).2 = cs := by
  induction cs generalizing comment with
  | nil => rfl
  | cons c cs ih =>
    unfold gap
    split
    · simp [ih]
    · split
      · simp [ih]
      · split <;> simp [ih]

theorem wordPieces_append (splitsAtComma : Bool) (cs : List Char) :
    (wordPieces splitsAtComma cs).1.flatMap WordPiece.chars ++ (wordPieces splitsAtComma cs).2
      = cs := by
  fun_induction wordPieces splitsAtComma cs with
  | case1 cs template after h _ pieces rest he ih =>
    rw [he] at ih
    simp [WordPiece.chars, ih, Template.lead?_eq_append h]
  | case2 => rfl
  | case3 => rfl
  | case4 c cs _ _ pieces rest he ih =>
    rw [he] at ih
    simp [WordPiece.chars, ih]

theorem quotedTail?_append {quote : Char} {cs : List Char} {t : QuotedTail}
    (h : quotedTail? quote cs = some t) : t.taken ++ t.rest = cs := by
  fun_induction quotedTail? quote cs generalizing t with
  | case1 => simp at h
  | case2 =>
    obtain rfl := Option.some.inj h
    rfl
  | case3 => simp at h
  | case4 e cs _ ih =>
    obtain ⟨u, hu, rfl⟩ := Option.map_eq_some_iff.1 h
    simp [ih hu]
  | case5 c cs _ _ ih =>
    obtain ⟨u, hu, rfl⟩ := Option.map_eq_some_iff.1 h
    simp [ih hu]

/-! ## Lexemes -/

/-- A nonempty stretch at the front of the text, with its kind. -/
structure Lexeme (cs : List Char) where
  kind : Kind
  taken : List Char
  rest : List Char
  taken_append_rest : taken ++ rest = cs
  taken_ne_nil : taken ≠ []

theorem Lexeme.rest_length_lt {cs : List Char} (l : Lexeme cs) : l.rest.length < cs.length := by
  have hl := congrArg List.length l.taken_append_rest
  have hn := List.length_pos_iff.2 l.taken_ne_nil
  simp at hl
  omega

def Lexeme.single (kind : Kind) (c : Char) (cs : List Char) : Lexeme (c :: cs) :=
  ⟨kind, [c], cs, rfl, by simp⟩

/-- The stretches of the bare word that starts with `c`, and what follows it. -/
def wordFrom (splitsAtComma : Bool) (c : Char) (cs : List Char) : List WordPiece × List Char :=
  match Template.lead? (c :: cs) with
  | some (template, after) =>
    let (pieces, rest) := wordPieces splitsAtComma after
    (.template template :: pieces, rest)
  | none =>
    let (pieces, rest) := wordPieces splitsAtComma cs
    (.char c :: pieces, rest)

theorem wordFrom_append (splitsAtComma : Bool) (c : Char) (cs : List Char) :
    (wordFrom splitsAtComma c cs).1.flatMap WordPiece.chars ++ (wordFrom splitsAtComma c cs).2 =
      c :: cs := by
  unfold wordFrom
  split
  · next template after h =>
    simp [WordPiece.chars, wordPieces_append, Template.lead?_eq_append h]
  · simp [WordPiece.chars, wordPieces_append]

theorem wordFrom_ne_nil (splitsAtComma : Bool) (c : Char) (cs : List Char) :
    (wordFrom splitsAtComma c cs).1.flatMap WordPiece.chars ≠ [] := by
  unfold wordFrom
  split
  · next template after h => simp [WordPiece.chars, Template.lead?_ne_nil h]
  · simp [WordPiece.chars]

def bareWord (splitsAtComma : Bool) (c : Char) (cs : List Char) :
    Except (SyntaxFault × Expectation) (Lexeme (c :: cs)) :=
  match classify ((wordFrom splitsAtComma c cs).1.flatMap WordPiece.chars) with
  | .error fault => .error (fault, .flagName)
  | .ok kind =>
    .ok ⟨kind, _, _, wordFrom_append splitsAtComma c cs, wordFrom_ne_nil splitsAtComma c cs⟩

def lexeme (inList : Bool) (c : Char) (cs : List Char) :
    Except (SyntaxFault × Expectation) (Lexeme (c :: cs)) :=
  if c = '|' then .ok (.single .pipe c cs)
  else if c = '=' then .ok (.single .equals c cs)
  else if c = '(' then .ok (.single .openParen c cs)
  else if c = ')' then .ok (.single .closeParen c cs)
  else if c = ',' ∧ inList then .ok (.single .comma c cs)
  else if c = '"' ∨ c = '\'' then
    match h : quotedTail? c cs with
    | none => .error (.unterminatedString, .closingQuote c)
    | some t =>
      .ok ⟨.quoted (String.ofList t.content), c :: t.taken, t.rest,
        by simp [quotedTail?_append h], by simp⟩
  else if c = '.' ∧ cs.head?.all isDelimiter then .ok (.single .dot c cs)
  else bareWord inList c cs

/-! ## The token list -/

/-- What the text so far decides about the next lexeme. -/
structure Context where
  /-- The parentheses that are open, the innermost one first. -/
  parens : List Paren
  /-- The byte at which the last token ended, if it was a word. -/
  wordEnd : Option Nat

/-- Inside an argument list, where commas separate. -/
def Context.inList (ctx : Context) : Bool :=
  ctx.parens.head? == some .list

def Context.after (ctx : Context) (kind : Kind) (span : Span) : Context :=
  let parens := match kind with
    | .openParen => (if ctx.wordEnd = some span.start then .list else .group) :: ctx.parens
    | .closeParen => ctx.parens.tail
    | _ => ctx.parens
  let wordEnd := match kind with
    | .word _ => some span.stop
    | _ => none
  ⟨parens, wordEnd⟩

def tokensFrom (offset : Nat) (ctx : Context) (cs : List Char) : Except SyntaxError (List Token) :=
  match h : gap false cs with
  | (skipped, []) =>
    let stop := offset + Text.byteLength skipped
    .ok [⟨.finish, "", ⟨stop, stop⟩⟩]
  | (skipped, c :: rest) =>
    let start := offset + Text.byteLength skipped
    match lexeme ctx.inList c rest with
    | .error (fault, expected) => .error ⟨fault, start, expected⟩
    | .ok l =>
      have : l.rest.length < cs.length := by
        have hg := congrArg List.length (gap_append false cs)
        have hl := l.rest_length_lt
        simp [h] at hg hl
        omega
      let span : Span := ⟨start, start + Text.byteLength l.taken⟩
      (tokensFrom span.stop (ctx.after l.kind span) l.rest).map
        (⟨l.kind, String.ofList l.taken, span⟩ :: ·)
termination_by cs.length

end Token

/-- The tokens of a line or block; the last one is always `finish`. Positions count bytes. -/
def tokenize (source : String) : Except SyntaxError (List Token) :=
  Token.tokensFrom 0 ⟨[], none⟩ source.toList

end Sluice
