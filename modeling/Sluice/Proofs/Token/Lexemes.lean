import Sluice.Token.Lexer

/-!
# What lexemes are

The lexical grammar, without a word on how the lexer finds out (`Lexes`, `Refuses`), and that the
lexer reads exactly this grammar (`lexeme_eq_ok_iff`, `lexeme_eq_error_iff`).

The lexer takes the first character of a bare word unseen, since every character that cannot stand
there has been caught before. `wordFrom_eq` is the reason: where a word may start, the stretches of
the word are those that the loop over the word finds from its first character on.
-/

namespace Sluice.Token

/-! ## Bare words -/

/-- The character ends a bare word; a comma does so in an argument list. -/
def stopsWord (inList : Bool) (c : Char) : Bool :=
  isDelimiter c || (inList && c == ',')

theorem lead?_of_stopsWord {inList : Bool} {c : Char} (h : stopsWord inList c = true)
    (cs : List Char) : Template.lead? (c :: cs) = none := by
  unfold Template.lead?
  split
  · next heq =>
    obtain ⟨rfl, -⟩ := List.cons.inj heq
    cases inList <;> exact absurd h (by decide)
  · rfl

theorem wordPieces_stop {inList : Bool} {c : Char} (h : stopsWord inList c = true)
    (cs : List Char) : wordPieces inList (c :: cs) = ([], c :: cs) := by
  have hlead := lead?_of_stopsWord h cs
  rw [wordPieces]
  split
  · next hsome => simp [hlead] at hsome
  · exact if_pos h

theorem wordPieces_template (inList : Bool) {cs template after : List Char}
    (h : Template.lead? cs = some (template, after)) :
    wordPieces inList cs =
      (.template template :: (wordPieces inList after).1, (wordPieces inList after).2) := by
  rw [wordPieces]
  split
  · next hsome =>
    obtain ⟨rfl, rfl⟩ := Prod.mk.inj (Option.some.inj (h.symm.trans hsome))
    rfl
  · next hnone => simp [h] at hnone

theorem wordPieces_char {inList : Bool} {c : Char} {cs : List Char}
    (hlead : Template.lead? (c :: cs) = none) (h : stopsWord inList c = false) :
    wordPieces inList (c :: cs) = (.char c :: (wordPieces inList cs).1, (wordPieces inList cs).2) := by
  rw [wordPieces]
  split
  · next hsome => simp [hlead] at hsome
  · have hstop : ¬ (isDelimiter c || (inList && c == ',')) = true := by
      simpa [stopsWord] using h
    dsimp only
    rw [if_neg hstop]

/-- The loop over a word finds the stretches of a word that starts with `c`. -/
theorem wordFrom_eq {inList : Bool} {c : Char} (h : stopsWord inList c = false) (cs : List Char) :
    wordFrom inList c cs = wordPieces inList (c :: cs) := by
  unfold wordFrom
  split
  · next hlead => exact (wordPieces_template inList hlead).symm
  · next hlead => exact (wordPieces_char hlead h).symm

/-- A word goes on until a character ends it. -/
theorem stopsWord_of_mem_head? (inList : Bool) (cs : List Char) :
    ∀ c ∈ (wordPieces inList cs).2.head?, stopsWord inList c = true := by
  fun_induction wordPieces inList cs with
  | case1 cs template after h _ pieces rest he ih =>
      rw [he] at ih
      exact ih
  | case2 => simp
  | case3 c cs _ hstop =>
      rintro d ⟨⟩
      exact hstop
  | case4 c cs _ _ pieces rest he ih =>
      rw [he] at ih
      exact ih

def wordChars (inList : Bool) (cs : List Char) : List Char :=
  (wordPieces inList cs).1.flatMap WordPiece.chars

/-- A word is never empty where one may start. -/
theorem wordChars_ne_nil {inList : Bool} {c : Char} (h : stopsWord inList c = false)
    (cs : List Char) : wordChars inList (c :: cs) ≠ [] := by
  unfold wordChars
  rw [← wordFrom_eq h]
  exact wordFrom_ne_nil inList c cs

theorem classify_eq_error {word : List Char} {fault : SyntaxFault}
    (h : classify word = .error fault) :
    ∃ name, word = '-' :: '-' :: name ∧ isFlagName name = false ∧
      fault = .invalidFlag (String.ofList word) := by
  unfold classify at h
  split at h
  · next name =>
    split at h
    · cases h
    · next hname =>
      cases h
      exact ⟨name, rfl, by simpa using hname, rfl⟩
  · split at h <;> cases h

/-! ## Strings -/

section Strings

variable {quote : Char}

theorem quotedTail?_close (cs : List Char) :
    quotedTail? quote (quote :: cs) = some ⟨[], [quote], cs⟩ := by
  rw [quotedTail?.eq_def]
  exact if_pos rfl

theorem quotedTail?_escape (h : '\\' ≠ quote) (e : Char) (cs : List Char) :
    quotedTail? quote ('\\' :: e :: cs) =
      (quotedTail? quote cs).map fun t =>
        ⟨unescape e ++ t.content, '\\' :: e :: t.taken, t.rest⟩ := by
  rw [quotedTail?.eq_def]
  dsimp only
  rw [if_neg h, if_pos rfl]

theorem quotedTail?_plain {c : Char} (hquote : c ≠ quote) (hbackslash : c ≠ '\\')
    (cs : List Char) :
    quotedTail? quote (c :: cs) =
      (quotedTail? quote cs).map fun t => ⟨c :: t.content, c :: t.taken, t.rest⟩ := by
  rw [quotedTail?.eq_def]
  dsimp only
  rw [if_neg hquote, if_neg hbackslash]

theorem quotedTail?_taken_ne_nil {cs : List Char} {t : QuotedTail}
    (h : quotedTail? quote cs = some t) : t.taken ≠ [] := by
  fun_induction quotedTail? quote cs with
  | case1 => cases h
  | case2 =>
      cases h
      exact List.cons_ne_nil _ _
  | case3 => cases h
  | case4 =>
      obtain ⟨u, -, rfl⟩ := Option.map_eq_some_iff.1 h
      exact List.cons_ne_nil _ _
  | case5 =>
      obtain ⟨u, -, rfl⟩ := Option.map_eq_some_iff.1 h
      exact List.cons_ne_nil _ _

end Strings

/-! ## The lexical grammar -/

/-- A point with no word behind it. -/
def IsPoint (c : Char) (cs : List Char) : Prop :=
  c = '.' ∧ cs.head?.all isDelimiter = true

/-- The lexeme at the front of a text: its kind, its characters, and what follows them. -/
inductive Lexes (inList : Bool) : List Char → Kind → List Char → List Char → Prop where
  | pipe {cs : List Char} : Lexes inList ('|' :: cs) .pipe ['|'] cs
  | equals {cs : List Char} : Lexes inList ('=' :: cs) .equals ['='] cs
  | openParen {cs : List Char} : Lexes inList ('(' :: cs) .openParen ['('] cs
  | closeParen {cs : List Char} : Lexes inList (')' :: cs) .closeParen [')'] cs
  | comma {cs : List Char} : inList = true → Lexes inList (',' :: cs) .comma [','] cs
  | quoted {quote : Char} {cs : List Char} {t : QuotedTail} :
      quote = '"' ∨ quote = '\'' → quotedTail? quote cs = some t →
        Lexes inList (quote :: cs) (.quoted (String.ofList t.content)) (quote :: t.taken) t.rest
  | dot {cs : List Char} : IsPoint '.' cs → Lexes inList ('.' :: cs) .dot ['.'] cs
  | word {c : Char} {cs : List Char} {kind : Kind} :
      stopsWord inList c = false → ¬ IsPoint c cs →
        classify (wordChars inList (c :: cs)) = .ok kind →
          Lexes inList (c :: cs) kind (wordChars inList (c :: cs)) (wordPieces inList (c :: cs)).2

theorem lexes_of_wordPieces {inList : Bool} {c : Char} {cs rest : List Char}
    {pieces : List WordPiece} {kind : Kind} (hstop : stopsWord inList c = false)
    (hpoint : ¬ IsPoint c cs) (hpieces : wordPieces inList (c :: cs) = (pieces, rest))
    (hkind : classify (pieces.flatMap WordPiece.chars) = .ok kind) :
    Lexes inList (c :: cs) kind (pieces.flatMap WordPiece.chars) rest := by
  have hchars : wordChars inList (c :: cs) = pieces.flatMap WordPiece.chars := by
    rw [wordChars, hpieces]
  have hlexes : Lexes inList (c :: cs) kind _ _ := .word hstop hpoint (hchars.symm ▸ hkind)
  rwa [hchars, hpieces] at hlexes

/-- The text starts with a string that never ends, or with a flag that has no name. -/
inductive Refuses (inList : Bool) : List Char → SyntaxFault → Expectation → Prop where
  | quoted {quote : Char} {cs : List Char} :
      quote = '"' ∨ quote = '\'' → quotedTail? quote cs = none →
        Refuses inList (quote :: cs) .unterminatedString (.closingQuote quote)
  | flag {c : Char} {cs : List Char} {fault : SyntaxFault} :
      stopsWord inList c = false → ¬ IsPoint c cs →
        classify (wordChars inList (c :: cs)) = .error fault →
          Refuses inList (c :: cs) fault .flagName

/-- Nothing of the text is lost. -/
theorem Lexes.append {inList : Bool} {cs taken rest : List Char} {kind : Kind}
    (h : Lexes inList cs kind taken rest) : taken ++ rest = cs := by
  cases h with
  | quoted _ ht => rw [List.cons_append, quotedTail?_append ht]
  | word => exact wordPieces_append inList _
  | _ => rfl

theorem Lexes.ne_nil {inList : Bool} {cs taken rest : List Char} {kind : Kind}
    (h : Lexes inList cs kind taken rest) : taken ≠ [] := by
  cases h with
  | word hstop => exact wordChars_ne_nil hstop _
  | _ => exact List.cons_ne_nil _ _

/-! ## The lexer reads the grammar -/

section Equations

variable (inList : Bool) (cs : List Char)

theorem lexeme_pipe : lexeme inList '|' cs = .ok (.single .pipe '|' cs) := by
  unfold lexeme
  exact if_pos rfl

theorem lexeme_equals : lexeme inList '=' cs = .ok (.single .equals '=' cs) := by
  unfold lexeme
  rw [if_neg (by decide)]
  exact if_pos rfl

theorem lexeme_openParen : lexeme inList '(' cs = .ok (.single .openParen '(' cs) := by
  unfold lexeme
  rw [if_neg (by decide), if_neg (by decide)]
  exact if_pos rfl

theorem lexeme_closeParen : lexeme inList ')' cs = .ok (.single .closeParen ')' cs) := by
  unfold lexeme
  rw [if_neg (by decide), if_neg (by decide), if_neg (by decide)]
  exact if_pos rfl

theorem lexeme_comma : lexeme true ',' cs = .ok (.single .comma ',' cs) := by
  unfold lexeme
  rw [if_neg (by decide), if_neg (by decide), if_neg (by decide), if_neg (by decide)]
  exact if_pos ⟨rfl, rfl⟩

variable {inList cs}

theorem lexeme_quote {quote : Char} (hquote : quote = '"' ∨ quote = '\'') :
    lexeme inList quote cs =
      match h : quotedTail? quote cs with
      | none => .error (.unterminatedString, .closingQuote quote)
      | some t =>
        .ok ⟨.quoted (String.ofList t.content), quote :: t.taken, t.rest,
          by simp [quotedTail?_append h], by simp⟩ := by
  unfold lexeme
  rw [if_neg (by rcases hquote with rfl | rfl <;> decide),
    if_neg (by rcases hquote with rfl | rfl <;> decide),
    if_neg (by rcases hquote with rfl | rfl <;> decide),
    if_neg (by rcases hquote with rfl | rfl <;> decide),
    if_neg (by rcases hquote with rfl | rfl <;> simp)]
  exact if_pos hquote

theorem lexeme_unclosed {quote : Char} (hquote : quote = '"' ∨ quote = '\'')
    (h : quotedTail? quote cs = none) :
    lexeme inList quote cs = .error (.unterminatedString, .closingQuote quote) := by
  rw [lexeme_quote hquote]
  split
  · rfl
  · next hsome => simp [h] at hsome

theorem lexeme_quoted {quote : Char} (hquote : quote = '"' ∨ quote = '\'') {t : QuotedTail}
    (h : quotedTail? quote cs = some t) :
    ∃ l, lexeme inList quote cs = .ok l ∧ l.kind = .quoted (String.ofList t.content) ∧
      l.taken = quote :: t.taken ∧ l.rest = t.rest := by
  rw [lexeme_quote hquote]
  split
  · next hnone => simp [h] at hnone
  · next t' hsome =>
    obtain rfl := Option.some.inj (h.symm.trans hsome)
    exact ⟨_, rfl, rfl, rfl, rfl⟩

theorem lexeme_point (h : IsPoint '.' cs) : lexeme inList '.' cs = .ok (.single .dot '.' cs) := by
  unfold lexeme
  rw [if_neg (by decide), if_neg (by decide), if_neg (by decide), if_neg (by decide),
    if_neg (by simp), if_neg (by decide)]
  exact if_pos h

theorem lexeme_word {c : Char} (h : stopsWord inList c = false) (hpoint : ¬ IsPoint c cs) :
    lexeme inList c cs = bareWord inList c cs := by
  simp only [stopsWord, isDelimiter, Bool.or_eq_false_iff, Bool.and_eq_false_iff,
    beq_eq_false_iff_ne] at h
  obtain ⟨⟨⟨⟨⟨⟨⟨-, hpipe⟩, hequals⟩, hopen⟩, hclose⟩, hdouble⟩, hsingle⟩, hcomma⟩ := h
  have hcomma' : ¬ (c = ',' ∧ inList = true) := by
    rintro ⟨rfl, rfl⟩
    simp at hcomma
  have hquote : ¬ (c = '"' ∨ c = '\'') := by simp [hdouble, hsingle]
  unfold lexeme
  rw [if_neg hpipe, if_neg hequals, if_neg hopen, if_neg hclose, if_neg hcomma', if_neg hquote]
  exact if_neg hpoint

end Equations

theorem bareWord_eq_ok_iff {inList : Bool} {c : Char} {cs : List Char}
    (h : stopsWord inList c = false) {kind : Kind} {taken rest : List Char} :
    (∃ l, bareWord inList c cs = .ok l ∧ l.kind = kind ∧ l.taken = taken ∧ l.rest = rest) ↔
      classify (wordChars inList (c :: cs)) = .ok kind ∧ taken = wordChars inList (c :: cs) ∧
        rest = (wordPieces inList (c :: cs)).2 := by
  rw [wordChars, ← wordFrom_eq h]
  unfold bareWord
  cases classify ((wordFrom inList c cs).1.flatMap WordPiece.chars) with
  | error fault => simp
  | ok kind' => simp [eq_comm]

theorem bareWord_eq_error_iff {inList : Bool} {c : Char} {cs : List Char}
    (h : stopsWord inList c = false) {fault : SyntaxFault} {expected : Expectation} :
    bareWord inList c cs = .error (fault, expected) ↔
      classify (wordChars inList (c :: cs)) = .error fault ∧ expected = .flagName := by
  rw [wordChars, ← wordFrom_eq h]
  unfold bareWord
  cases classify ((wordFrom inList c cs).1.flatMap WordPiece.chars) with
  | error fault' => simp [eq_comm]
  | ok kind => simp

/-- What the lexer makes of a text that is not blank is in the grammar. -/
theorem lexeme_sound {inList : Bool} {c : Char} {cs : List Char} (hblank : Text.isBlank c = false) :
    (∀ l, lexeme inList c cs = .ok l → Lexes inList (c :: cs) l.kind l.taken l.rest) ∧
      ∀ fault expected, lexeme inList c cs = .error (fault, expected) →
        Refuses inList (c :: cs) fault expected := by
  -- one lexeme of a known kind
  have hok {l : Lexeme (c :: cs)} (hl : lexeme inList c cs = .ok l)
      (h : Lexes inList (c :: cs) l.kind l.taken l.rest) :
      (∀ l, lexeme inList c cs = .ok l → Lexes inList (c :: cs) l.kind l.taken l.rest) ∧
        ∀ fault expected, lexeme inList c cs = .error (fault, expected) →
          Refuses inList (c :: cs) fault expected := by
    refine ⟨fun l' hl' => ?_, fun fault expected he => ?_⟩
    · cases hl.symm.trans hl'
      exact h
    · cases hl.symm.trans he
  by_cases hpipe : c = '|'
  · subst hpipe
    exact hok (lexeme_pipe inList cs) .pipe
  by_cases hequals : c = '='
  · subst hequals
    exact hok (lexeme_equals inList cs) .equals
  by_cases hopen : c = '('
  · subst hopen
    exact hok (lexeme_openParen inList cs) .openParen
  by_cases hclose : c = ')'
  · subst hclose
    exact hok (lexeme_closeParen inList cs) .closeParen
  by_cases hcomma : c = ',' ∧ inList = true
  · obtain ⟨rfl, rfl⟩ := hcomma
    exact hok (lexeme_comma cs) (.comma rfl)
  by_cases hquote : c = '"' ∨ c = '\''
  · cases ht : quotedTail? c cs with
    | none =>
        rw [lexeme_unclosed hquote ht]
        refine ⟨fun l hl => ?_, fun fault expected h => ?_⟩
        · cases hl
        · obtain ⟨hfault, hexpected⟩ : .unterminatedString = fault ∧ .closingQuote c = expected := by
            simpa using h
          rw [← hfault, ← hexpected]
          exact .quoted hquote ht
    | some t =>
        obtain ⟨l, hl, hkind, htaken, hrest⟩ := @lexeme_quoted inList cs c hquote t ht
        refine hok hl ?_
        rw [hkind, htaken, hrest]
        exact .quoted hquote ht
  by_cases hpoint : IsPoint c cs
  · obtain ⟨rfl, -⟩ := id hpoint
    exact hok (lexeme_point hpoint) (.dot hpoint)
  · have hstop : stopsWord inList c = false := by
      rw [not_or] at hquote
      have hcomma' : inList = true → c ≠ ',' := fun hlist hc => hcomma ⟨hc, hlist⟩
      simpa [stopsWord, isDelimiter, hblank, hpipe, hequals, hopen, hclose, hquote] using hcomma'
    rw [lexeme_word hstop hpoint]
    refine ⟨fun l hl => ?_, fun fault expected h => ?_⟩
    · obtain ⟨hkind, htaken, hrest⟩ := (bareWord_eq_ok_iff hstop).1 ⟨l, hl, rfl, rfl, rfl⟩
      rw [htaken, hrest]
      exact .word hstop hpoint hkind
    · obtain ⟨hfault, rfl⟩ := (bareWord_eq_error_iff hstop).1 h
      exact .flag hstop hpoint hfault

/-- The lexer takes a lexeme if and only if the grammar has it. -/
theorem lexeme_eq_ok_iff {inList : Bool} {c : Char} {cs : List Char}
    (hblank : Text.isBlank c = false) {kind : Kind} {taken rest : List Char} :
    (∃ l, lexeme inList c cs = .ok l ∧ l.kind = kind ∧ l.taken = taken ∧ l.rest = rest) ↔
      Lexes inList (c :: cs) kind taken rest := by
  constructor
  · rintro ⟨l, hl, rfl, rfl, rfl⟩
    exact (lexeme_sound hblank).1 l hl
  · intro h
    cases h with
    | pipe => exact ⟨_, lexeme_pipe inList cs, rfl, rfl, rfl⟩
    | equals => exact ⟨_, lexeme_equals inList cs, rfl, rfl, rfl⟩
    | openParen => exact ⟨_, lexeme_openParen inList cs, rfl, rfl, rfl⟩
    | closeParen => exact ⟨_, lexeme_closeParen inList cs, rfl, rfl, rfl⟩
    | comma hlist =>
        subst hlist
        exact ⟨_, lexeme_comma cs, rfl, rfl, rfl⟩
    | quoted hquote ht => exact lexeme_quoted hquote ht
    | dot hpoint => exact ⟨_, lexeme_point hpoint, rfl, rfl, rfl⟩
    | word hstop hpoint hkind =>
        rw [lexeme_word hstop hpoint]
        exact (bareWord_eq_ok_iff hstop).2 ⟨hkind, rfl, rfl⟩

/-- The lexer fails if and only if the grammar refuses the text. -/
theorem lexeme_eq_error_iff {inList : Bool} {c : Char} {cs : List Char}
    (hblank : Text.isBlank c = false) {fault : SyntaxFault} {expected : Expectation} :
    lexeme inList c cs = .error (fault, expected) ↔ Refuses inList (c :: cs) fault expected := by
  constructor
  · exact (lexeme_sound hblank).2 fault expected
  · intro h
    cases h with
    | quoted hquote hnone => exact lexeme_unclosed hquote hnone
    | flag hstop hpoint hfault =>
        rw [lexeme_word hstop hpoint]
        exact (bareWord_eq_error_iff hstop).2 ⟨hfault, rfl⟩

end Sluice.Token
