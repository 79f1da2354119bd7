import Sluice.Proofs.Text.Slices
import Sluice.Proofs.Token.Scanning
import Sluice.Proofs.Token.Templates
import Sluice.Token.Unfinished

/-!
# Reading tokens by their bytes

The lexer and the pass over unfinished lines once more, as they go through the characters of a text
with their bytes and slice the text wherever they need a part of it: the rest from a template on, a
word, and every token. A slice that is not there would stop them. `tokensAt?_eq` and `Scan.runAt?_eq`
say that none is missing.
-/

namespace Sluice.Token

open Text

/-! ## Templates -/

/-- The bytes of the template at the start of a text, if it closes before the end of its line. -/
def templateLength? (rest : List Char) : Option Nat :=
  (find? Template.closing (rest.takeWhile (· != '\n'))).map (· + 2)

theorem templateLength?_of_takeClosed? (cs : List Char) :
    templateLength? cs = (Template.takeClosed? cs).map fun (body, _) => byteLength body := by
  unfold templateLength?
  fun_induction Template.takeClosed? cs with
  | case1 rest => rfl
  | case2 rest => rfl
  | case3 c rest hclosing hline ih =>
      have hc : (c != '\n') = true := by simpa using hline
      have hprefix : Template.closing.isPrefixOf (c :: rest.takeWhile (· != '\n')) = false := by
        rw [Bool.eq_false_iff, ne_eq, List.isPrefixOf_iff_prefix]
        rintro ⟨u, hu⟩
        obtain ⟨rfl, hrest⟩ := List.cons.inj hu
        have hsplit := List.takeWhile_append_dropWhile (p := (· != '\n')) (l := rest)
        rw [← hrest] at hsplit
        exact hclosing _ rfl hsplit.symm
      rw [List.takeWhile_cons, if_pos hc, find?_cons hprefix]
      cases hclosed : Template.takeClosed? rest with
      | none =>
          rw [hclosed] at ih
          rw [Option.map_eq_none_iff.1 ih]
          rfl
      | some result =>
          rw [hclosed] at ih
          obtain ⟨i, hi, hlength⟩ := Option.map_eq_some_iff.1 ih
          have hlength : i + 2 = byteLength result.1 := hlength
          rw [hi]
          change some (c.utf8Size + i + 2) = some (c.utf8Size + byteLength result.1)
          rw [← hlength, Nat.add_assoc]
  | case4 => rfl

theorem takeClosed?_brace (cs : List Char) :
    Template.takeClosed? ('{' :: cs) =
      (Template.takeClosed? cs).map fun (body, after) => ('{' :: body, after) := by
  rw [Template.takeClosed?] <;> simp

/-- What is looked for at two braces is the template that starts there. -/
theorem templateLength?_braces (rest : List Char) :
    templateLength? ('{' :: '{' :: rest) =
      (Template.lead? ('{' :: '{' :: rest)).map fun (template, _) => byteLength template := by
  rw [templateLength?_of_takeClosed?, takeClosed?_brace, takeClosed?_brace]
  change _ = ((Template.takeClosed? rest).map _).map _
  cases Template.takeClosed? rest <;> rfl

/-- The bytes of the template at a character, as the lexer looks for it: behind the brace it peeks at
the next character. -/
def wordTemplate? (source : List Char) (i : Nat) (c : Char) (rest : List (Nat × Char)) :
    Option (Option Nat) :=
  if c = '{' ∧ rest.head?.map Prod.snd = some '{' then (sliceFrom? source i).map templateLength?
  else some none

/-- The same as the pass over a line looks for it: behind the brace it slices the text. -/
def scanTemplate? (source : List Char) (i : Nat) (c : Char) : Option (Option Nat) :=
  if c = '{' then
    (sliceFrom? source (i + 1)).bind fun tail =>
      if tail.head? = some '{' then (sliceFrom? source i).map templateLength? else some none
  else some none

section Lead

variable {source before cs : List Char} {c : Char}

theorem lead?_eq_none_of_ne (h : ¬ (c = '{' ∧ cs.head? = some '{')) :
    Template.lead? (c :: cs) = none := by
  unfold Template.lead?
  split
  · next heq =>
    obtain ⟨rfl, rfl⟩ := List.cons.inj heq
    exact absurd ⟨rfl, rfl⟩ h
  · rfl

theorem templateLength?_of_head (hc : c = '{') (hcs : cs.head? = some '{') :
    templateLength? (c :: cs) = (Template.lead? (c :: cs)).map fun (template, _) =>
      byteLength template := by
  obtain ⟨rest, rfl⟩ := List.head?_eq_some_iff.1 hcs
  rw [hc]
  exact templateLength?_braces rest

theorem wordTemplate?_eq (hs : source = before ++ c :: cs) (offset : Nat) :
    wordTemplate? source (byteLength before) c (charIndices offset cs) =
      some ((Template.lead? (c :: cs)).map fun (template, _) => byteLength template) := by
  have hhead : (charIndices offset cs).head?.map Prod.snd = cs.head? := by
    rw [← List.head?_map, map_snd_charIndices]
  unfold wordTemplate?
  rw [hhead]
  split
  · next h =>
    rw [sliceFrom?_append hs]
    exact congrArg some (templateLength?_of_head h.1 h.2)
  · next h =>
    rw [lead?_eq_none_of_ne h]
    rfl

theorem scanTemplate?_eq (hs : source = before ++ c :: cs) :
    scanTemplate? source (byteLength before) c =
      some ((Template.lead? (c :: cs)).map fun (template, _) => byteLength template) := by
  unfold scanTemplate?
  by_cases hc : c = '{'
  · -- a brace is one byte
    have hsize : byteLength before + 1 = byteLength (before ++ [c]) := by
      rw [hc, byteLength_append]
      rfl
    have hsplit : source = (before ++ [c]) ++ cs := by
      rw [hs, List.append_assoc]
      rfl
    rw [if_pos hc, hsize, sliceFrom?_append hsplit]
    change (if cs.head? = some '{' then _ else _) = _
    split
    · next hcs =>
      rw [sliceFrom?_append hs]
      exact congrArg some (templateLength?_of_head hc hcs)
    · next hcs =>
      rw [lead?_eq_none_of_ne fun h => hcs h.2]
      rfl
  · rw [if_neg hc, lead?_eq_none_of_ne fun h => hc h.1]
    rfl

/-- Going on to the end of a template that starts at the next character. -/
theorem dropWhile_template {template after : List Char}
    (h : Template.lead? (c :: cs) = some (template, after)) (offset : Nat) :
    (charIndices (offset + c.utf8Size) cs).dropWhile (fun p => p.1 < offset + byteLength template) =
      charIndices (offset + byteLength template) after := by
  have hpos := byteLength_pos (Template.lead?_ne_nil h)
  have hdrop := dropWhile_charIndices offset template after
  rw [← Template.lead?_eq_append h, charIndices, List.dropWhile_cons, if_pos (by simpa using hpos)]
    at hdrop
  exact hdrop

end Lead

/-! ## The pass over a line -/

/-- The pass goes over characters with their bytes. -/
def Scan.runAt? (source : List Char) (s : Scan) : List (Nat × Char) → Option Scan
  | [] => some s
  | (i, c) :: rest =>
    match if s.isPlain then scanTemplate? source i c else some none with
    | none => none
    | some (some length) =>
      have : (rest.dropWhile fun p => p.1 < i + length).length ≤ rest.length :=
        (List.dropWhile_sublist _).length_le
      runAt? source { s with fresh := false } (rest.dropWhile fun p => p.1 < i + length)
    | some none => runAt? source (s.step c) rest
termination_by left => left.length

theorem Scan.runAt?_eq {source before cs : List Char} (s : Scan) (hs : source = before ++ cs) :
    s.runAt? source (charIndices (byteLength before) cs) = some (s.run cs) := by
  induction hn : cs.length using Nat.strongRecOn generalizing before cs s with
  | ind n ih =>
      cases cs with
      | nil =>
          rw [charIndices, runAt?, run_nil]
      | cons c cs =>
          have hsplit : source = (before ++ [c]) ++ cs := by
            rw [hs, List.append_assoc]
            rfl
          have hbehind := ih cs.length (by simp at hn; omega) (s.step c) hsplit rfl
          rw [byteLength_append] at hbehind
          rw [charIndices, runAt?]
          cases hplain : s.isPlain with
          | false =>
              rw [if_neg Bool.false_ne_true, run_cons_of_not_isPlain hplain]
              exact hbehind
          | true =>
              rw [if_pos rfl, scanTemplate?_eq hs]
              cases hlead : Template.lead? (c :: cs) with
              | none =>
                  rw [run_cons fun _ => hlead]
                  exact hbehind
              | some result =>
                  obtain ⟨template, after⟩ := result
                  have hsplit : source = (before ++ template) ++ after := by
                    rw [hs, List.append_assoc, ← Template.lead?_eq_append hlead]
                  dsimp only [Option.map_some]
                  rw [dropWhile_template hlead, ← byteLength_append, run_template hplain hlead]
                  exact ih _ (hn ▸ Template.lead?_length_lt hlead) _ hsplit rfl

/-- Whether a text is unfinished, as the pass finds out that slices it. -/
def needsMoreAt? (source : String) : Option Bool :=
  (Scan.start.runAt? source.toList (charIndices 0 source.toList)).map Scan.isOpen

theorem needsMoreAt?_eq (source : String) : needsMoreAt? source = some (needsMore source) := by
  have hrun : Scan.start.runAt? source.toList (charIndices (byteLength []) source.toList) =
      some (Scan.start.run source.toList) := Scan.start.runAt?_eq rfl
  exact congrArg (Option.map Scan.isOpen) hrun

/-! ## Words -/

def wordBehind? (source : List Char) (inList : Bool) :
    List (Nat × Char) → Option (List (Nat × Char))
  | [] => some []
  | (i, c) :: rest =>
    match wordTemplate? source i c rest with
    | none => none
    | some (some length) =>
      have : (rest.dropWhile fun p => p.1 < i + length).length ≤ rest.length :=
        (List.dropWhile_sublist _).length_le
      wordBehind? source inList (rest.dropWhile fun p => p.1 < i + length)
    | some none =>
      if stopsWord inList c then some ((i, c) :: rest) else wordBehind? source inList rest
termination_by left => left.length

theorem wordBehind?_eq {source before cs : List Char} (inList : Bool) (hs : source = before ++ cs) :
    wordBehind? source inList (charIndices (byteLength before) cs) =
      some (charIndices (byteLength (before ++ wordChars inList cs)) (wordPieces inList cs).2) := by
  induction hn : cs.length using Nat.strongRecOn generalizing before cs with
  | ind n ih =>
      cases cs with
      | nil =>
          rw [charIndices, wordBehind?, wordPieces]
          rfl
      | cons c cs =>
          rw [charIndices, wordBehind?, wordTemplate?_eq hs]
          cases hlead : Template.lead? (c :: cs) with
          | some result =>
              obtain ⟨template, after⟩ := result
              have hsplit : source = (before ++ template) ++ after := by
                rw [hs, List.append_assoc, ← Template.lead?_eq_append hlead]
              have hbehind := ih _ (hn ▸ Template.lead?_length_lt hlead) hsplit rfl
              dsimp only [Option.map_some]
              rw [dropWhile_template hlead, ← byteLength_append, hbehind,
                wordChars_template inList hlead, wordPieces_template inList hlead, List.append_assoc]
          | none =>
              dsimp only [Option.map_none]
              cases hstop : stopsWord inList c with
              | true =>
                  rw [if_pos rfl, wordChars_stop hstop, wordPieces_stop hstop, List.append_nil,
                    charIndices]
              | false =>
                  have hsplit : source = (before ++ [c]) ++ cs := by
                    rw [hs, List.append_assoc]
                    rfl
                  have hbehind := ih cs.length (by simp at hn; omega) hsplit rfl
                  rw [byteLength_append] at hbehind
                  rw [if_neg Bool.false_ne_true, wordChars_char hlead hstop,
                    wordPieces_char hlead hstop]
                  rw [List.append_assoc] at hbehind
                  exact hbehind

/-! ## Lexemes -/

/-- The kind of the lexeme at a character and what is left behind it, or how the lexer refuses it. -/
def lexemeAt? (source : List Char) (inList : Bool) (start : Nat) (c : Char)
    (rest : List (Nat × Char)) :
    Option (Except (SyntaxFault × Expectation) (Kind × List (Nat × Char))) :=
  if c = '|' then some (.ok (.pipe, rest))
  else if c = '=' then some (.ok (.equals, rest))
  else if c = '(' then some (.ok (.openParen, rest))
  else if c = ')' then some (.ok (.closeParen, rest))
  else if c = ',' ∧ inList then some (.ok (.comma, rest))
  else if c = '"' ∨ c = '\'' then
    match quotedTail? c (rest.map Prod.snd) with
    | none => some (.error (.unterminatedString, .closingQuote c))
    | some t => some (.ok (.quoted (String.ofList t.content), rest.drop t.taken.length))
  else if c = '.' ∧ (rest.map Prod.snd).head?.all isDelimiter then some (.ok (.dot, rest))
  else
    (wordBehind? source inList ((start, c) :: rest)).bind fun behind =>
      (slice? source start (offsetOf source behind)).map fun word =>
        ((classify word).map fun kind => (kind, behind)).mapError fun fault => (fault, .flagName)

section Lexemes

variable {source before cs : List Char} {inList : Bool} {c : Char}

/-- Where a word starts, its text is sliced out. -/
theorem lexemeAt?_word (hs : source = before ++ c :: cs) (hstop : stopsWord inList c = false)
    (hpoint : ¬ IsPoint c cs) :
    lexemeAt? source inList (byteLength before) c
        (charIndices (byteLength before + c.utf8Size) cs) =
      some (((classify (wordChars inList (c :: cs))).map fun kind =>
        (kind, charIndices (byteLength (before ++ wordChars inList (c :: cs)))
          (wordPieces inList (c :: cs)).2)).mapError fun fault => (fault, .flagName)) := by
  have hne : ∀ d, stopsWord inList d = true → c ≠ d := by
    rintro d hd rfl
    exact Bool.false_ne_true (hstop.symm.trans hd)
  have hcomma : ¬ (c = ',' ∧ inList = true) := by
    rintro ⟨rfl, rfl⟩
    cases hstop
  have hquote : ¬ (c = '"' ∨ c = '\'') := by
    rintro (hc | hc)
    · exact hne _ rfl hc
    · exact hne _ rfl hc
  have hpoint : ¬ (c = '.' ∧ cs.head?.all isDelimiter = true) := hpoint
  have hsplit : source = before ++ wordChars inList (c :: cs) ++ (wordPieces inList (c :: cs)).2 := by
    rw [hs, List.append_assoc]
    exact congrArg (before ++ ·) (wordPieces_append inList (c :: cs)).symm
  have hbehind := wordBehind?_eq inList hs
  have hslice := slice?_between hsplit
  rw [← byteLength_append] at hslice
  unfold lexemeAt?
  rw [if_neg (hne _ rfl), if_neg (hne _ rfl), if_neg (hne _ rfl), if_neg (hne _ rfl), if_neg hcomma,
    if_neg hquote, map_snd_charIndices, if_neg hpoint]
  change ((wordBehind? source inList (charIndices (byteLength before) (c :: cs))).bind _) = _
  rw [hbehind]
  change (slice? source _ (offsetOf source _)).map _ = _
  rw [offsetOf_charIndices hsplit, hslice]
  rfl

theorem lexemeAt?_of_lexes {taken rest : List Char} {kind : Kind} (hs : source = before ++ c :: cs)
    (h : Lexes inList (c :: cs) kind taken rest) :
    lexemeAt? source inList (byteLength before) c
        (charIndices (byteLength before + c.utf8Size) cs) =
      some (.ok (kind, charIndices (byteLength (before ++ taken)) rest)) := by
  cases h with
  | word hstop hpoint hkind =>
      rw [lexemeAt?_word hs hstop hpoint, hkind]
      rfl
  | @quoted _ _ t hquote ht =>
      have hcs := quotedTail?_append ht
      have hdrop := drop_charIndices (byteLength before + c.utf8Size) t.taken t.rest
      rw [hcs] at hdrop
      rw [byteLength_append, byteLength_cons, ← Nat.add_assoc, ← hdrop]
      unfold lexemeAt?
      rw [map_snd_charIndices, ht]
      rcases hquote with rfl | rfl <;> rfl
  | comma hlist =>
      rw [byteLength_append, hlist]
      rfl
  | dot hpoint =>
      rw [byteLength_append]
      unfold lexemeAt?
      rw [map_snd_charIndices, if_neg (by decide), if_neg (by decide), if_neg (by decide),
        if_neg (by decide), if_neg (by simp), if_neg (by decide)]
      exact if_pos hpoint
  | _ =>
      rw [byteLength_append]
      rfl

theorem lexemeAt?_of_refuses {fault : SyntaxFault} {expected : Expectation}
    (hs : source = before ++ c :: cs) (h : Refuses inList (c :: cs) fault expected) :
    lexemeAt? source inList (byteLength before) c
        (charIndices (byteLength before + c.utf8Size) cs) = some (.error (fault, expected)) := by
  cases h with
  | quoted hquote hnone =>
      unfold lexemeAt?
      rw [map_snd_charIndices, hnone]
      rcases hquote with rfl | rfl <;> rfl
  | flag hstop hpoint hfault =>
      rw [lexemeAt?_word hs hstop hpoint, hfault]
      rfl

end Lexemes

/-! ## Tokens -/

/-- What is left behind the gap at the front. -/
def behindGap (left : List (Nat × Char)) : List (Nat × Char) :=
  left.drop (gap false (left.map Prod.snd)).1.length

/-- The tokens of what is left. Every token's text is sliced out between its bytes, and every turn
has to leave less than there was. -/
def tokensAt? (source : List Char) (ctx : Context) (left : List (Nat × Char)) :
    Option (Except SyntaxError (List Token)) :=
  let start := offsetOf source (behindGap left)
  match behindGap left with
  | [] => some (.ok [⟨.finish, "", ⟨start, start⟩⟩])
  | (_, c) :: rest =>
    match lexemeAt? source ctx.inList start c rest with
    | none => none
    | some (.error (fault, expected)) => some (.error ⟨fault, start, expected⟩)
    | some (.ok (kind, behind)) =>
      let span : Span := ⟨start, offsetOf source behind⟩
      match slice? source span.start span.stop with
      | none => none
      | some text =>
        if behind.length < left.length then
          (tokensAt? source (ctx.after kind span) behind).map fun tokens =>
            tokens.map (⟨kind, String.ofList text, span⟩ :: ·)
        else none
termination_by left.length

theorem behindGap_eq {cs skipped rest : List Char} (h : gap false cs = (skipped, rest))
    (offset : Nat) :
    behindGap (charIndices offset cs) = charIndices (offset + byteLength skipped) rest := by
  unfold behindGap
  rw [map_snd_charIndices, h, ← append_of_gap h]
  exact drop_charIndices offset skipped rest

/-! ## Single turns -/

section Turns

variable {source : List Char} {p : Place}

/-- The gap in front of what comes next, in characters with their bytes. -/
theorem Place.In.behindGap {skipped cs : List Char} (hp : p.In source)
    (h : gap false p.left = (skipped, cs)) :
    ∃ before, source = before ++ cs ∧ byteLength before = p.offset + byteLength skipped ∧
      behindGap (charIndices p.offset p.left) = charIndices (byteLength before) cs := by
  obtain ⟨before, hsource, hbefore, -⟩ := hp.gapAt h
  have hstart : byteLength (before ++ skipped) = p.offset + byteLength skipped := by
    rw [byteLength_append, hbefore]
  exact ⟨before ++ skipped, hsource, hstart, hstart ▸ behindGap_eq h p.offset⟩

theorem tokensAt?_of_takes {q : Place} {t : Token} (hp : p.In source) (h : Takes p t q) :
    tokensAt? source p.ctx (charIndices p.offset p.left) =
      (tokensAt? source q.ctx (charIndices q.offset q.left)).map fun tokens =>
        tokens.map (t :: ·) := by
  have hadvances := h.advances.2
  obtain @⟨skipped, cs, taken, rest, kind, hgap, hlexes⟩ := h
  obtain ⟨before, hsource, hstart, hahead⟩ := hp.behindGap hgap
  have hsplit : source = before ++ taken ++ rest := by
    rw [hsource, ← hlexes.append, List.append_assoc]
  have hspan : p.spanOf skipped taken = ⟨byteLength before, byteLength (before ++ taken)⟩ := by
    rw [byteLength_append, hstart]
    rfl
  have hslice := slice?_append before taken rest
  rw [← hsplit] at hslice
  unfold Place.behind Place.tokenOf at *
  rw [hspan] at hadvances ⊢
  cases cs with
  | nil => cases hlexes
  | cons c cs =>
      rw [tokensAt?, hahead, offsetOf_charIndices hsource, charIndices]
      dsimp only
      rw [lexemeAt?_of_lexes hsource hlexes]
      dsimp only
      rw [offsetOf_charIndices hsplit, hslice]
      dsimp only
      rw [length_charIndices, length_charIndices, if_pos hadvances]

theorem tokensAt?_of_ends {stop : Nat} (hp : p.In source) (h : p.Ends stop) :
    tokensAt? source p.ctx (charIndices p.offset p.left) =
      some (.ok [⟨.finish, "", ⟨stop, stop⟩⟩]) := by
  obtain ⟨skipped, hgap, rfl⟩ := h
  obtain ⟨before, hsource, hstart, hahead⟩ := hp.behindGap hgap
  rw [tokensAt?, hahead, offsetOf_charIndices hsource, ← hstart]
  rfl

theorem tokensAt?_of_fails {e : SyntaxError} (hp : p.In source) (h : p.Fails e) :
    tokensAt? source p.ctx (charIndices p.offset p.left) = some (.error e) := by
  obtain @⟨skipped, cs, fault, expected, hgap, hrefuses⟩ := h
  obtain ⟨before, hsource, hstart, hahead⟩ := hp.behindGap hgap
  cases cs with
  | nil => cases hrefuses
  | cons c cs =>
      rw [tokensAt?, hahead, offsetOf_charIndices hsource, charIndices]
      dsimp only
      rw [lexemeAt?_of_refuses hsource hrefuses, hstart]

end Turns

/-! ## All turns -/

/-- No slice is missing on the way from a place of a text to its end. -/
theorem tokensAt?_eq {source : List Char} {p : Place} (hp : p.In source) :
    tokensAt? source p.ctx (charIndices p.offset p.left) = some p.tokens := by
  induction hn : p.left.length using Nat.strongRecOn generalizing p with
  | ind n ih =>
      rcases p.takes_or_stops with ⟨t, q, ht⟩ | ⟨stop, hends⟩ | ⟨e, hfails⟩
      · have hbehind := ih _ (hn ▸ ht.advances.2) (ht.lies hp).1 rfl
        rw [tokensAt?_of_takes hp ht, hbehind, Place.tokens_of_takes ht]
        rfl
      · rw [tokensAt?_of_ends hp hends, Place.tokens_of_ends hends]
      · rw [tokensAt?_of_fails hp hfails, Place.tokens_of_fails hfails]

/-- The tokens of a text, as the lexer finds them that slices it. -/
def tokenizeAt? (source : String) : Option (Except SyntaxError (List Token)) :=
  tokensAt? source.toList ⟨[], none⟩ (charIndices 0 source.toList)

theorem tokenizeAt?_eq (source : String) : tokenizeAt? source = some (tokenize source) :=
  tokensAt?_eq (Place.in_start source.toList)

/-! ## Going through the tokens -/

/-- A list of tokens with the number of the one that comes next. -/
structure Cursor where
  tokens : List Token
  pos : Nat

namespace Cursor

/-- The token that comes next. Beyond the last one it is the last one again. -/
def peek? (c : Cursor) : Option Token :=
  c.tokens[min c.pos (c.tokens.length - 1)]?

/-- One token ahead, unless it is the end mark. -/
def advance? (c : Cursor) : Option Cursor :=
  c.peek?.map fun t => if t.kind = .finish then c else { c with pos := c.pos + 1 }

/-- The token that comes next and those behind it. -/
def left (c : Cursor) : List Token :=
  c.tokens.drop c.pos

/-- A number of tokens ahead. -/
def advances? (c : Cursor) : Nat → Option Cursor
  | 0 => some c
  | n + 1 => c.advance?.bind fun c' => c'.advances? n

theorem exists_peek? {c : Cursor} (h : c.tokens ≠ []) : ∃ t ∈ c.tokens, c.peek? = some t := by
  have hlength := List.length_pos_iff.2 h
  have hlt : min c.pos (c.tokens.length - 1) < c.tokens.length := by omega
  exact ⟨_, List.getElem_mem hlt, List.getElem?_eq_getElem hlt⟩

section Bounds

variable {ts : List Token} {e : Token}

theorem advance?_of_lt {k : Nat} (hkinds : ∀ t ∈ ts, t.kind ≠ .finish) (hk : k < ts.length) :
    advance? ⟨ts ++ [e], k⟩ = some ⟨ts ++ [e], k + 1⟩ := by
  have hlength : (ts ++ [e]).length = ts.length + 1 := List.length_append
  have hpos : min k ((ts ++ [e]).length - 1) = k := by omega
  have hpeek : peek? ⟨ts ++ [e], k⟩ = some ts[k] := by
    unfold peek?
    dsimp only
    rw [hpos, List.getElem?_append_left hk, List.getElem?_eq_getElem hk]
  unfold advance?
  rw [hpeek, Option.map_some, if_neg (hkinds _ (List.getElem_mem hk))]

theorem advance?_of_finish (he : e.kind = .finish) :
    advance? ⟨ts ++ [e], ts.length⟩ = some ⟨ts ++ [e], ts.length⟩ := by
  have hpeek : peek? ⟨ts ++ [e], ts.length⟩ = some e := by
    unfold peek?
    simp
  unfold advance?
  rw [hpeek, Option.map_some, if_pos he]

/-- Step by step the cursor goes up to the end mark and stays there. -/
theorem advances?_eq (hkinds : ∀ t ∈ ts, t.kind ≠ .finish) (he : e.kind = .finish) (n k : Nat) :
    advances? ⟨ts ++ [e], min k ts.length⟩ n = some ⟨ts ++ [e], min (k + n) ts.length⟩ := by
  induction n generalizing k with
  | zero => rfl
  | succ n ih =>
      rw [advances?]
      by_cases hk : k < ts.length
      · have hpos : k + 1 = min (k + 1) ts.length := by omega
        rw [Nat.min_eq_left (Nat.le_of_lt hk), advance?_of_lt hkinds hk, Option.bind_some, hpos, ih,
          Nat.add_assoc, Nat.add_comm 1 n]
      · have hk := Nat.le_of_not_lt hk
        have hstay := ih k
        rw [Nat.min_eq_right hk] at hstay ⊢
        rw [advance?_of_finish he, Option.bind_some, hstay, Nat.min_eq_right (by omega),
          Nat.min_eq_right (by omega)]

end Bounds

end Cursor

/-- The tokens of a text end in the only end mark among them. -/
theorem exists_marked {source : String} {ts : List Token} (h : tokenize source = .ok ts) :
    ∃ us e, ts = us ++ [e] ∧ (∀ t ∈ us, t.kind ≠ .finish) ∧ e.kind = .finish := by
  obtain ⟨us, rfl, hlie⟩ := (tokenize_lossless source).2.1 ts h
  exact ⟨us, _, rfl, fun t ht => (hlie.stand t ht).kind, rfl⟩

/-- However far the cursor goes through the tokens of a text, there is a token that comes next. -/
theorem Cursor.exists_advances? {source : String} {ts : List Token} (h : tokenize source = .ok ts)
    (n : Nat) :
    ∃ c t behind, advances? ⟨ts, 0⟩ n = some c ∧ c.tokens = ts ∧ c.peek? = some t ∧
      c.left = t :: behind := by
  obtain ⟨us, e, rfl, hkinds, he⟩ := exists_marked h
  have hadvances := advances?_eq hkinds he n 0
  rw [Nat.zero_min, Nat.zero_add] at hadvances
  have hlength : (us ++ [e]).length = us.length + 1 := List.length_append
  have hlt : min n us.length < (us ++ [e]).length := by omega
  have hpos : min (min n us.length) ((us ++ [e]).length - 1) = min n us.length := by omega
  refine ⟨_, _, _, hadvances, rfl, ?_, List.drop_eq_getElem_cons hlt⟩
  unfold peek?
  dsimp only
  rw [hpos, List.getElem?_eq_getElem hlt]

end Sluice.Token
