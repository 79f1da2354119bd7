import Sluice.Proofs.Token.Layout
import Sluice.Proofs.Token.Templates
import Sluice.Proofs.Tree.Refusals

/-!
# Positions of syntax errors

Where a text is refused, the position that is reported is the number of characters in front of what
the error is about, and the column of a hint is one more than the number of those in front of the
parenthesis (`located_of_parse`). What an error is about is the first token with which no line goes
on (`Offends.token`), wherever the lexer has not refused the text before. Tokens stand at boundaries
between characters, so that no position falls back on a number of bytes.
-/

namespace Sluice

namespace Text

theorem charOffset_of_append {source : String} {before after : List Char}
    (h : source.toList = before ++ after) : charOffset source (byteLength before) = before.length := by
  unfold charOffset
  rw [h, charsBefore?_append]
  rfl

/-- What is sliced out from a boundary on stands there. -/
theorem isPrefix_of_slice? {before after part : List Char} {stop : Nat}
    (h : slice? (before ++ after) (byteLength before) stop = some part) : part <+: after := by
  unfold slice? at h
  rw [charsBefore?_append] at h
  split at h
  · next i j hi hj =>
    obtain rfl := Option.some.inj hi
    split at h
    · obtain rfl := Option.some.inj h
      rw [List.drop_take, List.drop_left]
      exact List.take_prefix _ _
    · cases h
  · cases h

end Text

namespace Token

theorem Stands.place {source : List Char} {t : Token} (h : Stands source t) :
    ∃ before after, source = before ++ after ∧ Text.byteLength before = t.span.start ∧
      t.text.toList <+: after := by
  obtain ⟨before, after, rfl, hbefore⟩ := h.start
  refine ⟨before, after, rfl, hbefore, ?_⟩
  have htext := h.text
  rw [← hbefore] at htext
  exact Text.isPrefix_of_slice? htext

theorem Takes.text_openParen {p q : Place} {t : Token} (h : Takes p t q)
    (hk : t.kind = .openParen) : t.text = "(" := by
  obtain @⟨skipped, cs, taken, rest, kind, -, hlexes⟩ := h
  obtain rfl : kind = .openParen := hk
  cases hlexes with
  | openParen => rfl
  | word _ _ hkind =>
      have hbare := isBare_of_classify hkind
      cases hbare

/-- The tokens of a text stand in it, and the end mark behind it. -/
theorem stands_of_tokenize {source : String} {ts : List Token} (h : tokenize source = .ok ts) :
    ∃ us, ts = us ++ [⟨.finish, "", ⟨Text.byteLength source.toList, Text.byteLength source.toList⟩⟩] ∧
      ∀ t ∈ us, Stands source.toList t ∧ (t.kind = .openParen → t.text = "(") := by
  obtain ⟨us, q, stop, hreads, hends, rfl⟩ :=
    (Place.tokens_eq_ok_iff (p := .start source.toList)).1 h
  obtain ⟨hq, hstand, -, -⟩ := hreads.lies (Place.in_start _)
  obtain ⟨rfl, -⟩ := hends.lies hq
  refine ⟨us, rfl, fun t ht => ⟨(hstand t ht).1, ?_⟩⟩
  obtain ⟨_, _, _, -, htakes⟩ := hreads.takes_of_mem ht
  exact htakes.text_openParen

end Token

open Grammar Sluice.Tree

/-- Where tokens end with their only end mark, one of them comes next behind those without it. -/
theorem exists_next {us rest body : List Token} {e : Token} (h : us ++ rest = body ++ [e])
    (hus : NoFinish us) (he : e.kind = .finish) :
    ∃ t post, rest = t :: post ∧ (t ∈ body ∨ t = e ∧ us = body ∧ post = []) := by
  cases rest with
  | nil =>
      rw [List.append_nil] at h
      rw [h] at hus
      simp [he] at hus
  | cons t post =>
      refine ⟨t, post, rfl, ?_⟩
      rcases List.eq_nil_or_concat post with rfl | ⟨vs, v, rfl⟩
      · obtain ⟨rfl, hte⟩ := List.append_inj' h rfl
        exact .inr ⟨(List.cons.inj hte).1, rfl, rfl⟩
      · rw [List.concat_eq_append, ← List.cons_append, ← List.append_assoc] at h
        obtain ⟨rfl, -⟩ := List.append_inj' h rfl
        exact .inl (by simp)

/-! ## What errors are about -/

/-- What an error is about stands between the characters `before` and at the front of `after`. -/
inductive Offends (source : String) (before after : List Char) :
    SyntaxFault → Expectation → Prop where
  /-- A string without an end, from its opening quote on, or a flag without a name, from its first
  dash on. In front of it are the tokens that the lexer has read, and a gap. -/
  | lexeme {ts : List Token} {p : Token.Place} {fault : SyntaxFault} {expected : Expectation} :
      Token.Reads (.start source.toList) ts p →
        Token.GapAt source.toList p.offset (Text.byteLength before) →
          Token.Faulty after fault expected → Offends source before after fault expected
  /-- The end of the text, which the tokens in front of it do not reach as a line. -/
  | finish {ts : List Token} {t : Token} {expected : Expectation} :
      tokenize source = .ok (ts ++ [t]) → t.kind = .finish → Begun ts → ¬ Begun (ts ++ [t]) →
        after = [] → Offends source before after (.unexpected .finish) expected
  /-- The first token with which no line goes on. -/
  | token {ts us : List Token} {t : Token} {expected : Expectation} :
      tokenize source = .ok (ts ++ t :: us) → t.kind ≠ .finish → Begun ts → ¬ Begun (ts ++ [t]) →
        Text.byteLength before = t.span.start → t.text.toList <+: after →
          Offends source before after (.unexpected t.kind) expected
  /-- The word in front of the first `=`. -/
  | target {us : List Token} {t q : Token} {name : String} :
      tokenize source = .ok (t :: q :: us) → t.kind = .word name → q.kind = .equals →
        Text.isIdentifier name = false → Text.byteLength before = t.span.start →
          t.text.toList <+: after → Offends source before after (.invalidTarget name) .targetName

/-- The last parenthesis that the tokens of a text open and do not close, and its column. -/
def Hinted (source : String) (column : Nat) : Prop :=
  ∃ ts p inner stop before after,
    tokenize source = .ok (ts ++ (p :: (inner ++ [⟨.finish, "", ⟨stop, stop⟩⟩]))) ∧
      p.kind = .openParen ∧ (∀ n, Token.openCount n inner = n) ∧
        source.toList = before ++ '(' :: after ∧ Text.byteLength before = p.span.start ∧
          column = before.length + 1

/-- An error whose position counts the characters in front of what it is about. -/
structure Located (source : String) (e : SyntaxError) : Prop where
  place : ∃ before after, source.toList = before ++ after ∧ e.position = before.length ∧
    Offends source before after e.fault e.expected
  hint : ∀ column, e.expected.column? = some column →
    e.fault = .unexpected .finish ∧ Hinted source column

theorem Located.le {source : String} {e : SyntaxError} (h : Located source e) :
    e.position ≤ source.length := by
  obtain ⟨before, after, hsource, hposition, -⟩ := h.place
  rw [hposition, ← String.length_toList, hsource, List.length_append]
  exact Nat.le_add_right _ _

theorem located_of_lexer {source : String} {e : SyntaxError} (h : tokenize source = .error e) :
    Located source (e.inCharacters source) := by
  obtain ⟨us, q, hreads, hfails⟩ :=
    (Token.Place.tokens_eq_error_iff (p := .start source.toList)).1 h
  obtain @⟨skipped, cs, fault, expected, hgap, hrefuses⟩ := hfails
  obtain ⟨before, hsource, hbefore, hgapAt⟩ :=
    (hreads.lies (Token.Place.in_start _)).1.gapAt hgap
  have hfaulty := hrefuses.faulty
  have hposition : q.offset + Text.byteLength skipped = Text.byteLength (before ++ skipped) := by
    rw [Text.byteLength_append, hbefore]
  constructor
  · refine ⟨before ++ skipped, cs, hsource, ?_, .lexeme hreads (hposition ▸ hgapAt) hfaulty⟩
    change Text.charOffset source (q.offset + Text.byteLength skipped) = _
    rw [hposition]
    exact Text.charOffset_of_append hsource
  · intro column hcolumn
    cases hfaulty <;> cases hcolumn

theorem expected_unexpected (ts : List Token) (expected : Expectation) :
    (unexpected ts expected).expected = expected := by
  cases ts <;> rfl

section Stopping

variable {source : String} {us rest : List Token} {expected : Expectation}

/-- Where the reader stops, the error is about the token that comes next. -/
theorem offends_of_stops (htokens : tokenize source = .ok (us ++ rest))
    (h : Stops source .line us rest.head? expected) :
    ∃ before after, source.toList = before ++ after ∧
      Text.charOffset source (unexpected rest expected).position = before.length ∧
        Offends source before after (unexpected rest expected).fault
          (unexpected rest expected).expected := by
  obtain ⟨body, hts, hstand⟩ := Token.stands_of_tokenize htokens
  obtain ⟨t, post, rfl, ht | ⟨rfl, rfl, rfl⟩⟩ := exists_next hts h.noFinish rfl
  · obtain ⟨before, after, hsource, hbefore, htext⟩ := (hstand t ht).1.place
    refine ⟨before, after, hsource, ?_,
      .token htokens (hstand t ht).1.kind h.begun h.not_begun hbefore htext⟩
    change Text.charOffset source t.span.start = _
    rw [← hbefore]
    exact Text.charOffset_of_append hsource
  · refine ⟨source.toList, [], (List.append_nil _).symm, ?_,
      .finish htokens rfl h.begun h.not_begun rfl⟩
    exact Text.charOffset_of_append (List.append_nil _).symm

/-- A hint is at the parenthesis that is open at the end. -/
theorem hinted_of_stops (htokens : tokenize source = .ok (us ++ rest))
    (h : Stops source .line us rest.head? expected) {column : Nat}
    (hcolumn : expected.column? = some column) :
    (unexpected rest expected).fault = .unexpected .finish ∧ Hinted source column := by
  obtain ⟨hend, ts, p, inner, rfl, hp, hbalanced, rfl⟩ := h.hinted hcolumn
  obtain ⟨body, hts, hstand⟩ := Token.stands_of_tokenize htokens
  obtain ⟨t, post, rfl, ht | ⟨rfl, rfl, rfl⟩⟩ := exists_next hts h.noFinish rfl
  · have hfinish : t.kind = .finish := by simpa [atEnd] using hend
    exact absurd hfinish (hstand t ht).1.kind
  · refine ⟨rfl, ?_⟩
    obtain ⟨hstands, htext⟩ := hstand p (by simp)
    obtain ⟨before, after, hsource, hbefore, hprefix⟩ := hstands.place
    rw [htext hp] at hprefix
    obtain ⟨after, rfl⟩ := hprefix
    rw [List.append_assoc, List.cons_append] at htokens
    refine ⟨ts, p, inner, _, before, after, htokens, hp, hbalanced, hsource, hbefore, ?_⟩
    unfold Span.column
    rw [← hbefore, Text.charOffset_of_append hsource]

theorem located_of_stops (htokens : tokenize source = .ok (us ++ rest))
    (h : Stops source .line us rest.head? expected) :
    Located source ((unexpected rest expected).inCharacters source) := by
  refine ⟨offends_of_stops htokens h, fun column hcolumn => ?_⟩
  change (unexpected rest expected).expected.column? = _ at hcolumn
  rw [expected_unexpected] at hcolumn
  exact hinted_of_stops htokens h hcolumn

end Stopping

/-- A name that cannot be bound is the first token. -/
theorem located_of_target {source : String} {t q : Token} {rest : List Token} {name : String}
    (htokens : tokenize source = .ok (t :: q :: rest)) (hk : t.kind = .word name)
    (hq : q.kind = .equals) (hname : Text.isIdentifier name = false) :
    Located source
      (SyntaxError.inCharacters source ⟨.invalidTarget name, t.span.start, .targetName⟩) := by
  obtain ⟨body, hts, hstand⟩ := Token.stands_of_tokenize htokens
  have ht : t ∈ body := by
    cases body with
    | nil => simp at hts
    | cons u body =>
        rw [(List.cons.inj hts).1]
        exact List.mem_cons_self
  obtain ⟨before, after, hsource, hbefore, htext⟩ := (hstand t ht).1.place
  constructor
  · refine ⟨before, after, hsource, ?_, .target htokens hk hq hname hbefore htext⟩
    change Text.charOffset source t.span.start = _
    rw [← hbefore]
    exact Text.charOffset_of_append hsource
  · intro column hcolumn
    cases hcolumn

/-- Every error of a text is at what it is about. -/
theorem located_of_parse {source : String} {e : SyntaxError} (h : parse source = .error e) :
    Located source e := by
  unfold parse at h
  cases htokens : tokenize source with
  | error e' =>
      rw [htokens] at h
      cases h
      exact located_of_lexer htokens
  | ok ts =>
      rw [htokens] at h
      change (line source ts).mapError _ = _ at h
      cases hline : line source ts with
      | ok tree =>
          rw [hline] at h
          cases h
      | error e' =>
          rw [hline] at h
          cases h
          rcases line_stops hline with
            ⟨us, rest, expected, rfl, rfl, hstops⟩ | ⟨t, q, rest, name, rfl, hk, hq, hname, rfl⟩
          · exact located_of_stops htokens hstops
          · exact located_of_target htokens hk hq hname

end Sluice
