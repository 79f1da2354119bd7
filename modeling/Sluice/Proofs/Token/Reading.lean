import Sluice.Proofs.Results
import Sluice.Proofs.Token.Lexemes

/-!
# Reading token by token

The token list of a text as the outcome of single turns. A `Place` says how far a text has been
read; in one turn a gap is skipped and a lexeme taken (`Takes`), and turn follows turn (`Reads`)
until only a gap is left or the text is refused.

* `Place.tokens_eq_ok_iff`, `Place.tokens_eq_error_iff` : these are the outcomes of the lexer;
* `Takes.advances` : every turn goes ahead.
-/

namespace Sluice.Token

/-! ## Places -/

/-- How far a text has been read. -/
structure Place where
  /-- The byte that comes next. -/
  offset : Nat
  ctx : Context
  /-- The characters that come next. -/
  left : List Char

namespace Place

def start (cs : List Char) : Place :=
  ⟨0, ⟨[], none⟩, cs⟩

def tokens (p : Place) : Except SyntaxError (List Token) :=
  tokensFrom p.offset p.ctx p.left

/-- The bytes of a lexeme behind a gap. -/
def spanOf (p : Place) (skipped taken : List Char) : Span :=
  ⟨p.offset + Text.byteLength skipped, p.offset + Text.byteLength skipped + Text.byteLength taken⟩

/-- The token that a lexeme behind a gap is. -/
def tokenOf (p : Place) (skipped taken : List Char) (kind : Kind) : Token :=
  ⟨kind, String.ofList taken, p.spanOf skipped taken⟩

/-- The place behind such a lexeme. -/
def behind (p : Place) (skipped taken rest : List Char) (kind : Kind) : Place :=
  ⟨(p.spanOf skipped taken).stop, p.ctx.after kind (p.spanOf skipped taken), rest⟩

/-- Only a gap is left, up to the byte `stop`. -/
def Ends (p : Place) (stop : Nat) : Prop :=
  ∃ skipped, gap false p.left = (skipped, []) ∧ stop = p.offset + Text.byteLength skipped

end Place

/-- One turn: a gap is skipped and a lexeme taken. -/
inductive Takes (p : Place) : Token → Place → Prop where
  | lexeme {skipped cs taken rest : List Char} {kind : Kind} :
      gap false p.left = (skipped, cs) → Lexes p.ctx.inList cs kind taken rest →
        Takes p (p.tokenOf skipped taken kind) (p.behind skipped taken rest kind)

/-- Behind a gap the text is refused. -/
inductive Place.Fails (p : Place) : SyntaxError → Prop where
  | refused {skipped cs : List Char} {fault : SyntaxFault} {expected : Expectation} :
      gap false p.left = (skipped, cs) → Refuses p.ctx.inList cs fault expected →
        Fails p ⟨fault, p.offset + Text.byteLength skipped, expected⟩

/-- Turn follows turn. -/
inductive Reads : Place → List Token → Place → Prop where
  | nil {p : Place} : Reads p [] p
  | cons {p q r : Place} {t : Token} {ts : List Token} :
      Takes p t q → Reads q ts r → Reads p (t :: ts) r

/-! ## Gaps -/

section Gaps

variable {c : Char} (cs : List Char)

theorem gap_blank (h : Text.isBlank c = true) :
    gap false (c :: cs) = (c :: (gap false cs).1, (gap false cs).2) := by
  rw [gap, if_neg Bool.false_ne_true, if_pos h]

theorem gap_remark : gap false ('#' :: cs) = ('#' :: (gap true cs).1, (gap true cs).2) := by
  rw [gap, if_neg Bool.false_ne_true, if_neg (by decide), if_pos (by decide)]

theorem gap_stop (hblank : Text.isBlank c = false) (hremark : c ≠ '#') :
    gap false (c :: cs) = ([], c :: cs) := by
  rw [gap, if_neg Bool.false_ne_true, if_neg (by simp [hblank]), if_neg (by simpa using hremark)]

theorem gap_comment (h : c ≠ '\n') : gap true (c :: cs) = (c :: (gap true cs).1, (gap true cs).2) := by
  have hne : (c != '\n') = true := by simpa using h
  rw [gap, if_pos rfl, hne]

theorem gap_lineEnd : gap true ('\n' :: cs) = ('\n' :: (gap false cs).1, (gap false cs).2) := by
  rw [gap, if_pos rfl]
  rfl

end Gaps

theorem append_of_gap {comment : Bool} {cs skipped rest : List Char}
    (h : gap comment cs = (skipped, rest)) : skipped ++ rest = cs := by
  have happend := gap_append comment cs
  rwa [h] at happend

/-- A gap goes on until something comes that is neither blank nor a comment. -/
theorem head_of_gap {comment : Bool} {cs skipped rest : List Char} {c : Char}
    (h : gap comment cs = (skipped, c :: rest)) : Text.isBlank c = false ∧ c ≠ '#' := by
  induction cs generalizing comment skipped with
  | nil => cases h
  | cons d cs ih =>
      cases comment with
      | true =>
          by_cases hline : d = '\n'
          · subst hline
            rw [gap_lineEnd] at h
            exact ih (Prod.ext rfl (Prod.mk.inj h).2)
          · rw [gap_comment cs hline] at h
            exact ih (Prod.ext rfl (Prod.mk.inj h).2)
      | false =>
          by_cases hblank : Text.isBlank d = true
          · rw [gap_blank cs hblank] at h
            exact ih (Prod.ext rfl (Prod.mk.inj h).2)
          by_cases hremark : d = '#'
          · subst hremark
            rw [gap_remark] at h
            exact ih (Prod.ext rfl (Prod.mk.inj h).2)
          · have hblank : Text.isBlank d = false := by simpa using hblank
            rw [gap_stop cs hblank hremark] at h
            cases h
            exact ⟨hblank, hremark⟩

/-! ## The outcomes of the lexer -/

namespace Place

theorem tokens_of_ends {p : Place} {stop : Nat} (h : p.Ends stop) :
    p.tokens = .ok [⟨.finish, "", ⟨stop, stop⟩⟩] := by
  obtain ⟨skipped, hgap, rfl⟩ := h
  unfold tokens
  rw [tokensFrom]
  split
  · next heq =>
    obtain ⟨rfl, -⟩ := Prod.mk.inj (hgap.symm.trans heq)
    rfl
  · next heq => cases hgap.symm.trans heq

theorem tokens_of_takes {p q : Place} {t : Token} (h : Takes p t q) :
    p.tokens = q.tokens.map (t :: ·) := by
  obtain @⟨skipped, cs, taken, rest, kind, hgap, hlexes⟩ := h
  unfold tokens
  rw [tokensFrom]
  split
  · next heq =>
    obtain ⟨-, rfl⟩ := Prod.mk.inj (hgap.symm.trans heq)
    cases hlexes
  · next c cs' heq =>
    obtain ⟨rfl, rfl⟩ := Prod.mk.inj (hgap.symm.trans heq)
    obtain ⟨l, hl, rfl, rfl, rfl⟩ := (lexeme_eq_ok_iff (head_of_gap hgap).1).2 hlexes
    rw [hl]
    rfl

theorem tokens_of_fails {p : Place} {e : SyntaxError} (h : p.Fails e) : p.tokens = .error e := by
  obtain @⟨skipped, cs, fault, expected, hgap, hrefuses⟩ := h
  unfold tokens
  rw [tokensFrom]
  split
  · next heq =>
    obtain ⟨-, rfl⟩ := Prod.mk.inj (hgap.symm.trans heq)
    cases hrefuses
  · next c cs' heq =>
    obtain ⟨rfl, rfl⟩ := Prod.mk.inj (hgap.symm.trans heq)
    rw [(lexeme_eq_error_iff (head_of_gap hgap).1).2 hrefuses]

theorem tokens_of_reads {p q : Place} {ts : List Token} (h : Reads p ts q) :
    p.tokens = q.tokens.map (ts ++ ·) := by
  induction h with
  | @nil p => cases h : p.tokens <;> rfl
  | @cons p q r t ts ht _ ih =>
      rw [tokens_of_takes ht, ih]
      cases h : r.tokens <;> rfl

/-- From every place there is a turn, or else the reading is at its end. -/
theorem takes_or_stops (p : Place) :
    (∃ t q, Takes p t q) ∨ (∃ stop, p.Ends stop) ∨ ∃ e, p.Fails e := by
  rcases hgap : gap false p.left with ⟨skipped, _ | ⟨c, cs⟩⟩
  · exact .inr (.inl ⟨_, skipped, hgap, rfl⟩)
  · have hblank := (head_of_gap hgap).1
    rcases hl : lexeme p.ctx.inList c cs with ⟨fault, expected⟩ | l
    · exact .inr (.inr ⟨_, .refused hgap ((lexeme_eq_error_iff hblank).1 hl)⟩)
    · exact .inl ⟨_, _, .lexeme hgap ((lexeme_sound hblank).1 l hl)⟩

end Place

/-- A turn goes ahead in the text, by at least one byte and one character. -/
theorem Takes.advances {p q : Place} {t : Token} (h : Takes p t q) :
    p.offset < q.offset ∧ q.left.length < p.left.length := by
  obtain @⟨skipped, cs, taken, rest, kind, hgap, hlexes⟩ := h
  have hsplit := append_of_gap hgap
  have hbytes := Text.byteLength_pos hlexes.ne_nil
  have hchars := List.length_pos_iff.2 hlexes.ne_nil
  have hlength := congrArg List.length hsplit
  rw [← hlexes.append, List.length_append, List.length_append] at hlength
  refine ⟨?_, ?_⟩
  · simp only [Place.behind, Place.spanOf]
    omega
  · simp only [Place.behind]
    omega

namespace Place

theorem exists_reads (p : Place) :
    ∃ ts q, Reads p ts q ∧ ((∃ stop, q.Ends stop) ∨ ∃ e, q.Fails e) := by
  induction hn : p.left.length using Nat.strongRecOn generalizing p with
  | ind n ih =>
      rcases p.takes_or_stops with ⟨t, q, ht⟩ | hstops
      · obtain ⟨ts, r, hreads, hstops⟩ := ih _ (hn ▸ ht.advances.2) q rfl
        exact ⟨t :: ts, r, .cons ht hreads, hstops⟩
      · exact ⟨[], p, .nil, hstops⟩

/-- The lexer comes to tokens if turns lead to the end of the text. -/
theorem tokens_eq_ok_iff {p : Place} {ts : List Token} :
    p.tokens = .ok ts ↔
      ∃ us q stop, Reads p us q ∧ q.Ends stop ∧ ts = us ++ [⟨.finish, "", ⟨stop, stop⟩⟩] := by
  constructor
  · intro h
    obtain ⟨us, q, hreads, ⟨stop, hends⟩ | ⟨e, hfails⟩⟩ := p.exists_reads
    · rw [tokens_of_reads hreads, tokens_of_ends hends] at h
      cases h
      exact ⟨us, q, stop, hreads, hends, rfl⟩
    · rw [tokens_of_reads hreads, tokens_of_fails hfails] at h
      cases h
  · rintro ⟨us, q, stop, hreads, hends, rfl⟩
    rw [tokens_of_reads hreads, tokens_of_ends hends]
    rfl

/-- The lexer fails if turns lead to a place where the text is refused. -/
theorem tokens_eq_error_iff {p : Place} {e : SyntaxError} :
    p.tokens = .error e ↔ ∃ us q, Reads p us q ∧ q.Fails e := by
  constructor
  · intro h
    obtain ⟨us, q, hreads, ⟨stop, hends⟩ | ⟨e', hfails⟩⟩ := p.exists_reads
    · rw [tokens_of_reads hreads, tokens_of_ends hends] at h
      cases h
    · rw [tokens_of_reads hreads, tokens_of_fails hfails] at h
      cases h
      exact ⟨us, q, hreads, hfails⟩
  · rintro ⟨us, q, hreads, hfails⟩
    rw [tokens_of_reads hreads, tokens_of_fails hfails]
    rfl

end Place

/-- Turns read the first of the tokens that the lexer comes to. -/
theorem Reads.append {p q r : Place} {ts us : List Token} (h : Reads p ts q) (h' : Reads q us r) :
    Reads p (ts ++ us) r := by
  induction h with
  | nil => exact h'
  | cons ht _ ih => exact .cons ht (ih h')

/-- Turns that leave nothing of a text are all its tokens. -/
theorem tokenize_of_reads {source : String} {ts : List Token} {q : Place}
    (h : Reads (.start source.toList) ts q) (hq : q.left = []) :
    ∃ e, tokenize source = .ok (ts ++ [e]) ∧ e.kind = .finish := by
  have hends : q.Ends q.offset := ⟨[], by rw [hq]; rfl, rfl⟩
  have htokens : (Place.start source.toList).tokens = .ok (ts ++ [_]) :=
    Place.tokens_eq_ok_iff.2 ⟨ts, q, _, h, hends, rfl⟩
  exact ⟨_, htokens, rfl⟩

theorem Reads.isPrefix {p q : Place} {ts us : List Token} (h : Reads p ts q)
    (htokens : p.tokens = .ok us) : ts <+: us := by
  rw [Place.tokens_of_reads h] at htokens
  obtain ⟨vs, -, rfl⟩ := map_eq_ok htokens
  exact List.prefix_append ts vs

end Sluice.Token
