import Mathlib.Data.List.Chain
import Sluice.Proofs.Token.Reading
import Sluice.Token.Unfinished

/-!
# The pass over characters and the token list

Two readers find out whether a text is unfinished: the pass over its characters (`needsMore`), and
the lexer, which finds a string without an end or leaves parentheses open. The pass goes along with
the turns of the lexer (`Agrees.turn`): between two tokens both hold the same parentheses open, and
the pass takes a `#` for a comment exactly where the lexer does.

They part where a parenthesis stands right behind a number, a flag or a lone point. The lexer opens
a group there, since no command is called; the pass, which sees only that no token could start,
takes it for an argument list, in which a comma separates, so that a `#` behind a comma is a comment
for the pass alone. Everywhere else they come to the same answer (`needsMore_iff`).
-/

namespace Sluice

namespace Token

/-! ## States of the pass -/

namespace Scan

/-- Outside strings and comments. -/
def plain (fresh : Bool) (parens : List Paren) : Scan :=
  ⟨none, false, false, fresh, parens⟩

def inComment (parens : List Paren) : Scan :=
  ⟨none, false, true, false, parens⟩

def inString (quote : Char) (parens : List Paren) : Scan :=
  ⟨some quote, false, false, false, parens⟩

theorem run_nil (s : Scan) : s.run [] = s := by
  rw [run]
  split
  · next h =>
    split at h <;> cases h
  · rfl

theorem run_template {s : Scan} {cs template after : List Char} (hs : s.isPlain = true)
    (h : Template.lead? cs = some (template, after)) :
    s.run cs = { s with fresh := false }.run after := by
  rw [run]
  split
  · next heq =>
    rw [if_pos hs, h] at heq
    obtain ⟨-, rfl⟩ := Prod.mk.inj (Option.some.inj heq)
    rfl
  · next heq =>
    rw [if_pos hs, h] at heq
    cases heq

theorem run_cons {s : Scan} {c : Char} {cs : List Char}
    (h : s.isPlain = true → Template.lead? (c :: cs) = none) :
    s.run (c :: cs) = (s.step c).run cs := by
  rw [run]
  split
  · next heq =>
    split at heq
    · next hs => simp [h hs] at heq
    · cases heq
  · rfl

/-- In strings and comments there are no templates. -/
theorem run_cons_of_not_isPlain {s : Scan} (h : s.isPlain = false) (c : Char) (cs : List Char) :
    s.run (c :: cs) = (s.step c).run cs :=
  run_cons fun hs => absurd (h.symm.trans hs) Bool.false_ne_true

/-! ## Single characters -/

section Steps

variable {fresh : Bool} {parens : List Paren}

/-- The innermost open parenthesis began an argument list. -/
abbrev insideList (parens : List Paren) : Bool :=
  parens.head? == some .list

theorem step_other {c : Char} (hquote : ¬ (c = '"' ∨ c = '\'')) (hopen : c ≠ '(') (hclose : c ≠ ')')
    (hremark : c = '#' → fresh = false) :
    (plain fresh parens).step c = plain (stopsWord (insideList parens) c) parens := by
  have hremark' : ¬ (c = '#' ∧ fresh = true) := by
    rintro ⟨hc, hfresh⟩
    exact Bool.false_ne_true ((hremark hc).symm.trans hfresh)
  unfold step plain
  dsimp only
  rw [if_neg Bool.false_ne_true, if_neg hquote, if_neg hremark', stopsWord, Bool.and_comm]
  split
  · next hc => exact absurd rfl hopen
  · next hc => exact absurd rfl hclose
  · rfl

theorem step_blank {c : Char} (h : Text.isBlank c = true) :
    (plain fresh parens).step c = plain true parens := by
  have hne : ∀ d, Text.isBlank d = false → c ≠ d := by
    rintro d hd rfl
    exact Bool.false_ne_true (hd.symm.trans h)
  have hquote : ¬ (c = '"' ∨ c = '\'') := by
    rintro (hc | hc)
    · exact hne _ rfl hc
    · exact hne _ rfl hc
  have hstop : stopsWord (insideList parens) c = true := by simp [stopsWord, isDelimiter, h]
  rw [step_other hquote (hne _ rfl) (hne _ rfl) fun hc => absurd hc (hne _ rfl), hstop]

theorem step_remark : (plain true parens).step '#' = inComment parens := rfl

theorem step_quote {quote : Char} (h : quote = '"' ∨ quote = '\'') :
    (plain fresh parens).step quote = inString quote parens := by
  rcases h with rfl | rfl <;> rfl

theorem step_openParen :
    (plain fresh parens).step '(' = plain true ((if fresh then .group else .list) :: parens) := by
  cases fresh <;> rfl

theorem step_closeParen : (plain fresh parens).step ')' = plain true parens.tail := by
  cases fresh <;> rfl

theorem step_comment {c : Char} (h : c ≠ '\n') : (inComment parens).step c = inComment parens := by
  unfold step inComment
  rw [if_pos rfl, if_neg h]

theorem step_lineEnd : (inComment parens).step '\n' = plain true parens := rfl

theorem step_sign {c : Char} (h : c = '|' ∨ c = '=') :
    (plain fresh parens).step c = plain true parens := by
  rcases h with rfl | rfl
  · exact step_other (c := '|') (by decide) (by decide) (by decide) fun h => absurd h (by decide)
  · exact step_other (c := '=') (by decide) (by decide) (by decide) fun h => absurd h (by decide)

theorem step_comma (h : insideList parens = true) :
    (plain fresh parens).step ',' = plain true parens := by
  rw [step_other (by decide) (by decide) (by decide) fun h => absurd h (by decide), h]
  rfl

theorem step_dot : (plain fresh parens).step '.' = plain false parens := by
  rw [step_other (by decide) (by decide) (by decide) fun h => absurd h (by decide)]
  cases insideList parens <;> rfl

end Steps

end Scan

/-! ## Gaps -/

section Gaps

open Scan

/-- No comment begins at the front, unless a token could start there. -/
def NoRemark (fresh : Bool) (cs : List Char) : Prop :=
  fresh = false → ∀ c ∈ cs.head?, c ≠ '#'

/-- The pass goes on behind a gap; at the end of the text it may be inside a comment. -/
def Crosses (s : Scan) (cs after : List Char) (fresh : Bool) (parens : List Paren) : Prop :=
  ∃ s', s.run cs = s'.run after ∧ s'.quote = none ∧ s'.parens = parens ∧
    (after ≠ [] → s' = plain fresh parens)

theorem crosses_gap (parens : List Paren) (cs : List Char) :
    (∀ fresh, NoRemark fresh cs →
      Crosses (plain fresh parens) cs (gap false cs).2 (fresh || !(gap false cs).1.isEmpty) parens) ∧
    Crosses (inComment parens) cs (gap true cs).2 true parens := by
  induction cs with
  | nil => exact ⟨fun fresh _ => ⟨_, rfl, rfl, rfl, nofun⟩, ⟨_, rfl, rfl, rfl, nofun⟩⟩
  | cons c cs ih =>
      obtain ⟨hplain, hcomment⟩ := ih
      have hfresh := hplain true nofun
      constructor
      · intro fresh hremark
        by_cases hblank : Text.isBlank c = true
        · have hlead : Template.lead? (c :: cs) = none :=
            @lead?_of_stopsWord false c (by simp [stopsWord, isDelimiter, hblank]) cs
          rw [gap_blank cs hblank, Crosses, run_cons fun _ => hlead, step_blank hblank]
          simpa [Crosses] using hfresh
        by_cases hc : c = '#'
        · subst hc
          cases fresh with
          | false => exact absurd rfl (hremark rfl '#' rfl)
          | true =>
              rw [gap_remark, Crosses, run_cons fun _ => rfl, step_remark]
              exact hcomment
        · rw [gap_stop cs (by simpa using hblank) hc]
          exact ⟨_, rfl, rfl, rfl, fun _ => by simp⟩
      · by_cases hline : c = '\n'
        · subst hline
          rw [gap_lineEnd, Crosses, run_cons_of_not_isPlain rfl, step_lineEnd]
          exact hfresh
        · rw [gap_comment cs hline, Crosses, run_cons_of_not_isPlain rfl, step_comment hline]
          exact hcomment

end Gaps

/-! ## Lexemes -/

namespace Kind

/-- The bare tokens that name no command, so that no argument list follows them. -/
def isNameless : Kind → Bool
  | number _ | flag _ | dot => true
  | _ => false

/-- The tokens behind which no token could start. -/
def isBare (kind : Kind) : Bool :=
  kind.isWord || kind.isNameless

end Kind

theorem isBare_of_classify {word : List Char} {kind : Kind} (h : classify word = .ok kind) :
    kind.isBare = true := by
  unfold classify at h
  split at h
  · split at h
    · cases h
      rfl
    · cases h
  · split at h
    · cases h
      rfl
    · cases h
      rfl

section Lexemes

open Scan

variable {fresh : Bool} {parens : List Paren}

theorem step_inWord {c : Char} (h : stopsWord (insideList parens) c = false)
    (hremark : c = '#' → fresh = false) : (plain fresh parens).step c = plain false parens := by
  have hne : ∀ d, isDelimiter d = true → c ≠ d := by
    rintro d hd rfl
    simp [stopsWord, hd] at h
  have hquote : ¬ (c = '"' ∨ c = '\'') := by
    rintro (hc | hc)
    · exact hne _ rfl hc
    · exact hne _ rfl hc
  rw [step_other hquote (hne _ rfl) (hne _ rfl) hremark, h]

/-- Inside a word the pass goes over what is left of the word. -/
theorem run_wordPieces (cs : List Char) :
    (plain false parens).run cs =
      (plain false parens).run (wordPieces (insideList parens) cs).2 := by
  fun_induction wordPieces (insideList parens) cs with
  | case1 cs template after h _ pieces rest he ih =>
      rw [he] at ih
      rw [run_template rfl h]
      exact ih
  | case2 => rfl
  | case3 => rfl
  | case4 c cs hlead hstop pieces rest he ih =>
      rw [he] at ih
      rw [run_cons fun _ => hlead, step_inWord (by simpa [stopsWord] using hstop) fun _ => rfl]
      exact ih

theorem run_word {c : Char} {cs : List Char} (h : stopsWord (insideList parens) c = false)
    (hremark : c ≠ '#') :
    (plain fresh parens).run (c :: cs) =
      (plain false parens).run (wordPieces (insideList parens) (c :: cs)).2 := by
  cases hlead : Template.lead? (c :: cs) with
  | some cut =>
      obtain ⟨template, after⟩ := cut
      rw [run_template rfl hlead, wordPieces_template _ hlead]
      exact run_wordPieces after
  | none =>
      rw [run_cons fun _ => hlead, step_inWord h fun hc => absurd hc hremark,
        wordPieces_char hlead h]
      exact run_wordPieces cs

theorem step_inString {quote c : Char} (hquote : c ≠ quote) (hbackslash : c ≠ '\\') :
    (inString quote parens).step c = inString quote parens := by
  unfold step inString
  dsimp only
  rw [if_neg Bool.false_ne_true, if_neg Bool.false_ne_true, if_neg hbackslash, if_neg hquote]

theorem step_closing {quote : Char} (h : quote = '"' ∨ quote = '\'') :
    (inString quote parens).step quote = plain true parens := by
  rcases h with rfl | rfl <;> rfl

/-- The pass goes over an escape in a string. -/
theorem run_escape {quote : Char} (e : Char) (cs : List Char) :
    (inString quote parens).run ('\\' :: e :: cs) = (inString quote parens).run cs := by
  rw [run_cons_of_not_isPlain rfl, run_cons_of_not_isPlain rfl]
  rfl

theorem run_quotedTail? {quote : Char} (hquote : quote = '"' ∨ quote = '\'') (cs : List Char) :
    (∀ t, quotedTail? quote cs = some t →
      (inString quote parens).run cs = (plain true parens).run t.rest) ∧
    (quotedTail? quote cs = none → ((inString quote parens).run cs).quote = some quote) := by
  fun_induction quotedTail? quote cs with
  | case1 =>
      refine ⟨fun t ht => ?_, fun _ => ?_⟩
      · cases ht
      · rw [run_nil]
        rfl
  | case2 cs =>
      refine ⟨fun t ht => ?_, fun h => ?_⟩
      · cases ht
        rw [run_cons_of_not_isPlain rfl, step_closing hquote]
      · cases h
  | case3 =>
      refine ⟨fun t ht => ?_, fun _ => ?_⟩
      · cases ht
      · rw [run_cons_of_not_isPlain rfl, run_nil]
        rcases hquote with rfl | rfl <;> rfl
  | case4 e cs _ ih =>
      rw [run_escape]
      refine ⟨fun t ht => ?_, fun h => ih.2 (Option.map_eq_none_iff.1 h)⟩
      obtain ⟨u, hu, rfl⟩ := Option.map_eq_some_iff.1 ht
      exact ih.1 u hu
  | case5 c cs hc hbackslash ih =>
      rw [run_cons_of_not_isPlain rfl, step_inString hc hbackslash]
      refine ⟨fun t ht => ?_, fun h => ih.2 (Option.map_eq_none_iff.1 h)⟩
      obtain ⟨u, hu, rfl⟩ := Option.map_eq_some_iff.1 ht
      exact ih.1 u hu

theorem run_string {quote : Char} (h : quote = '"' ∨ quote = '\'') (cs : List Char) :
    (plain fresh parens).run (quote :: cs) = (inString quote parens).run cs := by
  have hlead : Template.lead? (quote :: cs) = none :=
    @lead?_of_stopsWord false quote (by rcases h with rfl | rfl <;> rfl) cs
  rw [run_cons fun _ => hlead, step_quote h]

/-- The parentheses that the pass holds open behind a token. -/
def scanParens (fresh : Bool) (parens : List Paren) : Kind → List Paren
  | .openParen => (if fresh then .group else .list) :: parens
  | .closeParen => parens.tail
  | _ => parens

/-- The pass goes over a lexeme. -/
theorem run_lexes {cs taken rest : List Char} {kind : Kind}
    (h : Lexes (insideList parens) cs kind taken rest) (hremark : ∀ c ∈ cs.head?, c ≠ '#') :
    (plain fresh parens).run cs = (plain (!kind.isBare) (scanParens fresh parens kind)).run rest := by
  cases h with
  | pipe =>
      rw [run_cons fun _ => rfl, step_sign (.inl rfl)]
      rfl
  | equals =>
      rw [run_cons fun _ => rfl, step_sign (.inr rfl)]
      rfl
  | openParen =>
      rw [run_cons fun _ => rfl, step_openParen]
      rfl
  | closeParen =>
      rw [run_cons fun _ => rfl, step_closeParen]
      rfl
  | comma hlist =>
      rw [run_cons fun _ => rfl, step_comma hlist]
      rfl
  | quoted hquote ht =>
      rw [run_string hquote, (run_quotedTail? hquote _).1 _ ht]
      rfl
  | dot =>
      rw [run_cons fun _ => rfl, step_dot]
      rfl
  | word hstop _ hkind =>
      have hbare := isBare_of_classify hkind
      have hparens : scanParens fresh parens kind = parens := by
        cases kind <;> first | rfl | cases hbare
      rw [run_word hstop (hremark _ rfl), hparens, hbare]
      rfl

/-- Behind a bare token no comment begins. -/
theorem noRemark_of_lexes {inList : Bool} {cs taken rest : List Char} {kind : Kind}
    (h : Lexes inList cs kind taken rest) : NoRemark (!kind.isBare) rest := by
  intro hbare c hc
  rintro rfl
  cases h with
  | dot hpoint =>
      have hnext := hpoint.2
      rw [hc] at hnext
      cases hnext
  | word =>
      have hstop := stopsWord_of_mem_head? inList _ _ hc
      cases inList <;> cases hstop
  | _ => cases hbare

end Lexemes

/-! ## Turns -/

/-- The pass and the lexer agree at a place between tokens. With `fresh` a token could start here
for the pass; with `nameless` a bare token that names no command ends here. -/
structure Agrees (fresh nameless : Bool) (p : Place) : Prop where
  wordEnd : ∀ b ∈ p.ctx.wordEnd, b = p.offset
  bare : fresh = false ↔ p.ctx.wordEnd.isSome = true ∨ nameless = true
  noRemark : NoRemark fresh p.left

theorem Agrees.start (cs : List Char) : Agrees true false (.start cs) :=
  ⟨by simp [Place.start], by simp [Place.start], by simp [NoRemark]⟩

/-- No parenthesis stands right behind a bare token that names no command. -/
def Unjoined (ts : List Token) : Prop :=
  ts.IsChain fun t u =>
    u.kind = .openParen → u.span.start = t.span.stop → t.kind.isNameless = false

/-- The same for the first token behind a place. -/
def Unjoins (nameless : Bool) (offset : Nat) (t : Token) : Prop :=
  t.kind = .openParen → t.span.start = offset → nameless = false

/-- The lexer and the pass take a parenthesis for the same, unless it stands right behind a bare
token that names no command. -/
theorem Agrees.paren {fresh nameless : Bool} {p : Place} (h : Agrees fresh nameless p)
    (skipped : List Char)
    (hunjoined : p.offset + Text.byteLength skipped = p.offset → nameless = false) :
    (if fresh || !skipped.isEmpty then Paren.group else .list) =
      if p.ctx.wordEnd = some (p.offset + Text.byteLength skipped) then .list else .group := by
  cases skipped with
  | nil =>
      have hnameless := hunjoined rfl
      have hbare := h.bare
      cases hword : p.ctx.wordEnd with
      | none => simp_all
      | some b =>
          obtain rfl := h.wordEnd b hword
          simp_all
  | cons c cs =>
      have hpos := Text.byteLength_pos (List.cons_ne_nil c cs)
      have hne : p.ctx.wordEnd ≠ some (p.offset + Text.byteLength (c :: cs)) := by
        intro hword
        have hb := h.wordEnd _ hword
        omega
      rw [if_neg hne]
      simp

/-- The pass goes along with a turn of the lexer. -/
theorem Agrees.turn {fresh nameless : Bool} {p q : Place} {t : Token} (h : Agrees fresh nameless p)
    (ht : Takes p t q) (hunjoined : Unjoins nameless p.offset t) :
    (Scan.plain fresh p.ctx.parens).run p.left =
        (Scan.plain (!t.kind.isBare) q.ctx.parens).run q.left ∧
      Agrees (!t.kind.isBare) t.kind.isNameless q := by
  obtain @⟨skipped, cs, taken, rest, kind, hgap, hlexes⟩ := ht
  have hcross := (crosses_gap p.ctx.parens p.left).1 fresh h.noRemark
  rw [hgap] at hcross
  obtain ⟨s, hrun, -, -, hs⟩ := hcross
  have hcs : cs ≠ [] := by
    rintro rfl
    cases hlexes
  have hremark : ∀ c ∈ cs.head?, c ≠ '#' := by
    obtain ⟨c, cs, rfl⟩ := List.exists_cons_of_ne_nil hcs
    rintro d ⟨⟩
    exact (head_of_gap hgap).2
  refine ⟨?_, ?_⟩
  · rw [hrun, hs hcs, run_lexes hlexes hremark]
    have hparens : scanParens (fresh || !skipped.isEmpty) p.ctx.parens kind =
        (p.ctx.after kind (p.spanOf skipped taken)).parens := by
      cases kind with
      | openParen =>
          have hparen := h.paren skipped (hunjoined rfl)
          exact congrArg (· :: p.ctx.parens) hparen
      | _ => rfl
    rw [hparens]
    rfl
  · refine ⟨?_, ?_, noRemark_of_lexes hlexes⟩
    · intro b hb
      cases kind <;> cases hb
      rfl
    · cases kind <;> simp [Place.tokenOf, Place.behind, Context.after, Kind.isBare, Kind.isWord,
        Kind.isNameless]

/-- The pass goes along with all turns. -/
theorem Agrees.run {fresh nameless : Bool} {p q : Place} {ts : List Token}
    (h : Agrees fresh nameless p) (hreads : Reads p ts q) (hunjoined : Unjoined ts)
    (hfirst : ∀ t ∈ ts.head?, Unjoins nameless p.offset t) :
    ∃ fresh' nameless', (Scan.plain fresh p.ctx.parens).run p.left =
        (Scan.plain fresh' q.ctx.parens).run q.left ∧ Agrees fresh' nameless' q := by
  induction hreads generalizing fresh nameless with
  | nil => exact ⟨fresh, nameless, rfl, h⟩
  | @cons p q r t ts ht _ ih =>
      obtain ⟨hrun, hq⟩ := h.turn ht (hfirst t rfl)
      rw [hrun]
      have hoffset : q.offset = t.span.stop := by
        cases ht
        rfl
      rw [Unjoined, List.isChain_cons] at hunjoined
      refine ih hq hunjoined.2 fun u hu hkind hjoins => ?_
      exact hunjoined.1 u hu hkind (hjoins.trans hoffset)

/-! ## Open parentheses -/

/-- How many parentheses are open behind tokens when `n` were open in front of them. One that closes
nothing counts for nothing. -/
def openCount (n : Nat) : List Token → Nat
  | [] => n
  | t :: ts =>
    openCount (match t.kind with
      | .openParen => n + 1
      | .closeParen => n - 1
      | _ => n) ts

theorem openCount_append (n : Nat) (ts us : List Token) :
    openCount n (ts ++ us) = openCount (openCount n ts) us := by
  induction ts generalizing n with
  | nil => rfl
  | cons t ts ih => exact ih _

theorem Reads.length_parens {p q : Place} {ts : List Token} (h : Reads p ts q) :
    q.ctx.parens.length = openCount p.ctx.parens.length ts := by
  induction h with
  | nil => rfl
  | @cons p q r t ts ht _ ih =>
      rw [ih, openCount]
      congr 1
      obtain @⟨skipped, cs, taken, rest, kind, -, -⟩ := ht
      cases kind <;> simp [Place.behind, Place.tokenOf, Context.after]

/-! ## The answer of the pass -/

theorem isOpen_of_ends {cs : List Char} {ts : List Token} {q : Place} {stop : Nat}
    (hreads : Reads (.start cs) ts q) (hends : q.Ends stop) (hunjoined : Unjoined ts) :
    (Scan.start.run cs).isOpen = true ↔ 0 < openCount 0 ts := by
  obtain ⟨fresh, nameless, hrun, hq⟩ :=
    (Agrees.start cs).run hreads hunjoined fun _ _ _ _ => rfl
  change Scan.start.run cs = _ at hrun
  obtain ⟨skipped, hgap, -⟩ := hends
  have hcross := (crosses_gap q.ctx.parens q.left).1 fresh hq.noRemark
  rw [hgap] at hcross
  obtain ⟨s, hcross, hquote, hparens, -⟩ := hcross
  have hcount := hreads.length_parens
  change _ = openCount 0 ts at hcount
  rw [hrun, hcross, Scan.run_nil, Scan.isOpen, hquote, hparens, ← hcount, List.length_pos_iff]
  simp

theorem isOpen_of_unterminated {cs : List Char} {ts : List Token} {q : Place} {e : SyntaxError}
    (hreads : Reads (.start cs) ts q) (hfails : q.Fails e) (hfault : e.fault = .unterminatedString)
    (hunjoined : Unjoined ts) : (Scan.start.run cs).isOpen = true := by
  obtain ⟨fresh, nameless, hrun, hq⟩ :=
    (Agrees.start cs).run hreads hunjoined fun _ _ _ _ => rfl
  change Scan.start.run cs = _ at hrun
  obtain @⟨skipped, left, fault, expected, hgap, hrefuses⟩ := hfails
  have hcross := (crosses_gap q.ctx.parens q.left).1 fresh hq.noRemark
  rw [hgap] at hcross
  obtain ⟨s, hcross, -, -, hs⟩ := hcross
  cases hrefuses with
  | quoted hquote hnone =>
      rw [hrun, hcross, hs (List.cons_ne_nil _ _), run_string hquote, Scan.isOpen,
        (run_quotedTail? hquote _).2 hnone]
      rfl
  | flag _ _ hflag =>
      obtain rfl : fault = .unterminatedString := hfault
      obtain ⟨_, -, -, hne⟩ := classify_eq_error hflag
      cases hne

end Token

open Token

/-- The pass over the characters finds a text unfinished where the lexer finds a string without an
end or a parenthesis open at the end. -/
theorem needsMore_iff {source : String}
    (hnamed : ∀ e text, tokenize source = .error e → e.fault ≠ .invalidFlag text)
    (hunjoined : ∀ ts p, Reads (.start source.toList) ts p → Unjoined ts) :
    needsMore source = true ↔
      (∃ e, tokenize source = .error e ∧ e.fault = .unterminatedString) ∨
        ∃ ts, tokenize source = .ok ts ∧ 0 < openCount 0 ts := by
  have htokenize : tokenize source = (Place.start source.toList).tokens := rfl
  obtain ⟨us, q, hreads, ⟨stop, hends⟩ | ⟨e, hfails⟩⟩ := (Place.start source.toList).exists_reads
  · have hok := Place.tokens_eq_ok_iff.2 ⟨us, q, stop, hreads, hends, rfl⟩
    have hopen := isOpen_of_ends hreads hends (hunjoined us q hreads)
    rw [htokenize, hok]
    simp only [reduceCtorEq, false_and, exists_false, false_or, Except.ok.injEq, exists_eq_left',
      openCount_append]
    exact hopen
  · have herror := Place.tokens_eq_error_iff.2 ⟨us, q, hreads, hfails⟩
    have hfault : e.fault = .unterminatedString := by
      have hnamed := fun text => hnamed e text herror
      obtain @⟨skipped, cs, fault, expected, hgap, hrefuses⟩ := hfails
      cases hrefuses with
      | quoted => rfl
      | flag _ _ hflag =>
          obtain ⟨name, -, -, rfl⟩ := classify_eq_error hflag
          exact absurd rfl (hnamed _)
    have hopen := isOpen_of_unterminated hreads hfails hfault (hunjoined us q hreads)
    exact ⟨fun _ => .inl ⟨e, herror, hfault⟩, fun _ => hopen⟩

/-- The tokens of an argument list with a comment behind its comma, and of a group on the next
line. -/
def remarkInList : List Token :=
  [⟨.word "f", "f", ⟨0, 1⟩⟩, ⟨.openParen, "(", ⟨1, 2⟩⟩, ⟨.number (.ofNat 5), "5", ⟨2, 3⟩⟩,
    ⟨.comma, ",", ⟨3, 4⟩⟩, ⟨.openParen, "(", ⟨7, 8⟩⟩, ⟨.finish, "", ⟨8, 8⟩⟩]

theorem needsMore_iff_remarkInList :
    (∀ e text, tokenize "f(5,#)\n(" = .error e → e.fault ≠ .invalidFlag text) ∧
    (∀ ts p, Reads (.start "f(5,#)\n(".toList) ts p → Unjoined ts) ∧
    needsMore "f(5,#)\n(" = true ∧ tokenize "f(5,#)\n(" = .ok remarkInList ∧
      0 < openCount 0 remarkInList := by
  have htokens : tokenize "f(5,#)\n(" = .ok remarkInList :=
    eq_ok_of_toOption (by decide +kernel)
  have hnamed : ∀ e text, tokenize "f(5,#)\n(" = .error e → e.fault ≠ .invalidFlag text := by
    intro e text h
    cases htokens.symm.trans h
  have hunjoined : ∀ ts p, Reads (.start "f(5,#)\n(".toList) ts p → Unjoined ts := by
    intro ts p hreads
    have hall : Unjoined remarkInList := by
      unfold Unjoined
      decide
    exact hall.prefix (hreads.isPrefix htokens)
  have hopen : 0 < openCount 0 remarkInList := by decide
  exact ⟨hnamed, hunjoined, (needsMore_iff hnamed hunjoined).2 (.inr ⟨_, htokens, hopen⟩), htokens,
    hopen⟩

/-- Behind a number the pass takes the `#` for a comment, and the lexer does not. -/
example : needsMore "5(a,#)" = true ∧
    (tokenize "5(a,#)").toOption.map (openCount 0) = some 0 := by decide +kernel

end Sluice
