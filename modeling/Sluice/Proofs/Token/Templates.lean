import Sluice.Proofs.Text.Pieces
import Sluice.Proofs.Token.Reading
import Sluice.Template

/-!
# Two readers of templates

The lexer looks for a template at every character of a word and no further than to the end of the
line; the resolver looks for them in the finished word, from one to the next. They find the same
ones (`spans_wordPieces`):

* where the lexer keeps a template together, the resolver's first closing is the lexer's;
* where the lexer finds an opening that its line does not close, the rest of the word holds no
  closing, so that the resolver takes it all for literal text.

Whatever would end a word stands inside a template (`mem_spans_of_stopsWord`).
-/

namespace Sluice

namespace Template

/-- What the lexer takes up to a closing ends with the first closing there is, on the same line. -/
theorem cut?_of_takeClosed? {s body after : List Char} (h : takeClosed? s = some (body, after)) :
    ∃ expr, body = expr ++ closing ∧ '\n' ∉ body ∧
      ∀ tail, Text.cut? closing (body ++ tail) = some (expr, tail) := by
  fun_induction takeClosed? s generalizing body with
  | case1 rest =>
      cases h
      refine ⟨[], rfl, by decide, fun tail => ?_⟩
      simp [Text.cut?, closing, List.isPrefixOf]
  | case2 => cases h
  | case3 c rest hclosing hline ih =>
      obtain ⟨⟨b, a⟩, hb, he⟩ := Option.map_eq_some_iff.1 h
      obtain ⟨rfl, rfl⟩ : c :: b = body ∧ a = after := by simpa using he
      obtain ⟨expr, rfl, hlines, hcut⟩ := ih hb
      -- the first character begins no closing, since the lexer went on behind it
      have hfirst : ∀ tail, closing.isPrefixOf (c :: (expr ++ closing ++ tail)) = false := by
        intro tail
        refine Bool.eq_false_iff.2 fun hp => ?_
        obtain ⟨t, ht⟩ := List.isPrefixOf_iff_prefix.1 hp
        obtain ⟨rfl, htail⟩ : '}' = c ∧ '}' :: t = expr ++ closing ++ tail := List.cons.inj ht
        have hrest : rest = expr ++ closing ++ a := takeClosed?_eq_append hb
        cases expr with
        | nil => exact hclosing _ rfl hrest
        | cons d expr =>
            obtain ⟨rfl, -⟩ : '}' = d ∧ t = expr ++ closing ++ tail := List.cons.inj htail
            exact hclosing _ rfl hrest
      refine ⟨c :: expr, rfl, ?_, fun tail => ?_⟩
      · rw [List.mem_cons, not_or]
        exact ⟨fun heq => hline heq.symm, hlines⟩
      · rw [List.cons_append, Text.cut?, hfirst, hcut]
        rfl
  | case4 => cases h

/-- Where the lexer finds no closing on the line, there is none in what the line holds. -/
theorem not_infix_of_takeClosed? {word rest : List Char} (hline : '\n' ∉ word)
    (h : takeClosed? (word ++ rest) = none) : ¬ closing <:+: word := by
  induction word with
  | nil => simp [closing]
  | cons c word ih =>
      rw [List.mem_cons, not_or] at hline
      rw [List.infix_cons_iff, not_or]
      rw [List.cons_append] at h
      constructor
      · rintro ⟨t, ht⟩
        obtain ⟨rfl, rfl⟩ : '}' = c ∧ '}' :: t = word := by simpa [closing] using ht
        cases h
      · refine ih hline.2 ?_
        unfold takeClosed? at h
        split at h
        · cases h
        · next heq => exact absurd (List.cons.inj heq).1.symm hline.1
        · next heq =>
          obtain ⟨rfl, rfl⟩ := List.cons.inj heq
          exact Option.map_eq_none_iff.1 h
        · next heq => cases heq

/-! ## The resolver's pieces -/

def addChar (c : Char) : List Piece → List Piece
  | .literal text :: rest => .literal (c :: text) :: rest
  | parts => parts

theorem pieces_of_no_opening {s : List Char} (h : Text.cut? opening s = none) :
    pieces s = [.literal s] := by
  rw [pieces]
  split
  · rfl
  · next heq => cases h.symm.trans heq

theorem pieces_of_unclosed {s lead rest : List Char} (h : Text.cut? opening s = some (lead, rest))
    (hclosing : Text.cut? closing rest = none) : pieces s = [.literal s] := by
  rw [pieces]
  split
  · rfl
  · next heq =>
    obtain ⟨rfl, rfl⟩ := Prod.mk.inj (Option.some.inj (h.symm.trans heq))
    split
    · rfl
    · next heq => cases hclosing.symm.trans heq

theorem pieces_of_closed {s lead rest expr after : List Char}
    (h : Text.cut? opening s = some (lead, rest))
    (hclosing : Text.cut? closing rest = some (expr, after)) :
    pieces s = .literal lead :: .expression expr :: pieces after := by
  rw [pieces]
  split
  · next heq => cases h.symm.trans heq
  · next heq =>
    obtain ⟨rfl, rfl⟩ := Prod.mk.inj (Option.some.inj (h.symm.trans heq))
    split
    · next heq => cases hclosing.symm.trans heq
    · next heq =>
      obtain ⟨rfl, rfl⟩ := Prod.mk.inj (Option.some.inj (hclosing.symm.trans heq))
      rfl

/-- Without a closing there is no template. -/
theorem pieces_of_no_closing {s : List Char} (h : ¬ closing <:+: s) : pieces s = [.literal s] := by
  cases hcut : Text.cut? opening s with
  | none => exact pieces_of_no_opening hcut
  | some found =>
      obtain ⟨lead, rest⟩ := found
      refine pieces_of_unclosed hcut (Text.cut?_eq_none_iff.2 fun hrest => h ?_)
      rw [Text.cut?_eq_append hcut]
      exact hrest.trans (List.suffix_append _ _).isInfix

/-- A character that begins no opening belongs to the literal text. -/
theorem pieces_cons {c : Char} {s : List Char} (h : opening.isPrefixOf (c :: s) = false) :
    pieces (c :: s) = addChar c (pieces s) := by
  have hcut : Text.cut? opening (c :: s) =
      (Text.cut? opening s).map fun cut => (c :: cut.1, cut.2) := by
    rw [Text.cut?, h]
    rfl
  cases hs : Text.cut? opening s with
  | none =>
      rw [hs] at hcut
      rw [pieces_of_no_opening hcut, pieces_of_no_opening hs]
      rfl
  | some found =>
      obtain ⟨lead, rest⟩ := found
      rw [hs] at hcut
      cases hrest : Text.cut? closing rest with
      | none =>
          rw [pieces_of_unclosed hcut hrest, pieces_of_unclosed hs hrest]
          rfl
      | some found =>
          obtain ⟨expr, after⟩ := found
          rw [pieces_of_closed hcut hrest, pieces_of_closed hs hrest]
          rfl

/-- A template that the lexer takes is the first one of the resolver, which goes on behind it. -/
theorem pieces_of_lead? {s template after : List Char} (h : lead? s = some (template, after)) :
    ∃ expr, template = opening ++ expr ++ closing ∧ '\n' ∉ template ∧
      ∀ tail, pieces (template ++ tail) = .literal [] :: .expression expr :: pieces tail := by
  unfold lead? at h
  split at h
  · obtain ⟨⟨body, after'⟩, hbody, heq⟩ := Option.map_eq_some_iff.1 h
    obtain ⟨rfl, rfl⟩ : '{' :: '{' :: body = template ∧ after' = after := Prod.mk.inj heq
    obtain ⟨expr, rfl, hline, hcut⟩ := cut?_of_takeClosed? hbody
    exact ⟨expr, rfl, by simpa using hline, fun tail => pieces_of_closed rfl (hcut tail)⟩
  · cases h

/-! ## Where templates stand -/

/-- The bytes of the templates among the pieces of a text that starts at byte `offset`. -/
def spans (offset : Nat) : List Piece → List Span
  | [] => []
  | .literal text :: rest => spans (offset + Text.byteLength text) rest
  | .expression text :: rest =>
    let stop := offset + Text.byteLength (Piece.expression text).chars
    ⟨offset, stop⟩ :: spans stop rest

theorem spans_addChar (offset : Nat) (c : Char) (s : List Char) :
    spans offset (addChar c (pieces s)) = spans (offset + c.utf8Size) (pieces s) := by
  have hliteral : ∃ text rest, pieces s = .literal text :: rest := by
    rw [pieces]
    split
    · exact ⟨_, _, rfl⟩
    · split
      · exact ⟨_, _, rfl⟩
      · exact ⟨_, _, rfl⟩
  obtain ⟨text, rest, hs⟩ := hliteral
  rw [hs, addChar, spans, spans, Text.byteLength_cons, Nat.add_assoc]

end Template

namespace Token

/-- The bytes of the templates among the stretches of a word that starts at byte `offset`. -/
def WordPiece.spans (offset : Nat) : List WordPiece → List Span
  | [] => []
  | .char c :: rest => spans (offset + c.utf8Size) rest
  | .template text :: rest =>
    ⟨offset, offset + Text.byteLength text⟩ :: spans (offset + Text.byteLength text) rest

/-! ## The lexer's words -/

theorem newline_not_mem_wordChars (inList : Bool) (cs : List Char) :
    '\n' ∉ wordChars inList cs := by
  unfold wordChars
  fun_induction wordPieces inList cs with
  | case1 cs template after h _ pieces rest he ih =>
      rw [he] at ih
      obtain ⟨-, -, hline, -⟩ := Template.pieces_of_lead? h
      rw [List.flatMap_cons, List.mem_append, not_or]
      exact ⟨hline, ih⟩
  | case2 => exact List.not_mem_nil
  | case3 => exact List.not_mem_nil
  | case4 c cs _ hstop pieces rest he ih =>
      rw [he] at ih
      rw [List.flatMap_cons, List.mem_append, not_or]
      refine ⟨fun hmem => hstop ?_, ih⟩
      obtain rfl : '\n' = c := List.mem_singleton.1 hmem
      rfl

/-- In front of the rest of a word stands a character that begins no opening, or an opening that is
not closed in the word. -/
theorem pieces_cons_wordChars {inList : Bool} {c : Char} {cs : List Char}
    (hlead : Template.lead? (c :: cs) = none) (hstop : stopsWord inList c = false) :
    Template.pieces (c :: wordChars inList cs) =
      Template.addChar c (Template.pieces (wordChars inList cs)) := by
  cases hopen : Template.opening.isPrefixOf (c :: wordChars inList cs) with
  | false => exact Template.pieces_cons hopen
  | true =>
      obtain ⟨word, hprefix⟩ := List.isPrefixOf_iff_prefix.1 hopen
      obtain ⟨rfl, hword⟩ : '{' = c ∧ '{' :: word = wordChars inList cs := List.cons.inj hprefix
      have hline := newline_not_mem_wordChars inList cs
      rw [← hword, List.mem_cons, not_or] at hline
      -- the line does not close the opening, hence neither does the word
      have hclosing : ¬ Template.closing <:+: '{' :: word := by
        have hcs : cs = '{' :: (word ++ (wordPieces inList cs).2) := by
          conv => lhs; rw [← wordPieces_append inList cs]
          exact congrArg (· ++ (wordPieces inList cs).2) hword.symm
        have hnone : Template.takeClosed? (word ++ (wordPieces inList cs).2) = none := by
          rw [hcs] at hlead
          exact Option.map_eq_none_iff.1 hlead
        rw [List.infix_cons_iff, not_or]
        refine ⟨fun hprefix => ?_, Template.not_infix_of_takeClosed? hline.2 hnone⟩
        obtain ⟨t, ht⟩ := hprefix
        cases ht
      have hclosing' : ¬ Template.closing <:+: '{' :: '{' :: word := by
        rw [List.infix_cons_iff, not_or]
        refine ⟨fun hprefix => ?_, hclosing⟩
        obtain ⟨t, ht⟩ := hprefix
        cases ht
      rw [← hword, Template.pieces_of_no_closing hclosing, Template.pieces_of_no_closing hclosing']
      rfl

theorem wordChars_template (inList : Bool) {cs template after : List Char}
    (h : Template.lead? cs = some (template, after)) :
    wordChars inList cs = template ++ wordChars inList after := by
  rw [wordChars, wordPieces_template inList h]
  rfl

theorem wordChars_char {inList : Bool} {c : Char} {cs : List Char}
    (hlead : Template.lead? (c :: cs) = none) (hstop : stopsWord inList c = false) :
    wordChars inList (c :: cs) = c :: wordChars inList cs := by
  rw [wordChars, wordPieces_char hlead hstop]
  rfl

theorem wordChars_nil (inList : Bool) : wordChars inList [] = [] := by
  rw [wordChars, wordPieces]
  rfl

theorem wordChars_stop {inList : Bool} {c : Char} (h : stopsWord inList c = true) (cs : List Char) :
    wordChars inList (c :: cs) = [] := by
  rw [wordChars, wordPieces_stop h]
  rfl

/-- The resolver finds in a word the templates that the lexer kept together. -/
theorem spans_wordPieces (inList : Bool) (cs : List Char) (offset : Nat) :
    Template.spans offset (Template.pieces (wordChars inList cs)) =
      WordPiece.spans offset (wordPieces inList cs).1 := by
  fun_induction wordPieces inList cs generalizing offset with
  | case1 cs template after h _ pieces rest he ih =>
      obtain ⟨expr, rfl, -, hpieces⟩ := Template.pieces_of_lead? h
      rw [he] at ih
      rw [wordChars_template inList h, hpieces, WordPiece.spans, ← ih]
      rfl
  | case2 =>
      rw [wordChars_nil, Template.pieces_of_no_opening rfl]
      rfl
  | case3 c cs _ hstop =>
      rw [wordChars_stop hstop, Template.pieces_of_no_opening rfl]
      rfl
  | case4 c cs hlead hstop pieces rest he ih =>
      have hstop : stopsWord inList c = false := by simpa [stopsWord] using hstop
      rw [he] at ih
      rw [wordChars_char hlead hstop, pieces_cons_wordChars hlead hstop, Template.spans_addChar,
        WordPiece.spans, ih]

/-- What would end a word stands inside a template. -/
theorem mem_spans_of_stopsWord {inList : Bool} {cs before after : List Char} {c : Char}
    (hword : wordChars inList cs = before ++ c :: after) (hc : stopsWord inList c = true)
    (offset : Nat) :
    ∃ span ∈ WordPiece.spans offset (wordPieces inList cs).1,
      span.start ≤ offset + Text.byteLength before ∧
        offset + Text.byteLength before + c.utf8Size ≤ span.stop := by
  fun_induction wordPieces inList cs generalizing before offset with
  | case1 cs template rest h _ pieces left he ih =>
      rw [he] at ih
      rw [wordChars_template inList h, List.append_eq_append_iff] at hword
      rw [WordPiece.spans]
      obtain ⟨behind, rfl, hword⟩ | ⟨within, rfl, hword⟩ := hword
      · obtain ⟨span, hspan, hstart, hstop⟩ := ih hword (offset + Text.byteLength template)
        rw [Text.byteLength_append, ← Nat.add_assoc]
        exact ⟨span, List.mem_cons_of_mem _ hspan, hstart, hstop⟩
      · cases within with
        | nil =>
            have hafter : wordChars inList rest = [] ++ c :: after := hword.symm
            obtain ⟨span, hspan, hstart, hstop⟩ := ih hafter (offset + Text.byteLength before)
            simp only [List.append_nil, Text.byteLength_nil, Nat.add_zero] at hstart hstop ⊢
            exact ⟨span, List.mem_cons_of_mem _ hspan, hstart, hstop⟩
        | cons d within =>
            obtain ⟨rfl, -⟩ := List.cons.inj hword
            refine ⟨_, List.mem_cons_self, Nat.le_add_right _ _, ?_⟩
            simp only [Text.byteLength_append, Text.byteLength_cons]
            omega
  | case2 =>
      rw [wordChars_nil] at hword
      simp at hword
  | case3 d cs _ hstop =>
      rw [wordChars_stop hstop] at hword
      simp at hword
  | case4 d cs hlead hstop pieces rest he ih =>
      have hstop : stopsWord inList d = false := by simpa [stopsWord] using hstop
      rw [he] at ih
      rw [wordChars_char hlead hstop] at hword
      rw [WordPiece.spans]
      cases before with
      | nil =>
          obtain ⟨rfl, -⟩ := List.cons.inj hword
          exact absurd (hstop.symm.trans hc) Bool.false_ne_true
      | cons b before =>
          obtain ⟨rfl, hrest⟩ := List.cons.inj hword
          rw [Text.byteLength_cons, ← Nat.add_assoc]
          exact ih hrest (offset + d.utf8Size)

/-! ## Words among the tokens -/

/-- The turn that takes a bare word of a text: whether it stands in an argument list, and the
stretches in which the lexer reads it. -/
inductive TakesWord (source : List Char) (t : Token) : Bool → List WordPiece → Prop where
  | turn {before : List Token} {p q : Place} {skipped cs : List Char} {c : Char} {l : Lexeme (c :: cs)} :
      Reads (.start source) before p → Takes p t q → gap false p.left = (skipped, c :: cs) →
        bareWord p.ctx.inList c cs = .ok l → l.kind = t.kind → l.taken = t.text.toList →
          TakesWord source t p.ctx.inList (wordFrom p.ctx.inList c cs).1

theorem Reads.takes_of_mem {p q : Place} {ts : List Token} {t : Token} (h : Reads p ts q)
    (ht : t ∈ ts) : ∃ before p' q', Reads p before p' ∧ Takes p' t q' := by
  induction h with
  | nil => cases ht
  | @cons p q r u us hu hus ih =>
      rcases List.mem_cons.1 ht with rfl | ht
      · exact ⟨[], p, q, .nil, hu⟩
      · obtain ⟨before, p', q', hbefore, htakes⟩ := ih ht
        exact ⟨u :: before, p', q', .cons hu hbefore, htakes⟩

theorem name_of_classify {word : List Char} {name : String} (h : classify word = .ok (.word name)) :
    name = String.ofList word := by
  unfold classify at h
  split at h
  · split at h <;> cases h
  · split at h <;> cases h
    rfl

/-- A token that is a word has been read as one. -/
theorem exists_takesWord {source : String} {ts : List Token} (h : tokenize source = .ok ts)
    {t : Token} {name : String} (ht : t ∈ ts) (hk : t.kind = .word name) :
    ∃ inList c cs, TakesWord source.toList t inList (wordPieces inList (c :: cs)).1 ∧
      t.text.toList = wordChars inList (c :: cs) ∧ name = t.text := by
  obtain ⟨us, q, stop, hreads, -, rfl⟩ := (Place.tokens_eq_ok_iff (p := .start source.toList)).1 h
  have ht : t ∈ us := by
    rcases List.mem_append.1 ht with ht | ht
    · exact ht
    · obtain rfl := List.mem_singleton.1 ht
      cases hk
  obtain ⟨before, p, q, hbefore, htakes⟩ := hreads.takes_of_mem ht
  obtain @⟨skipped, cs, taken, rest, kind, hgap, hlexes⟩ := id htakes
  -- of all lexemes only a bare word is a word
  cases hlexes with
  | @word c cs _ hstop hpoint hkind =>
      obtain ⟨l, hl, hlkind, hltaken, -⟩ := (bareWord_eq_ok_iff hstop).2 ⟨hkind, rfl, rfl⟩
      have htext : (String.ofList (wordChars p.ctx.inList (c :: cs))).toList =
          wordChars p.ctx.inList (c :: cs) := String.toList_ofList
      refine ⟨p.ctx.inList, c, cs, ?_, htext, ?_⟩
      · rw [← wordFrom_eq hstop]
        exact .turn hbefore htakes hgap hl hlkind (hltaken.trans htext.symm)
      · obtain rfl : kind = .word name := hk
        exact name_of_classify hkind
  | _ => cases hk

end Token

open Token

/-- The templates that the resolver finds in a word are the stretches that the lexer kept together
when it read the word, at the same bytes and in the same order. All that would have ended the word
(a blank, a sign, a quote, or a comma in an argument list) stands inside one of them. -/
theorem tokenize_keeps_templates {source : String} {ts : List Token} (h : tokenize source = .ok ts)
    {t : Token} {name : String} (ht : t ∈ ts) (hk : t.kind = .word name) :
    ∃ inList stretches, TakesWord source.toList t inList stretches ∧
      name = t.text ∧ stretches.flatMap WordPiece.chars = t.text.toList ∧
      (∀ offset, Template.spans offset (Template.pieces t.text.toList) =
        WordPiece.spans offset stretches) ∧
      ∀ before c after, t.text.toList = before ++ c :: after →
        (Text.isBlank c = true ∨ c ∈ ['|', '=', '(', ')', '"', '\''] ∨ (inList = true ∧ c = ',')) →
          ∃ span ∈ Template.spans 0 (Template.pieces t.text.toList),
            span.start ≤ Text.byteLength before ∧
              Text.byteLength before + c.utf8Size ≤ span.stop := by
  obtain ⟨inList, c, cs, htakes, htext, hname⟩ := exists_takesWord h ht hk
  have hspans := spans_wordPieces inList (c :: cs)
  rw [← htext] at hspans
  refine ⟨inList, _, htakes, hname, htext.symm, hspans, fun before d after hsplit hd => ?_⟩
  have hstops : stopsWord inList d = true := by
    rcases hd with hblank | hsign | ⟨hlist, rfl⟩
    · simp [stopsWord, isDelimiter, hblank]
    · simp only [List.mem_cons, List.not_mem_nil, or_false] at hsign
      rcases hsign with rfl | rfl | rfl | rfl | rfl | rfl <;> rfl
    · simp [stopsWord, hlist]
  have hinside := mem_spans_of_stopsWord (htext.symm.trans hsplit) hstops 0
  rwa [← hspans, Nat.zero_add] at hinside

/-- A call whose first argument holds two templates, the second with a brace too many on both sides. -/
def listedTemplates : String := "f(p{{ a, (b) }}-{{{c}}},d)"

def listedWord : Token :=
  ⟨.word "p{{ a, (b) }}-{{{c}}}", "p{{ a, (b) }}-{{{c}}}", ⟨2, 23⟩⟩

theorem tokenize_keeps_listedTemplates :
    ∃ ts, tokenize listedTemplates = .ok ts ∧ listedWord ∈ ts ∧
      Template.spans 0 (Template.pieces listedWord.text.toList) = [⟨1, 13⟩, ⟨14, 20⟩] ∧
      ∃ inList stretches, TakesWord listedTemplates.toList listedWord inList stretches ∧
        WordPiece.spans 0 stretches = [⟨1, 13⟩, ⟨14, 20⟩] := by
  have htokens : tokenize listedTemplates = .ok [⟨.word "f", "f", ⟨0, 1⟩⟩,
      ⟨.openParen, "(", ⟨1, 2⟩⟩, listedWord, ⟨.comma, ",", ⟨23, 24⟩⟩, ⟨.word "d", "d", ⟨24, 25⟩⟩,
      ⟨.closeParen, ")", ⟨25, 26⟩⟩, ⟨.finish, "", ⟨26, 26⟩⟩] :=
    eq_ok_of_toOption (by decide +kernel)
  have hword : Template.spans 0 (Template.pieces listedWord.text.toList) = [⟨1, 13⟩, ⟨14, 20⟩] := by
    decide +kernel
  obtain ⟨inList, stretches, htakes, -, -, hspans, -⟩ :=
    tokenize_keeps_templates htokens (t := listedWord) (by simp) rfl
  exact ⟨_, htokens, by simp, hword, inList, stretches, htakes, (hspans 0).symm.trans hword⟩

end Sluice
