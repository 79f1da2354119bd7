import Sluice.Proofs.Token.Layout
import Sluice.Proofs.Token.Scanning

/-!
# Texts that are cut at a line end

The shell sees a statement line by line, so that it asks about texts that are cut at a line end
whether they are unfinished. The lexer turns on such a text as it does on the whole one
(`Takes.cut`): only a string goes on over a line end, so that the cut lies in a gap, or a string has
lost its end, or the same lexeme is taken. Hence the tokens of the cut text are those of the whole
text that end in front of the cut (`Reads.cut`), and what the pass over the characters says about it
can be read off the tokens of the whole text (`isOpen_cut`).
-/

namespace Sluice

/-! ## Pieces of a cut text -/

section Pieces

variable (cs rest : List Char)

theorem Template.takeClosed?_cut :
    takeClosed? (cs ++ '\n' :: rest) =
      (takeClosed? cs).map fun (body, after) => (body, after ++ '\n' :: rest) := by
  fun_induction takeClosed? cs with
  | case1 => rfl
  | case2 => rfl
  | case3 c cs hclosing hline ih =>
      have hclosing' : ∀ after, c = '}' → cs ++ '\n' :: rest = '}' :: after → False := by
        rintro after rfl h
        cases cs with
        | nil => simp at h
        | cons d cs =>
            obtain ⟨rfl, -⟩ := List.cons.inj h
            exact hclosing cs rfl rfl
      rw [List.cons_append, takeClosed?, ih, Option.map_map, Option.map_map]
      · rfl
      · exact hclosing'
      · exact hline
  | case4 => rfl

theorem Template.lead?_cut :
    lead? (cs ++ '\n' :: rest) =
      (lead? cs).map fun (template, after) => (template, after ++ '\n' :: rest) := by
  fun_cases lead? cs with
  | case1 cs =>
      rw [List.cons_append, List.cons_append, lead?, takeClosed?_cut, Option.map_map,
        Option.map_map]
      rfl
  | case2 cs hopening =>
      have hopening' : ∀ after, cs ++ '\n' :: rest = '{' :: '{' :: after → False := by
        intro after h
        match cs with
        | [] => simp at h
        | [_] => simp at h
        | c :: d :: cs =>
            obtain ⟨rfl, htail⟩ := List.cons.inj h
            obtain ⟨rfl, -⟩ := List.cons.inj htail
            exact hopening cs rfl
      unfold lead?
      split
      · next h => exact (hopening' _ h).elim
      · rfl

namespace Token

/-- No word goes on over a line end. -/
theorem wordPieces_cut (inList : Bool) :
    wordPieces inList (cs ++ '\n' :: rest) =
      ((wordPieces inList cs).1, (wordPieces inList cs).2 ++ '\n' :: rest) := by
  fun_induction wordPieces inList cs with
  | case1 cs template after h _ pieces left he ih =>
      have hlead := Template.lead?_cut cs rest
      rw [h] at hlead
      rw [wordPieces_template inList hlead, ih, he]
  | case2 => exact wordPieces_stop (by cases inList <;> rfl) rest
  | case3 c cs _ hstop => exact wordPieces_stop hstop _
  | case4 c cs h hstop pieces left he ih =>
      have hlead := Template.lead?_cut (c :: cs) rest
      rw [h, List.cons_append] at hlead
      have hstop' : stopsWord inList c = false := by simpa [stopsWord] using hstop
      rw [List.cons_append, wordPieces_char hlead hstop', ih, he]

theorem wordChars_cut (inList : Bool) :
    wordChars inList (cs ++ '\n' :: rest) = wordChars inList cs := by
  rw [wordChars, wordPieces_cut]
  rfl

theorem isPoint_cut (c : Char) : IsPoint c (cs ++ '\n' :: rest) ↔ IsPoint c cs := by
  cases cs with
  | nil => simp [IsPoint, isDelimiter, Text.isBlank]
  | cons => rfl

/-- A gap goes on over a line end; what ends it in front of the line end still does. -/
theorem gap_cut (comment : Bool) :
    gap comment (cs ++ '\n' :: rest) =
      if (gap comment cs).2 = [] then
        ((gap comment cs).1 ++ '\n' :: (gap false rest).1, (gap false rest).2)
      else ((gap comment cs).1, (gap comment cs).2 ++ '\n' :: rest) := by
  induction cs generalizing comment with
  | nil =>
      cases comment with
      | true => exact gap_lineEnd rest
      | false => exact gap_blank rest rfl
  | cons c cs ih =>
      rw [List.cons_append]
      cases comment with
      | true =>
          by_cases hline : c = '\n'
          · subst hline
            rw [gap_lineEnd, gap_lineEnd, ih]
            split <;> rfl
          · rw [gap_comment _ hline, gap_comment _ hline, ih]
            split <;> rfl
      | false =>
          by_cases hblank : Text.isBlank c = true
          · rw [gap_blank _ hblank, gap_blank _ hblank, ih]
            split <;> rfl
          by_cases hremark : c = '#'
          · subst hremark
            rw [gap_remark, gap_remark, ih]
            split <;> rfl
          · have hblank' : Text.isBlank c = false := by simpa using hblank
            rw [gap_stop _ hblank' hremark, gap_stop _ hblank' hremark]
            rfl

/-- A string that has been closed is not changed by what follows. -/
theorem quotedTail?_append_right {quote : Char} {cs : List Char} {t : QuotedTail}
    (h : quotedTail? quote cs = some t) (rest : List Char) :
    quotedTail? quote (cs ++ rest) = some { t with rest := t.rest ++ rest } := by
  fun_induction quotedTail? quote cs generalizing t with
  | case1 => cases h
  | case2 =>
      cases h
      exact quotedTail?_close _
  | case3 => cases h
  | case4 e cs hquote ih =>
      obtain ⟨u, hu, rfl⟩ := Option.map_eq_some_iff.1 h
      rw [List.cons_append, List.cons_append, quotedTail?_escape hquote, ih hu]
      rfl
  | case5 c cs hquote hbackslash ih =>
      obtain ⟨u, hu, rfl⟩ := Option.map_eq_some_iff.1 h
      rw [List.cons_append, quotedTail?_plain hquote hbackslash, ih hu]
      rfl

/-- A string that is closed only behind a stretch of text covers the stretch and more. -/
theorem taken_of_quotedTail?_append {quote c : Char} {cs rest : List Char} {t : QuotedTail}
    (hcut : quotedTail? quote cs = none) (h : quotedTail? quote (cs ++ c :: rest) = some t) :
    ∃ more, t.taken = cs ++ more ∧ more ≠ [] := by
  fun_induction quotedTail? quote cs generalizing t with
  | case1 => exact ⟨t.taken, rfl, quotedTail?_taken_ne_nil h⟩
  | case2 => cases hcut
  | case3 hquote =>
      rw [List.singleton_append, quotedTail?_escape hquote] at h
      obtain ⟨u, -, rfl⟩ := Option.map_eq_some_iff.1 h
      exact ⟨c :: u.taken, rfl, List.cons_ne_nil _ _⟩
  | case4 e cs hquote ih =>
      rw [List.cons_append, List.cons_append, quotedTail?_escape hquote] at h
      obtain ⟨u, hu, rfl⟩ := Option.map_eq_some_iff.1 h
      obtain ⟨more, htaken, hmore⟩ := ih (Option.map_eq_none_iff.1 hcut) hu
      exact ⟨more, by simp [htaken], hmore⟩
  | case5 d cs hquote hbackslash ih =>
      rw [List.cons_append, quotedTail?_plain hquote hbackslash] at h
      obtain ⟨u, hu, rfl⟩ := Option.map_eq_some_iff.1 h
      obtain ⟨more, htaken, hmore⟩ := ih (Option.map_eq_none_iff.1 hcut) hu
      exact ⟨more, by simp [htaken], hmore⟩

end Token

end Pieces

namespace Token

def Kind.isString : Kind → Bool
  | .quoted _ => true
  | _ => false

/-! ## Turns on a cut text -/

section Turns

variable {cs rest : List Char}

/-- The lexeme at the front of a cut text is that of the whole text, or it is a string that has
lost its end. -/
theorem Lexes.cut {inList : Bool} {kind : Kind} {taken left : List Char}
    (h : Lexes inList (cs ++ '\n' :: rest) kind taken left) (hne : cs ≠ []) :
    (∃ left', left = left' ++ '\n' :: rest ∧ Lexes inList cs kind taken left') ∨
      ∃ more expected, taken = cs ++ more ∧ more ≠ [] ∧ kind.isString = true ∧
        Refuses inList cs .unterminatedString expected := by
  obtain ⟨c, cs, rfl⟩ := List.exists_cons_of_ne_nil hne
  rw [List.cons_append] at h
  cases h with
  | pipe => exact .inl ⟨cs, rfl, .pipe⟩
  | equals => exact .inl ⟨cs, rfl, .equals⟩
  | openParen => exact .inl ⟨cs, rfl, .openParen⟩
  | closeParen => exact .inl ⟨cs, rfl, .closeParen⟩
  | comma hlist => exact .inl ⟨cs, rfl, .comma hlist⟩
  | @quoted quote _ t hquote ht =>
      cases hcut : quotedTail? c cs with
      | none =>
          obtain ⟨more, htaken, hmore⟩ := taken_of_quotedTail?_append hcut ht
          exact .inr ⟨more, _, by rw [htaken]; rfl, hmore, rfl, .quoted hquote hcut⟩
      | some u =>
          obtain rfl := Option.some.inj ((quotedTail?_append_right hcut _).symm.trans ht)
          exact .inl ⟨u.rest, rfl, .quoted hquote hcut⟩
  | dot hpoint => exact .inl ⟨cs, rfl, .dot ((isPoint_cut cs rest _).1 hpoint)⟩
  | word hstop hpoint hkind =>
      have hchars := wordChars_cut (c :: cs) rest inList
      have hpieces := wordPieces_cut (c :: cs) rest inList
      rw [List.cons_append] at hchars hpieces
      rw [hchars] at hkind ⊢
      rw [hpieces]
      exact .inl ⟨_, rfl, .word hstop (fun hp => hpoint ((isPoint_cut cs rest c).2 hp)) hkind⟩

/-- The place in the text that is cut behind `cs`. -/
def Place.cut (p : Place) (cs : List Char) : Place :=
  { p with left := cs }

/-- The byte at which the text that is cut behind `cs` ends. -/
def Place.cutAt (p : Place) (cs : List Char) : Nat :=
  p.offset + Text.byteLength cs

/-- A gap is one up to a cut in it. -/
theorem Place.Ends.cut {p : Place} {stop : Nat} (h : p.Ends stop)
    (hleft : p.left = cs ++ '\n' :: rest) : (p.cut cs).Ends (p.cutAt cs) := by
  obtain ⟨skipped, hgap, -⟩ := h
  rw [hleft, gap_cut] at hgap
  have hnil : (gap false cs).2 = [] := by
    by_contra hne
    rw [if_neg hne] at hgap
    simp at hgap
  have hall : gap false cs = ((gap false cs).1, []) := Prod.ext rfl hnil
  have hsplit := append_of_gap hall
  rw [List.append_nil] at hsplit
  refine ⟨(gap false cs).1, hall, ?_⟩
  rw [hsplit]
  rfl

/-- A turn on a cut text. The cut lies in the gap in front of the token, or in the token, which is a
string, or behind it. -/
theorem Takes.cut {p q : Place} {t : Token} (h : Takes p t q) (hleft : p.left = cs ++ '\n' :: rest) :
    ((p.cut cs).Ends (p.cutAt cs) ∧ p.cutAt cs < t.span.start) ∨
    (t.kind.isString = true ∧ t.span.start < p.cutAt cs ∧ p.cutAt cs < t.span.stop ∧
      ∃ e, (p.cut cs).Fails e ∧ e.fault = .unterminatedString) ∨
    ∃ left, q.left = left ++ '\n' :: rest ∧ q.cutAt left = p.cutAt cs ∧
      Takes (p.cut cs) t (q.cut left) := by
  obtain @⟨skipped, after, taken, left, kind, hgap, hlexes⟩ := h
  rw [hleft, gap_cut] at hgap
  rcases hgap' : gap false cs with ⟨skipped', after'⟩
  rw [hgap'] at hgap
  dsimp only at hgap
  have hsplit := append_of_gap hgap'
  have hbytes : p.cutAt cs = p.offset + Text.byteLength skipped' + Text.byteLength after' := by
    rw [Place.cutAt, ← hsplit, Text.byteLength_append, Nat.add_assoc]
  by_cases hafter : after' = []
  · -- the gap goes on over the cut, at least over the line end
    subst hafter
    rw [if_pos rfl] at hgap
    obtain ⟨rfl, -⟩ := Prod.mk.inj hgap
    refine .inl ⟨⟨skipped', hgap', hbytes⟩, ?_⟩
    have hline := Text.byteLength_pos (List.cons_ne_nil '\n' (gap false rest).1)
    simp only [Place.tokenOf, Place.spanOf, Text.byteLength_append, Text.byteLength_nil, hbytes]
    omega
  -- the gap ends in front of the cut, and so the lexeme begins there
  rw [if_neg hafter] at hgap
  obtain ⟨rfl, rfl⟩ := Prod.mk.inj hgap
  rcases hlexes.cut hafter with ⟨left', rfl, hcut⟩ | ⟨more, expected, rfl, hmore, hstring, hrefuses⟩
  · refine .inr (.inr ⟨left', rfl, ?_, .lexeme hgap' hcut⟩)
    rw [hbytes, ← hcut.append, Text.byteLength_append]
    simp only [Place.cutAt, Place.behind, Place.spanOf]
    omega
  · have hcut := Text.byteLength_pos hafter
    have hlost := Text.byteLength_pos hmore
    refine .inr (.inl ⟨hstring, ?_, ?_, _, .refused hgap' hrefuses, rfl⟩)
    · rw [hbytes]
      exact Nat.lt_add_of_pos_right hcut
    · simp only [Place.tokenOf, Place.spanOf, Text.byteLength_append, hbytes]
      omega

end Turns

/-! ## The tokens in front of a cut -/

def InString (ts : List Token) (byte : Nat) : Prop :=
  ∃ t ∈ ts, t.kind.isString = true ∧ t.span.start < byte ∧ byte < t.span.stop

/-- The tokens that end at a byte or in front of it. -/
def upTo (ts : List Token) (byte : Nat) : List Token :=
  ts.filter fun t => t.span.stop ≤ byte

/-- At the byte a string or a parenthesis is open. -/
def OpenAt (ts : List Token) (byte : Nat) : Prop :=
  InString ts byte ∨ 0 < openCount 0 (upTo ts byte)

instance (ts : List Token) (byte : Nat) : Decidable (InString ts byte) :=
  inferInstanceAs (Decidable (∃ t ∈ ts, _ ∧ _ ∧ _))

instance (ts : List Token) (byte : Nat) : Decidable (OpenAt ts byte) :=
  inferInstanceAs (Decidable (_ ∨ _))

section Cons

variable {t : Token} {ts : List Token} {byte : Nat}

theorem upTo_cons_of_le (h : t.span.stop ≤ byte) : upTo (t :: ts) byte = t :: upTo ts byte :=
  List.filter_cons_of_pos (by simpa using h)

theorem upTo_cons_of_lt (h : byte < t.span.stop) : upTo (t :: ts) byte = upTo ts byte :=
  List.filter_cons_of_neg (by simpa using h)

theorem inString_cons : InString (t :: ts) byte ↔
    (t.kind.isString = true ∧ t.span.start < byte ∧ byte < t.span.stop) ∨ InString ts byte :=
  List.exists_mem_cons_iff ..

end Cons

/-- Tokens begin at a byte or behind it. -/
def Behind (byte : Nat) (ts : List Token) : Prop :=
  ∀ t ∈ ts, byte ≤ t.span.start ∧ t.span.start < t.span.stop

theorem Reads.behind {source : List Char} {p q : Place} {ts : List Token} (hp : p.In source)
    (h : Reads p ts q) : Behind p.offset ts := by
  intro t ht
  obtain ⟨hstands, hle⟩ := (h.lies hp).2.1 t ht
  exact ⟨hle, hstands.nonempty⟩

theorem Behind.mono {byte later : Nat} {ts : List Token} (h : Behind later ts) (hle : byte ≤ later) :
    Behind byte ts :=
  fun t ht => ⟨Nat.le_trans hle (h t ht).1, (h t ht).2⟩

theorem Behind.upTo_eq_nil {byte : Nat} {ts : List Token} (h : Behind byte ts) :
    upTo ts byte = [] := by
  rw [upTo, List.filter_eq_nil_iff]
  intro t ht
  have hlt := Nat.lt_of_le_of_lt (h t ht).1 (h t ht).2
  simpa using hlt

theorem Behind.not_inString {byte : Nat} {ts : List Token} (h : Behind byte ts) :
    ¬ InString ts byte := by
  rintro ⟨t, ht, -, hlt, -⟩
  exact Nat.not_lt.2 (h t ht).1 hlt

/-- An end mark opens nothing. -/
theorem openAt_finish {ts : List Token} {e : Token} (he : e.kind = .finish) (byte : Nat) :
    OpenAt (ts ++ [e]) byte ↔ OpenAt ts byte := by
  have hin : InString (ts ++ [e]) byte ↔ InString ts byte := by
    simp [InString, or_and_right, exists_or, Kind.isString, he]
  have hcount : openCount 0 (upTo (ts ++ [e]) byte) = openCount 0 (upTo ts byte) := by
    rw [upTo, List.filter_append, openCount_append, List.filter_singleton]
    cases decide (e.span.stop ≤ byte) <;> simp [openCount, upTo, he]
  rw [OpenAt, hin, hcount]
  rfl

/-- Reading a text that is cut at a line end gives the tokens in front of the cut; then the text is
at its end, or a string has lost its end. -/
theorem Reads.cut {source cs rest : List Char} {p q : Place} {ts : List Token} {stop : Nat}
    (h : Reads p ts q) (hp : p.In source) (hends : q.Ends stop)
    (hleft : p.left = cs ++ '\n' :: rest) :
    upTo ts (p.cutAt cs) <+: ts ∧
      ∃ r, Reads (p.cut cs) (upTo ts (p.cutAt cs)) r ∧
        ((r.Ends (p.cutAt cs) ∧ ¬ InString ts (p.cutAt cs)) ∨
          InString ts (p.cutAt cs) ∧ ∃ e, r.Fails e ∧ e.fault = .unterminatedString) := by
  induction h generalizing cs with
  | @nil p =>
      refine ⟨List.prefix_rfl, p.cut cs, .nil, .inl ⟨hends.cut hleft, ?_⟩⟩
      simp [InString]
  | @cons p q r t ts ht hreads ih =>
      obtain ⟨hq, hoffset, hstands, -⟩ := ht.lies hp
      have hnonempty := hstands.nonempty
      have hbehind : Behind t.span.stop ts := hoffset ▸ hreads.behind hq
      rcases ht.cut hleft with ⟨hpends, hlt⟩ | ⟨hstring, hstart, hstop, hfails⟩ |
        ⟨left, hqleft, hcut, hcuttakes⟩
      · -- the cut is in front of the token
        have hall : Behind (p.cutAt cs) (t :: ts) :=
          List.forall_mem_cons.2 ⟨⟨Nat.le_of_lt hlt, hnonempty⟩, hbehind.mono (by omega)⟩
        rw [hall.upTo_eq_nil]
        exact ⟨List.nil_prefix, p.cut cs, .nil, .inl ⟨hpends, hall.not_inString⟩⟩
      · -- the cut is in the token
        rw [upTo_cons_of_lt hstop, (hbehind.mono (Nat.le_of_lt hstop)).upTo_eq_nil, inString_cons]
        exact ⟨List.nil_prefix, p.cut cs, .nil, .inr ⟨.inl ⟨hstring, hstart, hstop⟩, hfails⟩⟩
      · -- the cut is behind the token
        have hle : t.span.stop ≤ p.cutAt cs := by
          rw [← hcut, ← hoffset]
          exact Nat.le_add_right _ _
        obtain ⟨hfront, r, hread, hor⟩ := ih hq hends hqleft
        rw [hcut] at hfront hread hor
        rw [upTo_cons_of_le hle, inString_cons, or_iff_right fun h => Nat.not_lt.2 hle h.2.2]
        exact ⟨(List.prefix_cons_inj t).2 hfront, r, .cons hcuttakes hread, hor⟩

/-- A whole text is unfinished if and only if a string or a parenthesis is open at its end. -/
theorem isOpen_whole {source : List Char} {ts : List Token} {q : Place} {stop : Nat}
    (hreads : Reads (.start source) ts q) (hends : q.Ends stop) (hunjoined : Unjoined ts) :
    (Scan.start.run source).isOpen = true ↔ OpenAt ts (Text.byteLength source) := by
  have hle : ∀ t ∈ ts, t.span.stop ≤ Text.byteLength source := by
    intro t ht
    obtain ⟨before, after, rfl, hstop⟩ := ((hreads.lies (Place.in_start source)).2.1 t ht).1.stop
    rw [← hstop, Text.byteLength_append]
    exact Nat.le_add_right _ _
  have hin : ¬ InString ts (Text.byteLength source) := by
    rintro ⟨t, ht, -, -, hlt⟩
    exact Nat.not_lt.2 (hle t ht) hlt
  have hall : upTo ts (Text.byteLength source) = ts :=
    List.filter_eq_self.2 fun t ht => by simpa using hle t ht
  rw [OpenAt, or_iff_right hin, hall]
  exact isOpen_of_ends hreads hends hunjoined

/-- A text that is cut at a line end is unfinished for the pass over its characters if and only if
a string or a parenthesis of the whole text is open there. -/
theorem isOpen_cut {source cs rest : List Char} (hsource : source = cs ++ '\n' :: rest)
    {ts : List Token} {q : Place} {stop : Nat} (hreads : Reads (.start source) ts q)
    (hends : q.Ends stop) (hunjoined : Unjoined ts) :
    (Scan.start.run cs).isOpen = true ↔ OpenAt ts (Text.byteLength cs) := by
  have hcutAt : (Place.start source).cutAt cs = Text.byteLength cs := Nat.zero_add _
  obtain ⟨hfront, r, hread, hor⟩ := hreads.cut (Place.in_start source) hends hsource
  rw [hcutAt] at hfront hread hor
  have hunjoined : Unjoined (upTo ts (Text.byteLength cs)) := hunjoined.prefix hfront
  rw [OpenAt]
  rcases hor with ⟨hrends, hnot⟩ | ⟨hin, e, hfails, hfault⟩
  · rw [isOpen_of_ends hread hrends hunjoined, or_iff_right hnot]
  · exact iff_of_true (isOpen_of_unterminated hread hfails hfault hunjoined) (.inl hin)

end Token

end Sluice
