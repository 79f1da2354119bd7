import Sluice.Proofs.Token.Reading

/-!
# How tokens lie in their text

The lexer loses nothing. Its tokens stand in the text one behind the other, each with the text that
it spells, and between them are only blanks and comments; if it fails, it names the byte at which
the string without an end or the flag without a name begins (`tokenize_lossless`).

* `Takes.lies` : what one turn does;
* `Reads.lies` : hence what all turns do.
-/

namespace Sluice

namespace Text

theorem slice?_append (before part after : List Char) :
    slice? (before ++ part ++ after) (byteLength before) (byteLength (before ++ part)) =
      some part := by
  have hstart : charsBefore? (before ++ part ++ after) (byteLength before) = some before.length := by
    rw [List.append_assoc]
    exact charsBefore?_append _ _
  have hstop := charsBefore?_append (before ++ part) after
  have hle : before.length ≤ (before ++ part).length := by simp
  unfold slice?
  rw [hstart, hstop]
  dsimp only
  rw [if_pos hle, List.take_left, List.drop_left]

end Text

namespace Token

/-! ## Gaps -/

/-- Blanks, and comments that go on to the end of their lines. `after` is what follows. -/
inductive IsGap (after : List Char) : List Char → Prop where
  | nil : IsGap after []
  | blank {c : Char} {cs : List Char} :
      Text.isBlank c = true → IsGap after cs → IsGap after (c :: cs)
  | comment {body cs : List Char} :
      '\n' ∉ body → (∀ c ∈ (cs ++ after).head?, c = '\n') → IsGap after cs →
        IsGap after ('#' :: (body ++ cs))

/-- The rest of a comment, and a gap behind it. -/
def IsComment (after cs : List Char) : Prop :=
  ∃ body rest, cs = body ++ rest ∧ '\n' ∉ body ∧ (∀ c ∈ (rest ++ after).head?, c = '\n') ∧
    IsGap after rest

theorem isGap_of_gap (cs : List Char) :
    IsGap (gap false cs).2 (gap false cs).1 ∧ IsComment (gap true cs).2 (gap true cs).1 := by
  induction cs with
  | nil => exact ⟨.nil, [], [], rfl, List.not_mem_nil, nofun, .nil⟩
  | cons c cs ih =>
      obtain ⟨hgap, hcomment⟩ := ih
      constructor
      · by_cases hblank : Text.isBlank c = true
        · rw [gap_blank cs hblank]
          exact .blank hblank hgap
        by_cases hremark : c = '#'
        · subst hremark
          obtain ⟨body, rest, heq, hbody, hline, hrest⟩ := hcomment
          rw [gap_remark, heq]
          exact .comment hbody hline hrest
        · rw [gap_stop cs (by simpa using hblank) hremark]
          exact .nil
      · by_cases hline : c = '\n'
        · subst hline
          rw [gap_lineEnd]
          exact ⟨[], '\n' :: (gap false cs).1, rfl, List.not_mem_nil,
            fun d hd => (Option.some.inj hd).symm, .blank rfl hgap⟩
        · obtain ⟨body, rest, heq, hbody, hend, hrest⟩ := hcomment
          rw [gap_comment cs hline, heq]
          refine ⟨c :: body, rest, rfl, ?_, hend, hrest⟩
          rw [List.mem_cons, not_or]
          exact ⟨fun h => hline h.symm, hbody⟩

/-- Between two bytes of a text there is only a gap. -/
def GapAt (source : List Char) (start stop : Nat) : Prop :=
  ∃ before skipped after, source = before ++ skipped ++ after ∧ Text.byteLength before = start ∧
    Text.byteLength (before ++ skipped) = stop ∧ IsGap after skipped

/-! ## Tokens -/

/-- A token stands in a text: it is no end mark, and from its first byte to its last it covers the
characters that it spells, of which there is at least one. -/
structure Stands (source : List Char) (t : Token) : Prop where
  kind : t.kind ≠ .finish
  nonempty : t.span.start < t.span.stop
  start : Text.Boundary source t.span.start
  stop : Text.Boundary source t.span.stop
  text : Text.slice? source t.span.start t.span.stop = some t.text.toList

/-- Nothing but gaps from byte `start` to the first token, between tokens, and up to byte `stop`. -/
def GapsBetween (source : List Char) (start stop : Nat) : List Token → Prop
  | [] => GapAt source start stop
  | t :: ts => GapAt source start t.span.start ∧ GapsBetween source t.span.stop stop ts

/-- Tokens stand in a text one behind the other, with only gaps in front of, between and behind
them. -/
structure Lie (source : List Char) (ts : List Token) : Prop where
  stand : ∀ t ∈ ts, Stands source t
  ascend : ts.Pairwise fun t u => t.span.start < u.span.start ∧ t.span.stop ≤ u.span.start
  gaps : GapsBetween source 0 (Text.byteLength source) ts

/-! ## Faults -/

/-- A string that is not closed behind its opening quote: a backslash takes the character behind
it along, and no other character is the quote. -/
inductive Unclosed (quote : Char) : List Char → Prop where
  | nil : Unclosed quote []
  | backslash : Unclosed quote ['\\']
  | escaped {e : Char} {cs : List Char} : Unclosed quote cs → Unclosed quote ('\\' :: e :: cs)
  | plain {c : Char} {cs : List Char} :
      c ≠ quote → c ≠ '\\' → Unclosed quote cs → Unclosed quote (c :: cs)

theorem unclosed_of_quotedTail? {quote : Char} {cs : List Char} (h : quotedTail? quote cs = none) :
    Unclosed quote cs := by
  fun_induction quotedTail? quote cs with
  | case1 => exact .nil
  | case2 => cases h
  | case3 => exact .backslash
  | case4 e cs _ ih => exact .escaped (ih (Option.map_eq_none_iff.1 h))
  | case5 c cs hquote hbackslash ih =>
      exact .plain hquote hbackslash (ih (Option.map_eq_none_iff.1 h))

/-- What the lexer refuses: a string without an end, or a flag without a name, up to the end of its
word. -/
inductive Faulty : List Char → SyntaxFault → Expectation → Prop where
  | string {quote : Char} {cs : List Char} :
      quote = '"' ∨ quote = '\'' → Unclosed quote cs →
        Faulty (quote :: cs) .unterminatedString (.closingQuote quote)
  | flag {name rest : List Char} :
      isFlagName name = false → (∀ c ∈ rest.head?, stopsWord true c = true) →
        Faulty ('-' :: '-' :: (name ++ rest)) (.invalidFlag (String.ofList ('-' :: '-' :: name)))
          .flagName

/-- Where the lexer fails: behind some tokens and a gap, at what it refuses. -/
def FailsAt (source : List Char) (e : SyntaxError) : Prop :=
  ∃ ts p before after, Reads (.start source) ts p ∧ GapAt source p.offset e.position ∧
    source = before ++ after ∧ Text.byteLength before = e.position ∧
      Faulty after e.fault e.expected

/-! ## Turns -/

/-- The place is one of the text, behind the characters that have been read. -/
def Place.In (source : List Char) (p : Place) : Prop :=
  ∃ before, source = before ++ p.left ∧ Text.byteLength before = p.offset

theorem Place.in_start (source : List Char) : (Place.start source).In source :=
  ⟨[], rfl, rfl⟩

theorem GapAt.le {source : List Char} {start stop : Nat} (h : GapAt source start stop) :
    start ≤ stop := by
  obtain ⟨before, skipped, after, -, rfl, rfl, -⟩ := h
  rw [Text.byteLength_append]
  exact Nat.le_add_right _ _

theorem classify_ne_finish {word : List Char} : classify word ≠ .ok .finish := by
  unfold classify
  split <;> split <;> simp

theorem Lexes.ne_finish {inList : Bool} {cs taken rest : List Char} {kind : Kind}
    (h : Lexes inList cs kind taken rest) : kind ≠ .finish := by
  cases h with
  | word _ _ hkind =>
      rintro rfl
      exact classify_ne_finish hkind
  | _ => simp

/-- The gap in front of what comes next. -/
theorem Place.In.gapAt {source skipped cs : List Char} {p : Place} (hp : p.In source)
    (h : gap false p.left = (skipped, cs)) :
    ∃ before, source = before ++ skipped ++ cs ∧ Text.byteLength before = p.offset ∧
      GapAt source p.offset (p.offset + Text.byteLength skipped) := by
  obtain ⟨before, rfl, hbefore⟩ := hp
  have hsplit := append_of_gap h
  have hgap := (isGap_of_gap p.left).1
  rw [h] at hgap
  rw [← hsplit, ← List.append_assoc]
  refine ⟨before, rfl, hbefore, before, skipped, cs, rfl, hbefore, ?_, hgap⟩
  rw [Text.byteLength_append, hbefore]

/-- A turn goes over a gap and a token. -/
theorem Takes.lies {source : List Char} {p q : Place} {t : Token} (hp : p.In source)
    (h : Takes p t q) :
    q.In source ∧ q.offset = t.span.stop ∧ Stands source t ∧ GapAt source p.offset t.span.start := by
  obtain @⟨skipped, cs, taken, rest, kind, hgap, hlexes⟩ := h
  obtain ⟨before, hsource, hbefore, hgapAt⟩ := hp.gapAt hgap
  have hsplit : source = before ++ skipped ++ taken ++ rest := by
    rw [hsource, ← hlexes.append, List.append_assoc _ taken]
  have hstart : Text.byteLength (before ++ skipped) = p.offset + Text.byteLength skipped := by
    rw [Text.byteLength_append, hbefore]
  have hstop : Text.byteLength (before ++ skipped ++ taken) =
      p.offset + Text.byteLength skipped + Text.byteLength taken := by
    rw [Text.byteLength_append, hstart]
  refine ⟨⟨_, hsplit, hstop⟩, rfl, ?_, hgapAt⟩
  constructor
  · exact hlexes.ne_finish
  · exact Nat.lt_add_of_pos_right (Text.byteLength_pos hlexes.ne_nil)
  · exact ⟨_, _, hsource, hstart⟩
  · exact ⟨_, _, hsplit, hstop⟩
  · have hslice := Text.slice?_append (before ++ skipped) taken rest
    rw [← hsplit, hstart, hstop] at hslice
    exact hslice.trans (congrArg some String.toList_ofList.symm)

/-- Turns go over tokens that stand one behind the other. -/
theorem Reads.lies {source : List Char} {p q : Place} {ts : List Token} (hp : p.In source)
    (h : Reads p ts q) :
    q.In source ∧ (∀ t ∈ ts, Stands source t ∧ p.offset ≤ t.span.start) ∧
      (ts.Pairwise fun t u => t.span.start < u.span.start ∧ t.span.stop ≤ u.span.start) ∧
        ∀ stop, GapAt source q.offset stop → GapsBetween source p.offset stop ts := by
  induction h with
  | nil => exact ⟨hp, fun _ ht => absurd ht List.not_mem_nil, .nil, fun _ hgap => hgap⟩
  | @cons p q r t ts ht _ ih =>
      obtain ⟨hq, hoffset, hstands, hgap⟩ := ht.lies hp
      obtain ⟨hr, hstand, hascend, hgaps⟩ := ih hq
      have hnonempty := hstands.nonempty
      refine ⟨hr, ?_, ?_, fun stop hstop => ⟨hgap, hoffset ▸ hgaps stop hstop⟩⟩
      · refine List.forall_mem_cons.2 ⟨⟨hstands, hgap.le⟩, fun u hu => ?_⟩
        obtain ⟨hustands, hle⟩ := hstand u hu
        have hle' := ht.advances.1
        exact ⟨hustands, by omega⟩
      · refine List.pairwise_cons.2 ⟨fun u hu => ?_, hascend⟩
        have hle := (hstand u hu).2
        exact ⟨by omega, by omega⟩

/-- The end mark stands at the end of the text. -/
theorem Place.Ends.lies {source : List Char} {p : Place} {stop : Nat} (hp : p.In source)
    (h : p.Ends stop) : stop = Text.byteLength source ∧ GapAt source p.offset stop := by
  obtain ⟨skipped, hgap, rfl⟩ := h
  obtain ⟨before, hsource, hbefore, hgapAt⟩ := hp.gapAt hgap
  refine ⟨?_, hgapAt⟩
  rw [hsource, List.append_nil, Text.byteLength_append, hbefore]

theorem stopsWord_true {inList : Bool} {c : Char} (h : stopsWord inList c = true) :
    stopsWord true c = true := by
  cases inList with
  | true => exact h
  | false =>
      simp only [stopsWord, Bool.false_and, Bool.or_false] at h
      simp [stopsWord, h]

theorem Refuses.faulty {inList : Bool} {cs : List Char} {fault : SyntaxFault}
    {expected : Expectation} (h : Refuses inList cs fault expected) : Faulty cs fault expected := by
  cases h with
  | quoted hquote hnone => exact .string hquote (unclosed_of_quotedTail? hnone)
  | @flag c cs _ hstop _ hfault =>
      obtain ⟨name, hword, hname, rfl⟩ := classify_eq_error hfault
      have hsplit : '-' :: '-' :: (name ++ (wordPieces inList (c :: cs)).2) = c :: cs := by
        have happend := wordPieces_append inList (c :: cs)
        change wordChars inList (c :: cs) ++ _ = _ at happend
        rwa [hword] at happend
      rw [hword, ← hsplit]
      exact .flag hname fun d hd => stopsWord_true (stopsWord_of_mem_head? inList (c :: cs) d hd)

end Token

open Token

/-- From every place in a text a turn goes ahead, unless the reading is at its end there. The tokens
of a text stand in it one behind the other, all but the end mark with something to spell, and with
only gaps between them; where there are no tokens, the text is refused at the byte that the error
names. -/
theorem tokenize_lossless (source : String) :
    (∀ p : Place,
      (∃ t q, Takes p t q ∧ p.tokens = q.tokens.map (t :: ·) ∧ p.offset < q.offset ∧
        q.left.length < p.left.length) ∨
      (∃ stop, p.Ends stop ∧ p.tokens = .ok [⟨.finish, "", ⟨stop, stop⟩⟩]) ∨
      ∃ e, p.Fails e ∧ p.tokens = .error e) ∧
    (∀ ts, tokenize source = .ok ts →
      ∃ us, ts = us ++ [⟨.finish, "", ⟨Text.byteLength source.toList, Text.byteLength source.toList⟩⟩] ∧
        Lie source.toList us) ∧
    ∀ e, tokenize source = .error e → FailsAt source.toList e := by
  have hstart := Place.in_start source.toList
  refine ⟨fun p => ?_, fun ts h => ?_, fun e h => ?_⟩
  · rcases p.takes_or_stops with ⟨t, q, ht⟩ | ⟨stop, hends⟩ | ⟨e, hfails⟩
    · exact .inl ⟨t, q, ht, Place.tokens_of_takes ht, ht.advances⟩
    · exact .inr (.inl ⟨stop, hends, Place.tokens_of_ends hends⟩)
    · exact .inr (.inr ⟨e, hfails, Place.tokens_of_fails hfails⟩)
  · obtain ⟨us, q, stop, hreads, hends, rfl⟩ := (Place.tokens_eq_ok_iff (p := .start source.toList)).1 h
    obtain ⟨hq, hstand, hascend, hgaps⟩ := hreads.lies hstart
    obtain ⟨rfl, hgap⟩ := hends.lies hq
    exact ⟨us, rfl, fun t ht => (hstand t ht).1, hascend, hgaps _ hgap⟩
  · obtain ⟨us, q, hreads, hfails⟩ := (Place.tokens_eq_error_iff (p := .start source.toList)).1 h
    obtain @⟨skipped, cs, fault, expected, hgap, hrefuses⟩ := hfails
    obtain ⟨before, hsource, hbefore, hgapAt⟩ := (hreads.lies hstart).1.gapAt hgap
    refine ⟨us, q, before ++ skipped, cs, hreads, hgapAt, hsource, ?_, hrefuses.faulty⟩
    rw [Text.byteLength_append, hbefore]

end Sluice
