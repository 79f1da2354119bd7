import Sluice.Proofs.Tree.Stops

/-!
# Failing where the reader stops

The reader decides by what it has taken and by the next token: where it stops it fails, whatever
stands behind that token (`Stops.fails`). What it has taken begins a line, and with the next token it
begins none (`Stops.not_begun`).
-/

namespace Sluice.Tree

open Grammar

/-- The reader of a part fails. -/
def Part.Fails (source : String) (ts : List Token) (e : SyntaxError) : Part → Prop
  | item column => listItem column ts = .error e
  | items column => listItems column ts = .error e
  | call stop => ∀ name span, span.stop = stop → Tree.call source name span ts = .error e
  | stage => Tree.stage source ts = .error e
  | chain => Tree.chain source ts = .error e
  | whole => wholeChain source ts = .error e
  | line => Tree.line source ts = .error e

section Lists

variable {column : Nat}

theorem orClose_finish {t : Token} (h : t.kind = .finish) (expected : Expectation) :
    orClose column (some t) expected = .listClose column := by
  simp [orClose, atEnd, h]

theorem orClose_of_ne {t : Token} (h : t.kind ≠ .finish) (expected : Expectation) :
    orClose column (some t) expected = expected := by
  simp [orClose, atEnd, h]

theorem listOperand_fails {t : Token} (h : t.kind.isOperand = false) (rest : List Token) :
    listOperand column t rest =
      .error (unexpected (t :: rest) (orClose column (some t) .listItem)) := by
  unfold listOperand
  rw [h, if_neg Bool.false_ne_true]
  split
  · next hk => rw [orClose_finish hk]
  · next hk => rw [orClose_of_ne hk]

theorem listItem_lacksOperand {ts : List Token} (h : ∀ t ∈ ts.head?, t.kind.isOperand = false) :
    listItem column ts = .error (unexpected ts (orClose column ts.head? .listItem)) := by
  match ts with
  | [] => rfl
  | [t] => exact listOperand_fails (h t rfl) []
  | t :: e :: rest =>
      have ht := h t rfl
      have hkey : ¬ (t.kind.isWord = true ∧ e.kind = .equals) := by
        rintro ⟨hword, -⟩
        cases hk : t.kind <;> simp [hk, Token.Kind.isWord, Token.Kind.isOperand] at ht hword
      rw [listItem_operand hkey]
      exact listOperand_fails ht (e :: rest)

theorem listItem_lacksValue {k e : Token} (hk : k.kind.isWord = true) (he : e.kind = .equals)
    {ts : List Token} (h : ∀ t ∈ ts.head?, t.kind.isOperand = false) :
    listItem column (k :: e :: ts) = .error (unexpected ts (.valueFor k.text)) := by
  cases ts with
  | nil => simp [listItem, hk, he]
  | cons v after => simp [listItem, hk, he, h v rfl]

theorem listItems_of_item {ts : List Token} {e : SyntaxError} (h : listItem column ts = .error e) :
    listItems column ts = .error e := by
  rw [listItems, h]

theorem listItems_nil :
    listItems column [] = .error (unexpected [] (.listClose column)) :=
  listItems_of_item rfl

theorem listItems_separator {us ts : List Token} {os : List Operand} {fs : List FlagNode}
    (hus : ReadsItem us os fs) (h : ∀ t ∈ ts.head?, t.kind ≠ .comma ∧ t.kind ≠ .closeParen)
    (hkey : ∀ k, us = [k] → k.kind.isWord = true → ∀ t ∈ ts.head?, t.kind ≠ .equals) :
    listItems column (us ++ ts) =
      .error (unexpected ts (orClose column ts.head? .listSeparator)) := by
  have hno : ∀ k, us = [k] → k.kind.isWord = true → ¬ startsWith .equals ts = true := by
    intro k hk hword hequals
    cases ts with
    | nil => cases hequals
    | cons t ts => exact hkey k hk hword t rfl ((startsWith_cons ..).1 hequals)
  obtain ⟨item, hlt, hi, -, -⟩ := listItem_complete column hus hno
  rw [listItems, hi]
  cases ts with
  | nil => rfl
  | cons t ts =>
      obtain ⟨hcomma, hclose⟩ := h t rfl
      dsimp only
      split
      · next hk => exact absurd hk hcomma
      · next hk => exact absurd hk hclose
      · next hk => rw [List.head?_cons, orClose_finish hk]
      · next hk => rw [List.head?_cons, orClose_of_ne hk]

theorem listItems_more {us ts : List Token} {c : Token} {os : List Operand} {fs : List FlagNode}
    {e : SyntaxError} (hus : ReadsItem us os fs) (hc : c.kind = .comma)
    (h : listItems column ts = .error e) : listItems column (us ++ c :: ts) = .error e := by
  have hno : ∀ k, us = [k] → k.kind.isWord = true → ¬ startsWith .equals (c :: ts) = true := by
    simp [startsWith_cons, hc]
  obtain ⟨item, hlt, hi, -, -⟩ := listItem_complete column hus hno
  rw [listItems, hi]
  simp only [hc, h]
  rfl

end Lists

section Parts

variable {source : String}

theorem call_list {name : String} {span : Span} {p : Token} {ts : List Token} {e : SyntaxError}
    (hp : p.kind = .openParen) (hstart : p.span.start = span.stop)
    (hclose : ∀ t ∈ ts.head?, t.kind ≠ .closeParen)
    (h : listItems (p.span.column source) ts = .error e) :
    call source name span (p :: ts) = .error e := by
  have hlist : argumentList source span.stop (p :: ts) = .error e := by
    cases ts with
    | nil =>
        rw [listItems_nil] at h
        simp only [argumentList, hp, hstart, and_self, if_true]
        exact congrArg Except.error (Except.error.inj h)
    | cons u after => simp [argumentList, hp, hstart, hclose u rfl, h, Except.map]
  rw [call, hlist]

theorem call_behind {name : String} {span : Span} {ls ts rest : List Token} {os os' : List Operand}
    {fs fs' : List FlagNode} (hls : ReadsList span.stop ls os fs)
    (hts : ReadsArguments true ts os' fs') (hrest : EndsArguments rest)
    (hlist : ls = [] → ts = [] → ¬ BeginsWithList span.stop rest) (hends : endsStage rest = false) :
    call source name span (ls ++ ts ++ rest) =
      .error (unexpected rest
        (if startsWith .openParen rest then .pipeBeforeGroup else .argument)) := by
  obtain ⟨h₁, hlist⟩ := argumentList_complete source hls fun hnil =>
    not_beginsWithList hts (hlist hnil)
  obtain ⟨h₂, hargs⟩ := arguments_complete hts hrest (stopAfter span.stop ls)
  rw [List.append_assoc, call, hlist]
  dsimp only
  rw [hargs]
  dsimp only
  rw [hends, if_neg Bool.false_ne_true]
  split <;> rfl

theorem stage_lacksCommand {ts : List Token}
    (h : ∀ t ∈ ts.head?, t.kind.isWord = false ∧ t.kind ≠ .openParen) :
    stage source ts = .error (unexpected ts .commandOrGroup) := by
  cases ts with
  | nil => rw [stage]
  | cons t ts =>
      obtain ⟨hword, hopen⟩ := h t rfl
      rw [stage]
      split
      · next name hk => simp [hk, Token.Kind.isWord] at hword
      · next hk => exact absurd hk hopen
      · rfl

theorem stage_of_call {head : Token} {name : String} {ts : List Token} {e : SyntaxError}
    (hk : head.kind = .word name) (h : call source name head.span ts = .error e) :
    stage source (head :: ts) = .error e := by
  rw [stage]
  split
  · next name' hk' =>
    obtain rfl : name = name' := Token.Kind.word.inj (hk.symm.trans hk')
    rw [h]
    rfl
  · next hk' => simp [hk] at hk'
  · next hno _ => exact absurd hk (hno name)

section Groups

variable {p : Token} {ts : List Token}

theorem stage_content (hp : p.kind = .openParen) (hclose : startsWith .closeParen ts = true) :
    stage source (p :: ts) = .error (unexpected ts .groupContent) := by
  rw [stage]
  split
  · next name hk => simp [hp] at hk
  · rw [if_pos hclose]
  · next hno => exact absurd hp hno

theorem stage_inner (hp : p.kind = .openParen) (hclose : ¬ startsWith .closeParen ts = true)
    {e : SyntaxError} (h : chain source ts = .error e) : stage source (p :: ts) = .error e := by
  rw [stage]
  split
  · next name hk => simp [hp] at hk
  · rw [if_neg hclose, h]
  · next hno => exact absurd hp hno

theorem stage_unclosed (hp : p.kind = .openParen) (hclose : ¬ startsWith .closeParen ts = true)
    {c : Chain} {r : List Token} (h : ∃ h, chain source ts = .ok (c, ⟨r, h⟩))
    (hr : atEnd r.head? = true) :
    stage source (p :: ts) = .error (unexpected r (.groupClose (p.span.column source))) := by
  obtain ⟨hlt, h⟩ := h
  rw [stage]
  split
  · next name hk => simp [hp] at hk
  · rw [if_neg hclose, h]
    cases r with
    | nil => rfl
    | cons u after =>
        have hu : u.kind ≠ .closeParen := by
          intro hk
          simp [atEnd, hk] at hr
        dsimp only
        rw [if_neg hu]
  · next hno => exact absurd hp hno

theorem stage_groupFlag (hp : p.kind = .openParen) (hclose : ¬ startsWith .closeParen ts = true)
    {c : Chain} {q : Token} {after r : List Token} {fs : List FlagNode} {stop : Nat}
    (h : ∃ h, chain source ts = .ok (c, ⟨q :: after, h⟩)) (hq : q.kind = .closeParen)
    (hf : ∃ h, groupFlags q.span.stop after = (fs, stop, ⟨r, h⟩)) (hr : endsStage r = false) :
    stage source (p :: ts) = .error (unexpected r .pipeOrGroupFlag) := by
  obtain ⟨hlt, h⟩ := h
  obtain ⟨hle, hf⟩ := hf
  rw [stage]
  split
  · next name hk => simp [hp] at hk
  · rw [if_neg hclose, h]
    dsimp only
    rw [if_pos hq, hf]
    dsimp only
    rw [hr, if_neg Bool.false_ne_true]
  · next hno => exact absurd hp hno

end Groups

theorem chain_first {ts : List Token} {e : SyntaxError} (h : stage source ts = .error e) :
    chain source ts = .error e := by
  rw [chain, h]

theorem chainTail_later {left : Chain} {b : Token} {ts : List Token} {e : SyntaxError}
    (hb : b.kind = .pipe) (h : stage source ts = .error e) :
    chainTail source left (b :: ts) = .error e := by
  rw [chainTail, if_pos hb, h]

/-- Behind the tokens of a chain the reader fails as it would from the chain. -/
theorem chain_fails : ∀ {left : Chain} {us : List Token}, ReadsChain true us left →
    ∀ {r : List Token} {e : SyntaxError}, endsStage r = true →
      chainTail source left r = .error e → chain source (us ++ r) = .error e
  | .stage _, _, .stage hs, r, e, hr, ht => by
    obtain ⟨hlt, hs⟩ := stage_complete source hs hr
    rw [chain, hs]
    dsimp only
    rw [ht]
    rfl
  | .pipe left right, _, .pipe hl hb hs, r, e, hr, ht => by
    rw [List.append_assoc, List.cons_append]
    refine chain_fails hl (endsStage_cons.2 (.inl hb)) ?_
    obtain ⟨hlt, hs⟩ := stage_complete source hs hr
    rw [chainTail, if_pos hb, hs]
    dsimp only
    rw [ht]
    rfl

theorem wholeChain_within {ts : List Token} {e : SyntaxError} (h : chain source ts = .error e) :
    wholeChain source ts = .error e := by
  rw [wholeChain, h]

theorem wholeChain_behind {us : List Token} {c : Chain} (hus : ReadsChain true us c) {q : Token}
    (hq : q.kind = .closeParen) (rest : List Token) :
    wholeChain source (us ++ q :: rest) = .error (unexpected (q :: rest) .openingParen) := by
  have hpipe : ¬ startsWith .pipe (q :: rest) = true := by simp [startsWith_cons, hq]
  obtain ⟨hlt, hc⟩ := chain_complete source hus (endsStage_cons.2 (.inr (.inl hq)))
    (chainTail_end source c hpipe)
  rw [wholeChain, hc]
  simp [startsWith, hq]

end Parts

theorem isEmpty_or_startsWith_finish (ts : List Token) :
    (ts.isEmpty || startsWith .finish ts) = atEnd ts.head? := by
  cases ts <;> rfl

theorem not_startsWith_append {kind : Token.Kind} {us rest : List Token}
    (h : ∀ t ∈ us.head?, t.kind ≠ kind) (h' : us = [] → ∀ t ∈ rest.head?, t.kind ≠ kind) :
    ¬ startsWith kind (us ++ rest) = true := by
  intro hstarts
  cases us with
  | nil =>
      cases rest with
      | nil => cases hstarts
      | cons t rest => exact h' rfl t rfl ((startsWith_cons ..).1 hstarts)
  | cons t us => exact h t rfl ((startsWith_cons ..).1 hstarts)

theorem atEnd_append {us rest : List Token} (hus : NoFinish us)
    (h : us = [] → atEnd rest.head? = false) : atEnd (us ++ rest).head? = false := by
  cases us with
  | nil => exact h rfl
  | cons t us => simpa [atEnd] using (noFinish_cons.1 hus).1

theorem Stops.fails {source : String} {part : Part} {us : List Token} {next : Option Token}
    {expected : Expectation} (h : Stops source part us next expected) :
    ∀ rest : List Token, rest.head? = next →
      part.Fails source (us ++ rest) (unexpected rest expected) := by
  induction h with
  | operand hnext =>
      rintro rest rfl
      exact listItem_lacksOperand hnext
  | value hk he hnext =>
      rintro rest rfl
      exact listItem_lacksValue hk he hnext
  | item _ ih =>
      intro rest hrest
      exact listItems_of_item (ih rest hrest)
  | separator hus hnext hkey =>
      rintro rest rfl
      exact listItems_separator hus hnext hkey
  | more hus hc _ ih =>
      intro rest hrest
      rw [List.append_assoc, List.cons_append]
      exact listItems_more hus hc (ih rest hrest)
  | @list stop p us next expected hp hstart hstops hclose ih =>
      rintro rest rfl name span rfl
      refine call_list hp hstart ?_ (ih rest rfl)
      cases us with
      | nil => exact hclose rfl
      | cons u us => exact hstops.items_ne_close
  | @argument stop ls ts os os' fs fs' t hls hts hk =>
      rintro rest hrest name span rfl
      obtain ⟨rest, rfl⟩ := List.head?_eq_some_iff.1 hrest
      have hopen : t.kind ≠ .openParen := by rcases hk with hk | hk <;> simp [hk]
      have hcall := @call_behind source name span ls ts (t :: rest) _ _ _ _ hls hts ?_ ?_ ?_
      · rwa [if_neg (mt (startsWith_cons ..).1 hopen)] at hcall
      · intro u hu
        obtain rfl := Option.some.inj hu
        rcases hk with hk | hk <;> simp [hk, Token.Kind.isOperand]
      · rintro - - ⟨u, after, heq, hu, -⟩
        obtain ⟨rfl, -⟩ := List.cons.inj heq
        exact hopen hu
      · rcases hk with hk | hk <;> simp [endsStage, startsWith, hk]
  | @apart stop ls ts os os' fs fs' t hls hts hk hstart =>
      rintro rest hrest name span rfl
      obtain ⟨rest, rfl⟩ := List.head?_eq_some_iff.1 hrest
      have hcall := @call_behind source name span ls ts (t :: rest) _ _ _ _ hls hts ?_ ?_ ?_
      · rwa [if_pos ((startsWith_cons ..).2 hk)] at hcall
      · intro u hu
        obtain rfl := Option.some.inj hu
        simp [hk, Token.Kind.isOperand]
      · rintro hls hts ⟨u, after, heq, -, hu⟩
        obtain ⟨rfl, -⟩ := List.cons.inj heq
        exact hstart hls hts hu
      · simp [endsStage, startsWith, hk]
  | command hnext =>
      rintro rest rfl
      exact stage_lacksCommand hnext
  | call hk _ ih =>
      intro rest hrest
      exact stage_of_call hk (ih rest hrest _ _ rfl)
  | content hp hq =>
      intro rest hrest
      obtain ⟨rest, rfl⟩ := List.head?_eq_some_iff.1 hrest
      exact stage_content hp ((startsWith_cons ..).2 hq)
  | inner hp hstops hclose ih =>
      rintro rest rfl
      exact stage_inner hp (not_startsWith_append hstops.chain_ne_close hclose) (ih rest rfl)
  | unclosed hp hus hend =>
      rintro rest rfl
      have hends : endsStage rest = true := by
        cases rest with
        | nil => rfl
        | cons t rest => exact endsStage_cons.2 (.inr (.inr (by simpa [atEnd] using hend)))
      have hpipe : ¬ startsWith .pipe rest = true := by
        cases rest with
        | nil => exact Bool.false_ne_true
        | cons t rest =>
            have ht : t.kind = .finish := by simpa [atEnd] using hend
            simp [startsWith_cons, ht]
      have hinner := chain_complete source hus hends (chainTail_end source _ hpipe)
      refine stage_unclosed hp (not_startsWith_append (ReadsChain.head_ne_close hus) ?_) hinner hend
      exact fun hnil => absurd hnil (ReadsChain.ne_nil hus)
  | @groupFlag p q t us vs c fs hp hus hq hvs hends hflag hlast =>
      intro rest hrest
      obtain ⟨rest, rfl⟩ := List.head?_eq_some_iff.1 hrest
      have hpipe : ¬ startsWith .pipe (q :: (vs ++ t :: rest)) = true := by
        simp [startsWith_cons, hq]
      have hinner := chain_complete source hus (endsStage_cons.2 (.inr (.inl hq)))
        (chainTail_end source c hpipe)
      have hflags := groupFlags_complete hvs (r := t :: rest) ?_ ?_ q.span.stop
      · rw [List.cons_append, List.append_assoc, List.cons_append]
        refine stage_groupFlag hp (not_startsWith_append (ReadsChain.head_ne_close hus) ?_) hinner hq hflags hends
        exact fun hnil => absurd hnil (ReadsChain.ne_nil hus)
      · intro u hu
        obtain rfl := Option.some.inj hu
        exact hflag
      · intro f hf hvalue
        rw [beginsWithOperand_cons, hlast f hf hvalue]
        exact Bool.false_ne_true
  | first _ ih =>
      intro rest hrest
      exact chain_first (ih rest hrest)
  | later hus hb _ ih =>
      intro rest hrest
      rw [List.append_assoc, List.cons_append]
      exact chain_fails hus (endsStage_cons.2 (.inl hb)) (chainTail_later hb (ih rest hrest))
  | within _ ih =>
      intro rest hrest
      exact wholeChain_within (ih rest hrest)
  | behind hus hq =>
      intro rest hrest
      obtain ⟨rest, rfl⟩ := List.head?_eq_some_iff.1 hrest
      exact wholeChain_behind hus hq rest
  | nothing hend =>
      rintro rest rfl
      change line source rest = _
      rw [← isEmpty_or_startsWith_finish] at hend
      unfold line
      rw [if_pos hend]
  | expression ht hname hq hend =>
      rintro rest rfl
      change line source (_ :: _ :: rest) = _
      rw [line_binding source ht hq, isEmpty_or_startsWith_finish, hend]
      simp [hname]
  | @bound t q name us next expected ht hname hq hstops hend ih =>
      rintro rest rfl
      have hwhole : wholeChain source (us ++ rest) = .error _ := ih rest rfl
      change line source (t :: q :: (us ++ rest)) = _
      rw [line_binding source ht hq, hname, isEmpty_or_startsWith_finish,
        atEnd_append hstops.noFinish hend, hwhole]
      rfl
  | @free us next expected hstops hend hbinding ih =>
      rintro rest rfl
      have hwhole : wholeChain source (us ++ rest) = .error _ := ih rest rfl
      have hsome : ¬ ((us ++ rest).isEmpty || startsWith .finish (us ++ rest)) = true := by
        rw [isEmpty_or_startsWith_finish, atEnd_append hstops.noFinish hend]
        exact Bool.false_ne_true
      change line source (us ++ rest) = _
      rw [line_chain source hsome (mt hstops.beginsBinding hbinding), hwhole]
      rfl

/-- No line goes on with the token at which the reader stops. -/
theorem Stops.not_begun {source : String} {us : List Token} {t : Token} {expected : Expectation}
    (h : Stops source .line us (some t) expected) : ¬ Begun (us ++ [t]) := by
  rintro ⟨vs, tree, hreads⟩
  obtain ⟨tree', hgreedy⟩ := hreads.greedy
  have hok := line_complete source hgreedy
  have hfails : line source (us ++ t :: vs) = .error _ := h.fails (t :: vs) rfl
  rw [List.append_assoc, List.singleton_append, hfails] at hok
  cases hok

end Sluice.Tree
