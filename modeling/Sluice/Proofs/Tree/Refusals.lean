import Sluice.Proofs.Tree.Failures

/-!
# Where the reader fails it has stopped

Part by part, what a reader has taken and what it fails at is one of the stops of the grammar. A line
fails at a stop, unless a value would be bound to a name that is no identifier (`line_stops`).
-/

namespace Sluice.Tree

open Grammar

/-- The reader of a part has stopped among tokens, and the error is about the next one. -/
def StopsAmong (source : String) (part : Part) (ts : List Token) (e : SyntaxError) : Prop :=
  ∃ us rest expected, ts = us ++ rest ∧ e = unexpected rest expected ∧
    Stops source part us rest.head? expected

theorem stopsAmong_here {source : String} {part : Part} {ts : List Token} {expected : Expectation}
    (h : Stops source part [] ts.head? expected) :
    StopsAmong source part ts (unexpected ts expected) :=
  ⟨[], ts, expected, rfl, rfl, h⟩

section Lists

variable (source : String) {column : Nat}

theorem listOperand_stops {t : Token} {rest : List Token} {e : SyntaxError}
    (h : listOperand column t rest = .error e) :
    StopsAmong source (.item column) (t :: rest) e := by
  cases hk : t.kind.isOperand with
  | true =>
      rw [listOperand, if_pos hk] at h
      cases h
  | false =>
      rw [listOperand_fails hk] at h
      cases h
      refine stopsAmong_here (.operand fun u hu => ?_)
      obtain rfl := Option.some.inj hu
      exact hk

theorem listItem_stops {ts : List Token} {e : SyntaxError} (h : listItem column ts = .error e) :
    StopsAmong source (.item column) ts e := by
  match ts with
  | [] =>
      cases h
      exact stopsAmong_here (.operand (by simp))
  | [t] => exact listOperand_stops source h
  | k :: q :: rest =>
      by_cases hkey : k.kind.isWord = true ∧ q.kind = .equals
      · obtain ⟨hk, hq⟩ := hkey
        by_cases hvalue : ∀ t ∈ rest.head?, t.kind.isOperand = false
        · rw [listItem_lacksValue hk hq hvalue] at h
          cases h
          exact ⟨[k, q], rest, _, rfl, rfl, .value hk hq hvalue⟩
        · cases rest with
          | nil => exact absurd (by simp) hvalue
          | cons v after =>
              have hv : v.kind.isOperand = true := by simpa using hvalue
              simp [listItem, hk, hq, hv] at h
      · rw [listItem_operand hkey] at h
        exact listOperand_stops source h

/-- A word that is an item by itself is not followed by `=`. -/
theorem listItem_word {k : Token} {r : List Token} {item : Operand ⊕ FlagNode}
    {hlt : r.length < (k :: r).length} (h : listItem column (k :: r) = .ok (item, ⟨r, hlt⟩))
    (hk : k.kind.isWord = true) : ∀ t ∈ r.head?, t.kind ≠ .equals := by
  intro t ht he
  obtain ⟨rest, rfl⟩ := List.head?_eq_some_iff.1 ht
  cases rest with
  | nil => simp [listItem, hk, he] at h
  | cons v after =>
      by_cases hv : v.kind.isOperand = true
      · simp only [listItem, hk, he, hv, and_self, if_true] at h
        obtain ⟨-, hrest⟩ := Prod.mk.inj (Except.ok.inj h)
        have hlength := congrArg List.length (Subtype.mk.inj hrest)
        simp only [List.length_cons] at hlength
        omega
      · simp [listItem, hk, he, hv] at h

/-- Behind an item the reader stops at what neither goes on with the list nor closes it. -/
theorem stopsAmong_separator {ts : List Token} {item : Operand ⊕ FlagNode} {r : Rest ts}
    (hi : listItem column ts = .ok (item, r))
    (hr : ∀ t ∈ r.1.head?, t.kind ≠ .comma ∧ t.kind ≠ .closeParen) :
    StopsAmong source (.items column) ts
      (unexpected r.1 (orClose column r.1.head? .listSeparator)) := by
  obtain ⟨us, hts, hus⟩ := listItem_sound hi
  refine ⟨us, r.1, _, hts, rfl, .separator hus hr ?_⟩
  rintro k rfl hk
  obtain ⟨r, hlt⟩ := r
  obtain rfl : ts = k :: r := hts
  exact listItem_word hi hk

theorem listItems_stops (ts : List Token) {e : SyntaxError}
    (h : listItems column ts = .error e) : StopsAmong source (.items column) ts e := by
  fun_induction listItems column ts generalizing e with
  | case1 ts e' hi =>
      cases h
      obtain ⟨us, rest, expected, hts, he, hstops⟩ := listItem_stops source hi
      exact ⟨us, rest, expected, hts, he, .item hstops⟩
  | case2 ts item add hlt hi =>
      cases h
      exact stopsAmong_separator source hi (by simp)
  | case3 ts item add c rest hlt hc _ hi =>
      rename_i ih
      obtain ⟨us, hts, hitem⟩ := listItem_sound hi
      obtain ⟨vs, r, expected, rfl, rfl, hstops⟩ := ih (map_eq_error h)
      refine ⟨us ++ c :: vs, r, expected, ?_, rfl, .more hitem hc hstops⟩
      rw [hts, List.append_assoc]
      rfl
  | case4 => cases h
  | case5 ts item t rest _ ht _ hi =>
      cases h
      have hstops := stopsAmong_separator source hi ?_
      · rwa [List.head?_cons, orClose_finish ht] at hstops
      · intro u hu
        obtain rfl := Option.some.inj hu
        simp [ht]
  | case6 ts item t rest _ hcomma hclose hfinish _ hi =>
      cases h
      have hstops := stopsAmong_separator source hi ?_
      · rwa [List.head?_cons, orClose_of_ne hfinish] at hstops
      · intro u hu
        obtain rfl := Option.some.inj hu
        exact ⟨hcomma, hclose⟩

end Lists

/-! ## Calls -/

theorem arguments_ends (stop : Nat) (ts : List Token) :
    EndsArguments (arguments stop ts).2.1 := by
  fun_induction arguments stop ts with
  | case1 => simp [EndsArguments]
  | case2 stop t ts name hk f r h hf args r' h' ha ih => rwa [ha] at ih
  | case3 stop t ts args r h ha _ ho ih => rwa [ha] at ih
  | case4 stop t ts hflag ho =>
      intro u hu
      obtain rfl := Option.some.inj hu
      exact ⟨by simpa using ho, hflag⟩

/-- Where no list has been read none begins. -/
theorem argumentList_none {source : String} {stop : Nat} {ts : List Token} {args : Arguments}
    (h : ∃ h, argumentList source stop ts = .ok (args, ⟨ts, h⟩)) : ¬ BeginsWithList stop ts := by
  rintro ⟨p, rest, rfl, hp, hstart⟩
  obtain ⟨hle, h⟩ := h
  cases rest with
  | nil => simp [argumentList, hp, hstart] at h
  | cons u after =>
      by_cases hu : u.kind = .closeParen
      · simp only [argumentList, hp, hstart, hu, and_self, if_true] at h
        obtain ⟨-, hrest⟩ := Prod.mk.inj (Except.ok.inj h)
        have hlength := congrArg List.length (Subtype.mk.inj hrest)
        simp only [List.length_cons] at hlength
        omega
      · simp only [argumentList, hp, hstart, hu, and_self, if_true, if_false] at h
        obtain ⟨⟨args', r⟩, -, heq⟩ := map_eq_ok h
        obtain ⟨-, hrest⟩ := Prod.mk.inj heq
        have hlt := r.2
        rw [Subtype.mk.inj hrest] at hlt
        simp only [List.length_cons] at hlt
        omega

section Calls

variable {source : String}

theorem argumentList_stops {stop : Nat} {ts : List Token} {e : SyntaxError}
    (h : argumentList source stop ts = .error e) : StopsAmong source (.call stop) ts e := by
  match ts with
  | [] => cases h
  | p :: rest =>
      by_cases hp : p.kind = .openParen ∧ p.span.start = stop
      · have hlist : listItems (p.span.column source) rest = .error e ∧
            ∀ t ∈ rest.head?, t.kind ≠ .closeParen := by
          cases rest with
          | nil =>
              simp only [argumentList, hp, and_self, if_true] at h
              cases h
              exact ⟨listItems_nil, by simp⟩
          | cons u after =>
              by_cases hu : u.kind = .closeParen
              · simp [argumentList, hp, hu] at h
              · simp only [argumentList, hp, hu, and_self, if_true, if_false] at h
                refine ⟨map_eq_error h, fun t ht => ?_⟩
                obtain rfl := Option.some.inj ht
                exact hu
        obtain ⟨us, r, expected, rfl, he, hstops⟩ := listItems_stops source rest hlist.1
        refine ⟨p :: us, r, expected, rfl, he, .list hp.1 hp.2 hstops ?_⟩
        rintro rfl
        exact hlist.2
      · simp [argumentList, hp] at h

theorem call_stops {name : String} {span : Span} {ts : List Token} {e : SyntaxError}
    (h : call source name span ts = .error e) : StopsAmong source (.call span.stop) ts e := by
  unfold call at h
  cases hl : argumentList source span.stop ts with
  | error e' =>
      simp only [hl] at h
      cases h
      exact argumentList_stops hl
  | ok result =>
      obtain ⟨list, r₁, h₁⟩ := result
      obtain ⟨ls, hts, hls, -⟩ := argumentList_sound hl
      obtain ⟨vs, hr₁, hvs, -⟩ := arguments_sound list.stop r₁
      have hends := arguments_ends list.stop r₁
      simp only [hl] at h
      generalize arguments list.stop r₁ = taken at h hr₁ hvs hends
      obtain ⟨args, r, hle⟩ := taken
      cases r with
      | nil => cases h
      | cons t r =>
          obtain ⟨ho, hflag⟩ := hends t rfl
          have hsplit : ts = (ls ++ vs) ++ t :: r := by
            rw [List.append_assoc]
            exact hts.trans (congrArg (ls ++ ·) hr₁)
          have happens {expected : Expectation} (he : e = unexpected (t :: r) expected)
              (hstops : Stops source (.call span.stop) (ls ++ vs) (some t) expected) :
              StopsAmong source (.call span.stop) ts e := ⟨_, _, _, hsplit, he, hstops⟩
          cases hk : t.kind with
          | equals =>
              simp [endsStage, startsWith, hk] at h
              exact happens h.symm (.argument hls hvs (.inl hk))
          | comma =>
              simp [endsStage, startsWith, hk] at h
              exact happens h.symm (.argument hls hvs (.inr hk))
          | openParen =>
              simp [endsStage, startsWith, hk] at h
              refine happens h.symm (.apart hls hvs hk ?_)
              rintro rfl rfl hstart
              obtain rfl : ts = t :: r := hsplit
              obtain rfl : r₁ = t :: r := hr₁
              exact argumentList_none ⟨h₁, hl⟩ ⟨t, r, rfl, hk, hstart⟩
          | pipe | closeParen | finish => simp [endsStage, startsWith, hk] at h
          | word _ | quoted _ | number _ | dot => simp [hk, Token.Kind.isOperand] at ho
          | flag name => exact absurd hk (hflag name)

end Calls

/-! ## Stages and chains -/

theorem groupFlags_ends (stop : Nat) (ts : List Token) :
    (∀ t ∈ (groupFlags stop ts).2.2.1.head?, ∀ name, t.kind ≠ .flag name) ∧
      ∀ f ∈ (groupFlags stop ts).1.getLast?, f.value = none →
        ¬ BeginsWithOperand (groupFlags stop ts).2.2.1 := by
  fun_induction groupFlags stop ts with
  | case1 => exact ⟨by simp, by simp⟩
  | case2 stop t ts name hk f r h hf fs stop' r' h' ha ih =>
      rw [ha] at ih
      obtain ⟨hflag, hlast⟩ := ih
      refine ⟨hflag, fun g hg hvalue => ?_⟩
      cases fs with
      | cons f' fs => exact hlast g (by rwa [List.getLast?_cons_cons] at hg) hvalue
      | nil =>
          obtain rfl := Option.some.inj hg
          obtain ⟨us, -, -, hnone, -⟩ := flag_sound hk hf
          obtain ⟨vs, hr, hvs, -⟩ := groupFlags_sound f.span.stop r
          rw [ha] at hr hvs
          cases hvs
          obtain rfl : r = r' := hr
          exact hnone hvalue
  | case3 stop t ts hflag =>
      refine ⟨fun u hu => ?_, by simp⟩
      obtain rfl := Option.some.inj hu
      exact hflag

theorem chainTail_stops (source : String) (left : Chain) (ts : List Token) {c : Chain}
    {r : Below ts} (h : chainTail source left ts = .ok (c, r)) : ¬ startsWith .pipe r.1 = true := by
  match ts with
  | [] =>
      rw [chainTail] at h
      cases h
      exact Bool.false_ne_true
  | b :: rest =>
      rw [chainTail] at h
      by_cases hb : b.kind = .pipe
      · rw [if_pos hb] at h
        cases hs : stage source rest with
        | error e => simp [hs] at h
        | ok result =>
            obtain ⟨s, r₁, hlt⟩ := result
            simp only [hs] at h
            obtain ⟨⟨c', r₂⟩, ht, heq⟩ := map_eq_ok h
            cases heq
            exact chainTail_stops source (.pipe left s) r₁ ht
      · rw [if_neg hb] at h
        cases h
        rwa [startsWith_cons]
termination_by ts.length

/-- Behind a chain comes no pipe. -/
theorem chain_stops {source : String} {ts : List Token} {c : Chain} {r : Rest ts}
    (h : chain source ts = .ok (c, r)) : ¬ startsWith .pipe r.1 = true := by
  rw [chain] at h
  cases hs : stage source ts with
  | error e => simp [hs] at h
  | ok result =>
      obtain ⟨s, r₁, hlt⟩ := result
      simp only [hs] at h
      obtain ⟨⟨c', r₂⟩, ht, heq⟩ := map_eq_ok h
      cases heq
      exact chainTail_stops source (.stage s) r₁ ht

/-- A group that a chain does not close ends with the tokens. -/
theorem atEnd_of_chain {source : String} {ts : List Token} {c : Chain} {r : Rest ts}
    (h : chain source ts = .ok (c, r)) (hr : ∀ t ∈ r.1.head?, t.kind ≠ .closeParen) :
    atEnd r.1.head? = true := by
  obtain ⟨us, -, -, hend⟩ := chain_sound source ts h
  have hpipe := chain_stops h
  obtain ⟨r, hlt⟩ := r
  cases r with
  | nil => rfl
  | cons u after =>
      rw [startsWith_cons] at hpipe
      rcases endsStage_cons.1 hend with hk | hk | hk
      · exact absurd hk hpipe
      · exact absurd hk (hr u rfl)
      · simp [atEnd, hk]

mutual

theorem stage_stops (source : String) (ts : List Token) {e : SyntaxError}
    (h : stage source ts = .error e) : StopsAmong source .stage ts e := by
  match ts with
  | [] =>
      rw [stage] at h
      cases h
      exact stopsAmong_here (.command (by simp))
  | t :: rest =>
      rw [stage] at h
      split at h
      · next name hk =>
          obtain ⟨us, r, expected, rfl, he, hstops⟩ := call_stops (map_eq_error h)
          exact ⟨t :: us, r, expected, rfl, he, .call hk hstops⟩
      · next hk =>
          by_cases hclose : startsWith .closeParen rest = true
          · rw [if_pos hclose] at h
            cases h
            cases rest with
            | nil => cases hclose
            | cons q after =>
                exact ⟨[t], q :: after, _, rfl, rfl, .content hk ((startsWith_cons ..).1 hclose)⟩
          · rw [if_neg hclose] at h
            cases hi : chain source rest with
            | error e' =>
                rw [hi] at h
                cases h
                obtain ⟨us, r, expected, rfl, he, hstops⟩ := chain_stopsAmong source rest hi
                refine ⟨t :: us, r, expected, rfl, he, .inner hk hstops ?_⟩
                rintro rfl u hu hkind
                obtain ⟨after, rfl⟩ := List.head?_eq_some_iff.1 hu
                exact hclose ((startsWith_cons ..).2 hkind)
            | ok result =>
                obtain ⟨inner, r, hlt⟩ := result
                obtain ⟨us, hrest, hus, -⟩ := chain_sound source rest hi
                have hrest : rest = us ++ r := hrest
                by_cases hq : ∃ q after, r = q :: after ∧ q.kind = .closeParen
                · obtain ⟨q, after, rfl, hq⟩ := hq
                  obtain ⟨vs, hafter, hvs, -⟩ := groupFlags_sound q.span.stop after
                  obtain ⟨hflag, hlast⟩ := groupFlags_ends q.span.stop after
                  rw [hi] at h
                  dsimp only at h
                  rw [if_pos hq] at h
                  generalize groupFlags q.span.stop after = closed at h hafter hvs hflag hlast
                  obtain ⟨fs, stop, r, h'⟩ := closed
                  cases hend : endsStage r with
                  | true => simp [hend] at h
                  | false =>
                      simp only [hend] at h
                      cases h
                      cases r with
                      | nil => cases hend
                      | cons u r =>
                          have hsplit : t :: rest = (t :: (us ++ q :: vs)) ++ u :: r := by
                            rw [List.cons_append, List.append_assoc, hrest]
                            exact congrArg (t :: ·) (congrArg (us ++ q :: ·) hafter)
                          refine ⟨_, u :: r, _, hsplit, rfl,
                            .groupFlag hk hus hq hvs hend (hflag u rfl) fun f hf hvalue => ?_⟩
                          have hu := hlast f hf hvalue
                          rw [beginsWithOperand_cons] at hu
                          simpa using hu
                · have hr : ∀ u ∈ r.head?, u.kind ≠ .closeParen := by
                    intro u hu hkind
                    obtain ⟨after, rfl⟩ := List.head?_eq_some_iff.1 hu
                    exact hq ⟨u, after, rfl, hkind⟩
                  have hend := atEnd_of_chain hi hr
                  refine ⟨t :: us, r, .groupClose (t.span.column source), ?_, ?_,
                    .unclosed hk hus hend⟩
                  · rw [hrest]
                    rfl
                  · rw [hi] at h
                    cases r with
                    | nil =>
                        cases h
                        rfl
                    | cons u after =>
                        dsimp only at h
                        rw [if_neg (hr u rfl)] at h
                        cases h
                        rfl
      · next hno hopen =>
          cases h
          refine stopsAmong_here (.command fun u hu => ?_)
          obtain rfl := Option.some.inj hu
          refine ⟨?_, hopen⟩
          cases hk : t.kind with
          | word name => exact absurd hk (hno name)
          | _ => rfl
termination_by (ts.length, 0)

theorem chain_stopsAmong (source : String) (ts : List Token) {e : SyntaxError}
    (h : chain source ts = .error e) : StopsAmong source .chain ts e := by
  rw [chain] at h
  cases hs : stage source ts with
  | error e' =>
      simp only [hs] at h
      cases h
      obtain ⟨us, rest, expected, hts, he, hstops⟩ := stage_stops source ts hs
      exact ⟨us, rest, expected, hts, he, .first hstops⟩
  | ok result =>
      obtain ⟨s, r, hlt⟩ := result
      obtain ⟨us, hts, hus, -⟩ := stage_sound source ts hs
      simp only [hs] at h
      rw [hts]
      exact chainTail_stopsAmong source r (.stage hus) (map_eq_error h)
termination_by (ts.length, 1)

theorem chainTail_stopsAmong (source : String) (ts : List Token) {left : Chain}
    {before : List Token} (hleft : ReadsChain true before left) {e : SyntaxError}
    (h : chainTail source left ts = .error e) : StopsAmong source .chain (before ++ ts) e := by
  match ts with
  | [] =>
      rw [chainTail] at h
      cases h
  | b :: rest =>
      rw [chainTail] at h
      by_cases hb : b.kind = .pipe
      · rw [if_pos hb] at h
        cases hs : stage source rest with
        | error e' =>
            simp only [hs] at h
            cases h
            obtain ⟨us, r, expected, rfl, he, hstops⟩ := stage_stops source rest hs
            refine ⟨before ++ b :: us, r, expected, ?_, he, .later hleft hb hstops⟩
            rw [List.append_assoc]
            rfl
        | ok result =>
            obtain ⟨s, r, hlt⟩ := result
            obtain ⟨us, hrest, hus, -⟩ := stage_sound source rest hs
            simp only [hs] at h
            have hstops := chainTail_stopsAmong source r (.pipe hleft hb hus) (map_eq_error h)
            rw [List.append_assoc] at hstops
            rw [hrest]
            exact hstops
      · rw [if_neg hb] at h
        cases h
termination_by (ts.length, 0)

end

/-! ## Lines -/

theorem wholeChain_stops {source : String} {ts : List Token} {e : SyntaxError}
    (h : wholeChain source ts = .error e) : StopsAmong source .whole ts e := by
  unfold wholeChain at h
  cases hc : chain source ts with
  | error e' =>
      simp only [hc] at h
      cases h
      obtain ⟨us, rest, expected, hts, he, hstops⟩ := chain_stopsAmong source ts hc
      exact ⟨us, rest, expected, hts, he, .within hstops⟩
  | ok result =>
      obtain ⟨c, r, hlt⟩ := result
      obtain ⟨us, hts, hus, hend⟩ := chain_sound source ts hc
      have hpipe := chain_stops hc
      simp only [hc] at h
      cases r with
      | nil => cases h
      | cons q after =>
          rcases endsStage_cons.1 hend with hk | hk | hk
          · exact absurd ((startsWith_cons ..).2 hk) hpipe
          · simp [startsWith, hk] at h
            exact ⟨us, q :: after, .openingParen, hts, h.symm, .behind hus hk⟩
          · simp [startsWith, hk] at h

/-- A line fails where the reader stops, or at its first token, where a value would be bound to a name
that is no identifier. -/
theorem line_stops {source : String} {ts : List Token} {e : SyntaxError}
    (h : line source ts = .error e) :
    StopsAmong source .line ts e ∨ ∃ t q rest name, ts = t :: q :: rest ∧ t.kind = .word name ∧
      q.kind = .equals ∧ Text.isIdentifier name = false ∧
        e = ⟨.invalidTarget name, t.span.start, .targetName⟩ := by
  by_cases hend : (ts.isEmpty || startsWith .finish ts) = true
  · unfold line at h
    rw [if_pos hend] at h
    cases h
    rw [isEmpty_or_startsWith_finish] at hend
    exact .inl (stopsAmong_here (.nothing hend))
  have hnone : ∀ {us rest : List Token}, ¬ ((us ++ rest).isEmpty ||
      startsWith .finish (us ++ rest)) = true → us = [] → atEnd rest.head? = false := by
    rintro _ rest h rfl
    rw [← isEmpty_or_startsWith_finish]
    exact Bool.eq_false_iff.2 h
  by_cases hbinding : BeginsBinding ts
  · obtain ⟨t, q, rest, name, rfl, hk, hq⟩ := hbinding
    rw [line_binding source hk hq] at h
    cases hname : Text.isIdentifier name with
    | false =>
        rw [hname] at h
        cases h
        exact .inr ⟨t, q, rest, name, rfl, hk, hq, hname, rfl⟩
    | true =>
        rw [hname, if_neg (by decide)] at h
        split at h
        · next hrest =>
          cases h
          rw [isEmpty_or_startsWith_finish] at hrest
          exact .inl ⟨[t, q], rest, _, rfl, rfl, .expression hk hname hq hrest⟩
        · next hrest =>
          obtain ⟨us, r, expected, rfl, he, hstops⟩ := wholeChain_stops (map_eq_error h)
          exact .inl ⟨t :: q :: us, r, expected, rfl, he, .bound hk hname hq hstops (hnone hrest)⟩
  · rw [line_chain source hend hbinding] at h
    obtain ⟨us, r, expected, rfl, he, hstops⟩ := wholeChain_stops (map_eq_error h)
    refine .inl ⟨us, r, expected, rfl, he, .free hstops (hnone hend) fun h => hbinding ?_⟩
    obtain ⟨t, q, after, name, heq, ht, hq⟩ := h
    cases r with
    | nil => exact ⟨t, q, after, name, by simpa using heq, ht, hq⟩
    | cons u r => exact ⟨t, q, after ++ r, name, by simpa using congrArg (· ++ r) heq, ht, hq⟩

end Sluice.Tree
