import Sluice.Proofs.Tree.Calls

/-!
# The reader accepts the grammar

Tokens that end with their only end mark have a tree exactly when they have a reading by the grammar,
and the tree is the greedy reading (`Tree.line_eq_ok_iff`).

* A chain is read stage by stage: `chainTail` takes what was read so far, and joins from the left.
* A reading takes no end mark, so that the mark the reader stops at is the last token.
-/

namespace Sluice.Tree

open Grammar

/-! ## Stages and chains -/

mutual

theorem stage_sound (source : String) (ts : List Token) {s : Stage} {r : Rest ts}
    (h : stage source ts = .ok (s, r)) :
    ∃ us, ts = us ++ r.1 ∧ ReadsStage true us s ∧ endsStage r.1 = true := by
  match ts with
  | [] =>
      rw [stage] at h
      cases h
  | t :: rest =>
      rw [stage] at h
      split at h
      · next name hk =>
          obtain ⟨⟨c, r'⟩, hc, heq⟩ := map_eq_ok h
          obtain ⟨us, hrest, hus, hend⟩ := call_sound hk hc
          cases heq
          exact ⟨t :: us, congrArg (t :: ·) hrest, .call hus, hend⟩
      · next hk =>
          split at h
          · cases h
          · split at h
            · cases h
            · cases h
            · next inner q after hlt hi =>
                by_cases hq : q.kind = .closeParen
                · obtain ⟨us, hrest, hus, -⟩ := chain_sound source rest hi
                  obtain ⟨vs, hafter, hvs, hstop⟩ := groupFlags_sound q.span.stop after
                  rw [if_pos hq] at h
                  generalize groupFlags q.span.stop after = closed at h hafter hvs hstop
                  obtain ⟨fs, stop, r', h'⟩ := closed
                  by_cases hend : endsStage r' = true
                  · simp only [hend, if_true] at h
                    cases h
                    refine ⟨t :: (us ++ q :: vs), ?_, ?_, hend⟩
                    · rw [List.cons_append, List.append_assoc]
                      exact congrArg (t :: ·) (hrest.trans (congrArg (us ++ q :: ·) hafter))
                    · have hcover : stop = stopAfter t.span.stop (us ++ q :: vs) := by
                        rw [stopAfter_append]
                        exact hstop
                      rw [hcover]
                      exact .group hk hus hq hvs
                  · simp [hend] at h
                · rw [if_neg hq] at h
                  cases h
      · cases h
termination_by (ts.length, 0)

theorem chain_sound (source : String) (ts : List Token) {c : Chain} {r : Rest ts}
    (h : chain source ts = .ok (c, r)) :
    ∃ us, ts = us ++ r.1 ∧ ReadsChain true us c ∧ endsStage r.1 = true := by
  rw [chain] at h
  cases hs : stage source ts with
  | error e => simp [hs] at h
  | ok result =>
      obtain ⟨s, r₁, hlt⟩ := result
      obtain ⟨us, hts, hus, hend⟩ := stage_sound source ts hs
      simp only [hs] at h
      obtain ⟨⟨c', r₂⟩, ht, heq⟩ := map_eq_ok h
      obtain ⟨vs, hr₁, hvs, hend'⟩ := chainTail_sound source r₁ (.stage hus) hend ht
      cases heq
      refine ⟨us ++ vs, ?_, hvs, hend'⟩
      rw [List.append_assoc]
      exact hts.trans (congrArg (us ++ ·) hr₁)
termination_by (ts.length, 1)

theorem chainTail_sound (source : String) (ts : List Token) {left : Chain} {before : List Token}
    (hleft : ReadsChain true before left) (hends : endsStage ts = true) {c : Chain} {r : Below ts}
    (h : chainTail source left ts = .ok (c, r)) :
    ∃ us, ts = us ++ r.1 ∧ ReadsChain true (before ++ us) c ∧ endsStage r.1 = true := by
  match ts with
  | [] =>
      rw [chainTail] at h
      cases h
      exact ⟨[], rfl, by rwa [List.append_nil], hends⟩
  | b :: rest =>
      rw [chainTail] at h
      by_cases hb : b.kind = .pipe
      · rw [if_pos hb] at h
        cases hs : stage source rest with
        | error e => simp [hs] at h
        | ok result =>
            obtain ⟨s, r₁, hlt⟩ := result
            obtain ⟨us, hrest, hus, hend⟩ := stage_sound source rest hs
            simp only [hs] at h
            obtain ⟨⟨c', r₂⟩, ht, heq⟩ := map_eq_ok h
            obtain ⟨vs, hr₁, hvs, hend'⟩ :=
              chainTail_sound source r₁ (.pipe hleft hb hus) hend ht
            cases heq
            refine ⟨b :: us ++ vs, ?_, ?_, hend'⟩
            · rw [List.append_assoc]
              exact congrArg (b :: ·) (hrest.trans (congrArg (us ++ ·) hr₁))
            · rwa [← List.append_assoc]
      · rw [if_neg hb] at h
        cases h
        exact ⟨[], rfl, by rwa [List.append_nil], hends⟩
termination_by (ts.length, 0)

end

/-- A stage starts with a parenthesis, or with a word that no `=` follows. -/
def BeginsStage (ts : List Token) : Prop :=
  ∃ t rest, ts = t :: rest ∧ (t.kind = .openParen ∨
    (∃ name, t.kind = .word name) ∧ ¬ startsWith .equals rest = true)

theorem BeginsStage.append {ts : List Token} (h : BeginsStage ts) {us : List Token}
    (hus : ¬ startsWith .equals us = true) : BeginsStage (ts ++ us) := by
  obtain ⟨t, rest, rfl, hp | ⟨hname, hrest⟩⟩ := h
  · exact ⟨t, rest ++ us, rfl, .inl hp⟩
  · refine ⟨t, rest ++ us, rfl, .inr ⟨hname, ?_⟩⟩
    cases rest with
    | nil => exact hus
    | cons u rest => exact hrest

theorem ReadsCall.begins {greedy : Bool} {ts : List Token} {c : Call}
    (h : ReadsCall greedy ts c) : BeginsStage ts := by
  obtain ⟨hk, hl, ha⟩ := h
  refine ⟨_, _, rfl, .inr ⟨⟨_, hk⟩, ?_⟩⟩
  cases hl with
  | none =>
      rw [List.nil_append]
      cases ha with
      | nil => exact Bool.false_ne_true
      | operand ho _ =>
          have ho := ho.isOperand
          rw [startsWith_cons]
          intro he
          simp [he, Token.Kind.isOperand] at ho
      | flag hf _ _ =>
          cases hf with
          | alone hk => simp [startsWith_cons, hk]
          | valued hk _ => simp [startsWith_cons, hk]
  | empty hp _ _ => simp [startsWith_cons, hp]
  | items hp _ _ _ => simp [startsWith_cons, hp]

theorem ReadsChain.begins {greedy : Bool} : ∀ {c : Chain} {ts : List Token},
    ReadsChain greedy ts c → BeginsStage ts
  | .stage (.call _), _, .stage (.call h) => ReadsCall.begins h
  | .stage (.group _ _ _), _, .stage (.group hp _ _ _) => ⟨_, _, rfl, .inl hp⟩
  | .pipe _ _, _, .pipe hl hb _ => by
    refine BeginsStage.append (ReadsChain.begins hl) ?_
    rw [startsWith_cons, hb]
    exact Token.Kind.noConfusion

theorem stage_call {source name : String} {t : Token} (hk : t.kind = .word name)
    {rest r : List Token} {c : Call} (hc : ∃ h, call source name t.span rest = .ok (c, ⟨r, h⟩)) :
    ∃ h, stage source (t :: rest) = .ok (.call c, ⟨r, h⟩) := by
  obtain ⟨h, hc⟩ := hc
  refine ⟨by simp; omega, ?_⟩
  rw [stage]
  split
  · next name' hk' =>
    obtain rfl : name = name' := Token.Kind.word.inj (hk.symm.trans hk')
    rw [hc]
    rfl
  · next hk' => simp [hk] at hk'
  · next hno _ => exact absurd hk (hno name)

theorem stage_group {source : String} {p q : Token} (hp : p.kind = .openParen)
    (hq : q.kind = .closeParen) {rest after r : List Token} {inner : Chain} {fs : List FlagNode}
    {stop : Nat} (hbegins : BeginsStage rest)
    (hi : ∃ h, chain source rest = .ok (inner, ⟨q :: after, h⟩))
    (hf : ∃ h, groupFlags q.span.stop after = (fs, stop, ⟨r, h⟩)) (hr : endsStage r = true) :
    ∃ h, stage source (p :: rest) = .ok (.group inner fs ⟨p.span.start, stop⟩, ⟨r, h⟩) := by
  obtain ⟨h₁, hi⟩ := hi
  obtain ⟨h₂, hf⟩ := hf
  refine ⟨by simp at h₁ ⊢; omega, ?_⟩
  have hclose : ¬ startsWith .closeParen rest = true := by
    obtain ⟨t, rest, rfl, hk | ⟨⟨name, hk⟩, -⟩⟩ := hbegins <;> simp [startsWith_cons, hk]
  rw [stage]
  split
  · next name hk => simp [hp] at hk
  · rw [if_neg hclose, hi]
    dsimp only
    rw [if_pos hq, hf]
    dsimp only
    rw [if_pos hr]
  · next hno => exact absurd hp hno

theorem chainTail_pipe {source : String} {left c : Chain} {s : Stage} {b : Token}
    {rest r r' : List Token} (hb : b.kind = .pipe)
    (hs : ∃ h, stage source rest = .ok (s, ⟨r, h⟩))
    (ht : ∃ h, chainTail source (.pipe left s) r = .ok (c, ⟨r', h⟩)) :
    ∃ h, chainTail source left (b :: rest) = .ok (c, ⟨r', h⟩) := by
  obtain ⟨h₁, hs⟩ := hs
  obtain ⟨h₂, ht⟩ := ht
  refine ⟨by simp; omega, ?_⟩
  rw [chainTail, if_pos hb, hs]
  dsimp only
  rw [ht]
  rfl

theorem chainTail_end (source : String) (left : Chain) {ts : List Token}
    (h : ¬ startsWith .pipe ts = true) :
    ∃ h, chainTail source left ts = .ok (left, ⟨ts, h⟩) := by
  refine ⟨Nat.le_refl _, ?_⟩
  cases ts with
  | nil => rw [chainTail]
  | cons t ts =>
      rw [startsWith_cons] at h
      rw [chainTail, if_neg h]

theorem chain_stage {source : String} {s : Stage} {c : Chain} {ts r r' : List Token}
    (hs : ∃ h, stage source ts = .ok (s, ⟨r, h⟩))
    (ht : ∃ h, chainTail source (.stage s) r = .ok (c, ⟨r', h⟩)) :
    ∃ h, chain source ts = .ok (c, ⟨r', h⟩) := by
  obtain ⟨h₁, hs⟩ := hs
  obtain ⟨h₂, ht⟩ := ht
  refine ⟨by omega, ?_⟩
  rw [chain, hs]
  dsimp only
  rw [ht]
  rfl

mutual

theorem stage_complete (source : String) : ∀ {s : Stage} {us : List Token},
    ReadsStage true us s → ∀ {r : List Token}, endsStage r = true →
      ∃ h, stage source (us ++ r) = .ok (s, ⟨r, h⟩)
  | .call _, _, .call hc, r, hr => by
    obtain ⟨head, ts, name, rfl, hk, hc⟩ := call_complete source hc hr
    exact stage_call hk hc
  | .group inner fs _, _, @ReadsStage.group _ p q ts us _ _ hp hi hq hf, r, hr => by
    have hpipe : ¬ startsWith .pipe (q :: (us ++ r)) = true := by simp [startsWith_cons, hq]
    have hequals : ¬ startsWith .equals (q :: (us ++ r)) = true := by simp [startsWith_cons, hq]
    have hinner : ∃ h, chain source (ts ++ q :: (us ++ r)) = .ok (inner, ⟨q :: (us ++ r), h⟩) :=
      chain_complete source hi (endsStage_cons.2 (.inr (.inl hq)))
        (chainTail_end source inner hpipe)
    have hends := endsArguments_of_endsStage hr
    have hflags := groupFlags_complete hf (fun t ht => (hends t ht).2)
      (fun _ _ _ => hends.not_beginsWithOperand) q.span.stop
    have hgroup := stage_group hp hq ((ReadsChain.begins hi).append hequals) hinner hflags hr
    rw [List.cons_append, List.append_assoc, List.cons_append, cover, stopAfter_append]
    exact hgroup

/-- Behind the tokens of a chain the reader goes on as it would from the chain. -/
theorem chain_complete (source : String) : ∀ {left : Chain} {us : List Token},
    ReadsChain true us left → ∀ {c : Chain} {r r' : List Token}, endsStage r = true →
      (∃ h, chainTail source left r = .ok (c, ⟨r', h⟩)) →
        ∃ h, chain source (us ++ r) = .ok (c, ⟨r', h⟩)
  | .stage _, _, .stage hs, _, _, _, hr, ht => chain_stage (stage_complete source hs hr) ht
  | .pipe left right, _, .pipe hl hb hs, c, r, r', hr, ht => by
    rw [List.append_assoc, List.cons_append]
    refine chain_complete source hl ?_ (chainTail_pipe hb (stage_complete source hs hr) ht)
    exact endsStage_cons.2 (.inl hb)

end

/-! ## Lines -/

theorem wholeChain_sound {source : String} {ts : List Token} {c : Chain}
    (h : wholeChain source ts = .ok c) :
    ∃ us r, ts = us ++ r ∧ ReadsChain true us c ∧ (r = [] ∨ startsWith .finish r = true) := by
  unfold wholeChain at h
  cases hc : chain source ts with
  | error e => simp [hc] at h
  | ok result =>
      obtain ⟨c', r, hlt⟩ := result
      obtain ⟨us, hts, hus, -⟩ := chain_sound source ts hc
      simp only [hc] at h
      by_cases hend : (r.isEmpty || startsWith .finish r) = true
      · rw [if_pos hend] at h
        cases h
        refine ⟨us, r, hts, hus, ?_⟩
        simpa using hend
      · rw [if_neg hend] at h
        split at h <;> cases h

theorem wholeChain_complete (source : String) {us : List Token} {c : Chain}
    (h : ReadsChain true us c) {e : Token} (he : e.kind = .finish) :
    wholeChain source (us ++ [e]) = .ok c := by
  have hpipe : ¬ startsWith .pipe [e] = true := by simp [startsWith_cons, he]
  have hfinish : startsWith .finish [e] = true := (startsWith_cons ..).2 he
  obtain ⟨hlt, hc⟩ := chain_complete source h (endsStage_cons.2 (.inr (.inr he)))
    (chainTail_end source c hpipe)
  rw [wholeChain, hc]
  simp [hfinish]

theorem wholeChain_eq_ok (source : String) {body : List Token} {e : Token}
    (he : e.kind = .finish) (hbody : NoFinish body) {c : Chain} :
    wholeChain source (body ++ [e]) = .ok c ↔ ReadsChain true body c := by
  refine ⟨fun h => ?_, fun h => wholeChain_complete source h he⟩
  obtain ⟨us, r, hts, hus, hr⟩ := wholeChain_sound h
  rcases hr with rfl | hr
  · -- the chain would have taken the end mark
    rw [List.append_nil] at hts
    have hnone := hus.noFinish
    rw [← hts] at hnone
    simp [he] at hnone
  · obtain ⟨e', r', rfl⟩ : ∃ e' r', r = e' :: r' := by
      cases r with
      | nil => cases hr
      | cons e' r' => exact ⟨e', r', rfl⟩
    rw [startsWith_cons] at hr
    -- the first end mark behind the chain is the last token
    rcases List.eq_nil_or_concat r' with rfl | ⟨vs, v, rfl⟩
    · obtain ⟨rfl, -⟩ := List.append_inj' hts rfl
      exact hus
    · have hbody' : body = us ++ e' :: vs := by
        rw [List.concat_eq_append, ← List.cons_append, ← List.append_assoc] at hts
        exact (List.append_inj' hts rfl).1
      rw [hbody'] at hbody
      simp [hr] at hbody

theorem line_binding (source : String) {t q : Token} {name : String} (hk : t.kind = .word name)
    (hq : q.kind = .equals) (rest : List Token) :
    line source (t :: q :: rest) =
      if !Text.isIdentifier name then .error ⟨.invalidTarget name, t.span.start, .targetName⟩
      else if rest.isEmpty || startsWith .finish rest then .error (unexpected rest .expression)
      else (wholeChain source rest).map fun c => ⟨some ⟨name, t.span.start⟩, c⟩ := by
  have hstart : ¬ ((t :: q :: rest).isEmpty || startsWith .finish (t :: q :: rest)) = true := by
    simp [startsWith, hk]
  rw [line, if_neg hstart]
  simp only [hk, hq]

/-- A word and `=` come next. -/
def BeginsBinding (ts : List Token) : Prop :=
  ∃ t q rest name, ts = t :: q :: rest ∧ t.kind = .word name ∧ q.kind = .equals

theorem BeginsStage.not_beginsBinding {ts : List Token} (h : BeginsStage ts) :
    ¬ BeginsBinding ts := by
  rintro ⟨t, q, rest, name, rfl, hk, hq⟩
  obtain ⟨_, _, heq, hp | ⟨-, hno⟩⟩ := h <;> obtain ⟨rfl, rfl⟩ := List.cons.inj heq
  · simp [hk] at hp
  · exact hno ((startsWith_cons ..).2 hq)

theorem BeginsStage.not_end {ts : List Token} (h : BeginsStage ts) :
    ¬ (ts.isEmpty || startsWith .finish ts) = true := by
  obtain ⟨t, rest, rfl, hk | ⟨⟨name, hk⟩, -⟩⟩ := h <;> simp [startsWith, hk]

theorem line_chain (source : String) {ts : List Token}
    (hend : ¬ (ts.isEmpty || startsWith .finish ts) = true) (hbinding : ¬ BeginsBinding ts) :
    line source ts = (wholeChain source ts).map fun c => ⟨none, c⟩ := by
  unfold line
  rw [if_neg hend]
  split
  · split
    · next t q rest _ _ name hk hq => exact absurd ⟨t, q, rest, name, rfl, hk, hq⟩ hbinding
    · rfl
  · rfl

theorem line_sound {source : String} {body : List Token} {e : Token} (he : e.kind = .finish)
    (hbody : NoFinish body) {tree : Line} (h : line source (body ++ [e]) = .ok tree) :
    ReadsLine true (body ++ [e]) tree := by
  by_cases hbinding : BeginsBinding (body ++ [e])
  · obtain ⟨t, q, rest, name, hts, hk, hq⟩ := hbinding
    -- the end mark is neither of the two tokens in front
    obtain ⟨body', rfl, rfl⟩ : ∃ body', body = t :: q :: body' ∧ rest = body' ++ [e] := by
      match body, hts with
      | [], hts => cases hts
      | [_], hts =>
          obtain ⟨-, rfl, -⟩ := hts
          simp [hq] at he
      | _ :: _ :: body', hts =>
          obtain ⟨-, -, rfl⟩ := hts
          exact ⟨body', rfl, rfl⟩
    rw [hts, line_binding source hk hq] at h
    split at h
    · cases h
    · next hname =>
      split at h
      · cases h
      · obtain ⟨c, hc, rfl⟩ := map_eq_ok h
        have hbody' : NoFinish body' := (noFinish_cons.1 (noFinish_cons.1 hbody).2).2
        have hchain := (wholeChain_eq_ok source he hbody').1 hc
        exact .binding hk (by simpa using hname) hq hchain he
  · by_cases hend : ((body ++ [e]).isEmpty || startsWith .finish (body ++ [e])) = true
    · unfold line at h
      rw [if_pos hend] at h
      cases h
    · rw [line_chain source hend hbinding] at h
      obtain ⟨c, hc, rfl⟩ := map_eq_ok h
      exact .chain ((wholeChain_eq_ok source he hbody).1 hc) he

theorem line_complete (source : String) {ts : List Token} {tree : Line}
    (h : ReadsLine true ts tree) : line source ts = .ok tree := by
  cases h with
  | @chain ts e c hc he =>
      have hequals : ¬ startsWith .equals [e] = true := by simp [startsWith_cons, he]
      have hbegins := (ReadsChain.begins hc).append hequals
      rw [line_chain source hbegins.not_end hbegins.not_beginsBinding,
        wholeChain_complete source hc he]
      rfl
  | @binding t q e name ts c hk hname hq hc he =>
      have hequals : ¬ startsWith .equals [e] = true := by simp [startsWith_cons, he]
      have hbegins := (ReadsChain.begins hc).append hequals
      rw [line_binding source hk hq, if_neg (by simp [hname]), if_neg hbegins.not_end,
        wholeChain_complete source hc he]
      rfl

/-- Tokens that end with their only end mark have the greedy reading as their tree, and have a tree
when they have any reading at all. -/
theorem line_eq_ok_iff (source : String) {body : List Token} {e : Token} (he : e.kind = .finish)
    (hbody : NoFinish body) :
    (∀ tree, line source (body ++ [e]) = .ok tree ↔ ReadsLine true (body ++ [e]) tree) ∧
      ((∃ tree, line source (body ++ [e]) = .ok tree) ↔
        ∃ tree, ReadsLine false (body ++ [e]) tree) := by
  have hiff : ∀ tree, line source (body ++ [e]) = .ok tree ↔ ReadsLine true (body ++ [e]) tree :=
    fun tree => ⟨line_sound he hbody, line_complete source⟩
  refine ⟨hiff, ?_⟩
  constructor
  · rintro ⟨tree, h⟩
    exact ⟨tree, ((hiff tree).1 h).relax⟩
  · rintro ⟨tree, h⟩
    obtain ⟨tree', h⟩ := h.greedy
    exact ⟨tree', (hiff tree').2 h⟩

/-- The tokens of `x = pick --at . a`, without the end mark. -/
def flaggedBinding : List Token :=
  [⟨.word "x", "x", ⟨0, 1⟩⟩, ⟨.equals, "=", ⟨2, 3⟩⟩, ⟨.word "pick", "pick", ⟨4, 8⟩⟩,
    ⟨.flag "at", "--at", ⟨9, 13⟩⟩, ⟨.dot, ".", ⟨14, 15⟩⟩, ⟨.word "a", "a", ⟨16, 17⟩⟩]

theorem line_eq_ok_flaggedBinding :
    Token.Kind.finish = .finish ∧ NoFinish flaggedBinding ∧
      line "x = pick --at . a" (flaggedBinding ++ [⟨.finish, "", ⟨17, 17⟩⟩]) =
        .ok ⟨some ⟨"x", 0⟩, .stage (.call ⟨"pick", [.word "a" ⟨16, 17⟩],
          [⟨"at", some (.word "." ⟨14, 15⟩), ⟨9, 15⟩⟩], ⟨4, 17⟩⟩)⟩ := by
  have hbody : NoFinish flaggedBinding := by simp [flaggedBinding]
  have hread := line_eq_ok_iff "x = pick --at . a" (e := ⟨.finish, "", ⟨17, 17⟩⟩) rfl hbody
  have hargs : ReadsArguments true (flaggedBinding.drop 3) [.word "a" ⟨16, 17⟩]
      [⟨"at", some (.word "." ⟨14, 15⟩), ⟨9, 15⟩⟩] :=
    .flag (.valued rfl (.point rfl)) (.operand (.word rfl) .nil) fun _ h => nomatch h
  have hcall := @ReadsCall.call true ⟨.word "pick", "pick", ⟨4, 8⟩⟩ _ _ _ _ _ _ _ rfl .none hargs
  exact ⟨rfl, hbody, (hread.1 _).2 (.binding rfl (by decide) rfl (.stage (.call hcall)) rfl)⟩

end Sluice.Tree

namespace Sluice

/-! ## Texts -/

theorem parse_eq_ok {source : String} {tree : Line} (h : parse source = .ok tree) :
    ∃ ts, tokenize source = .ok ts ∧ Tree.line source ts = .ok tree :=
  bind_eq_ok (mapError_eq_ok h)

/-- The tree of a text is the greedy reading of its tokens. -/
theorem parse_of_reads {source : String} {ts : List Token} {tree : Line}
    (htokens : tokenize source = .ok ts) (h : Grammar.ReadsLine true ts tree) :
    parse source = .ok tree := by
  unfold parse
  rw [htokens]
  exact congrArg (Except.mapError _) (Tree.line_complete source h)

end Sluice
