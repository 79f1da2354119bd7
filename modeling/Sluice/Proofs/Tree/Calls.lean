import Sluice.Proofs.Results
import Sluice.Proofs.Tree.Grammar

/-!
# The reader of calls accepts the grammar

For each part of the reader, from flags to calls, there is a lemma that what it returns is a reading
of what it took (`_sound`), and one that it finds every reading that stands in front of tokens that
may follow (`_complete`).
-/

namespace Sluice.Tree

open Grammar

/-! ## What may follow -/

theorem startsWith_cons (kind : Token.Kind) (t : Token) (ts : List Token) :
    startsWith kind (t :: ts) = true ↔ t.kind = kind := by
  simp [startsWith]

theorem endsStage_cons {t : Token} {ts : List Token} :
    endsStage (t :: ts) = true ↔
      t.kind = .pipe ∨ t.kind = .closeParen ∨ t.kind = .finish := by
  simp [endsStage, startsWith, or_assoc]

/-- No operand and no flag comes next, as behind a complete stage. -/
def EndsArguments (ts : List Token) : Prop :=
  ∀ t ∈ ts.head?, t.kind.isOperand = false ∧ ∀ name, t.kind ≠ .flag name

theorem endsArguments_of_endsStage {ts : List Token} (h : endsStage ts = true) :
    EndsArguments ts := by
  intro t ht
  obtain ⟨rest, rfl⟩ := List.head?_eq_some_iff.1 ht
  rcases endsStage_cons.1 h with h | h | h <;> simp [h, Token.Kind.isOperand]

theorem EndsArguments.not_beginsWithOperand {ts : List Token} (h : EndsArguments ts) :
    ¬ BeginsWithOperand ts := by
  rintro ⟨t, o, rest, rfl, ho⟩
  exact Bool.false_ne_true ((h t rfl).1.symm.trans ho.isOperand)

theorem beginsWithOperand_append {ts : List Token} (h : BeginsWithOperand ts) (us : List Token) :
    BeginsWithOperand (ts ++ us) := by
  obtain ⟨t, o, rest, rfl, ho⟩ := h
  exact ⟨t, o, rest ++ us, rfl, ho⟩

theorem not_beginsWithOperand_append {ts us : List Token} (hts : ¬ BeginsWithOperand ts)
    (hus : ¬ BeginsWithOperand us) : ¬ BeginsWithOperand (ts ++ us) := by
  cases ts with
  | nil => exact hus
  | cons t ts =>
      rw [List.cons_append, beginsWithOperand_cons]
      rwa [beginsWithOperand_cons] at hts

/-! ## Flags -/

theorem flag_sound {t : Token} {name : String} (hk : t.kind = .flag name) {ts r : List Token}
    {f : FlagNode} {h : r.length ≤ ts.length} (hf : flag name t.span ts = (f, ⟨r, h⟩)) :
    ∃ us, t :: ts = us ++ r ∧ ReadsFlag us f ∧ (f.value = none → ¬ BeginsWithOperand r) ∧
      ∀ stop, stopAfter stop us = f.span.stop := by
  cases ts with
  | nil =>
      cases hf
      exact ⟨[t], rfl, .alone hk, fun _ => not_beginsWithOperand_nil, fun _ => rfl⟩
  | cons v rest =>
      by_cases hv : v.kind.isOperand = true
      · simp only [flag, hv, if_true] at hf
        cases hf
        refine ⟨[t, v], rfl, ?_, fun h => ?_, fun _ => rfl⟩
        · exact .valued hk (readsOperand_iff.2 ⟨hv, rfl⟩)
        · cases h
      · simp only [flag, hv] at hf
        cases hf
        refine ⟨[t], rfl, .alone hk, fun _ => ?_, fun _ => rfl⟩
        rwa [beginsWithOperand_cons]

theorem flag_complete {us : List Token} {f : FlagNode} (hf : ReadsFlag us f) {r : List Token}
    (hr : f.value = none → ¬ BeginsWithOperand r) :
    ∃ t ts name, us ++ r = t :: ts ∧ t.kind = .flag name ∧
      (∃ h, flag name t.span ts = (f, ⟨r, h⟩)) ∧ ∀ stop, stopAfter stop us = f.span.stop := by
  cases hf with
  | @alone t name hk =>
      refine ⟨t, r, name, rfl, hk, ⟨Nat.le_refl _, ?_⟩, fun _ => rfl⟩
      cases r with
      | nil => rfl
      | cons v rest =>
          have hv : ¬ v.kind.isOperand = true := fun h => hr rfl (beginsWithOperand_cons.2 h)
          simp [flag, hv]
  | @valued t v name o hk ho =>
      obtain ⟨hv, rfl⟩ := readsOperand_iff.1 ho
      refine ⟨t, v :: r, name, rfl, hk, ⟨by simp, ?_⟩, fun _ => rfl⟩
      simp [flag, hv, cover]

/-! ## Operands and flags behind a command -/

theorem arguments_flag {t : Token} {name : String} (hk : t.kind = .flag name) (stop : Nat)
    {rest r r' : List Token} {f : FlagNode} {args : Arguments}
    (hf : ∃ h, flag name t.span rest = (f, ⟨r, h⟩))
    (ha : ∃ h, arguments f.span.stop r = (args, ⟨r', h⟩)) :
    ∃ h, arguments stop (t :: rest) = (args.addFlag f, ⟨r', h⟩) := by
  obtain ⟨h₁, hf⟩ := hf
  obtain ⟨h₂, ha⟩ := ha
  refine ⟨by simp; omega, ?_⟩
  rw [arguments]
  split
  · next name' hk' =>
    obtain rfl : name = name' := Token.Kind.flag.inj (hk.symm.trans hk')
    rw [hf]
    dsimp only
    rw [ha]
  · next hno => exact absurd hk (hno name)

theorem arguments_operand {t : Token} (hk : t.kind.isOperand = true) (stop : Nat)
    {rest r : List Token} {args : Arguments}
    (ha : ∃ h, arguments t.span.stop rest = (args, ⟨r, h⟩)) :
    ∃ h, arguments stop (t :: rest) = (args.addOperand (operand t), ⟨r, h⟩) := by
  obtain ⟨h₁, ha⟩ := ha
  refine ⟨by simp; omega, ?_⟩
  rw [arguments]
  split
  · next name hk' => simp [hk', Token.Kind.isOperand] at hk
  · rw [if_pos hk, ha]

theorem arguments_end {ts : List Token} (h : EndsArguments ts) (stop : Nat) :
    ∃ h, arguments stop ts = (⟨[], [], stop⟩, ⟨ts, h⟩) := by
  refine ⟨Nat.le_refl _, ?_⟩
  cases ts with
  | nil => rw [arguments]
  | cons t ts =>
      obtain ⟨ho, hflag⟩ := h t rfl
      rw [arguments]
      split
      · next name hk => exact absurd hk (hflag name)
      · rw [ho, if_neg Bool.false_ne_true]

theorem arguments_sound (stop : Nat) (ts : List Token) :
    ∃ us, ts = us ++ (arguments stop ts).2.1 ∧
      ReadsArguments true us (arguments stop ts).1.positional (arguments stop ts).1.flags ∧
      (arguments stop ts).1.stop = stopAfter stop us := by
  fun_induction arguments stop ts with
  | case1 stop => exact ⟨[], rfl, .nil, rfl⟩
  | case2 stop t ts name hk f r h hf args r' h' ha ih =>
      obtain ⟨us, hts, hus, hnone, hstop⟩ := flag_sound hk hf
      obtain ⟨vs, hr, hvs, hstop'⟩ := ih
      rw [ha] at hr hvs hstop'
      refine ⟨us ++ vs, ?_, .flag hus hvs fun _ hf hb => ?_, ?_⟩
      · change t :: ts = us ++ vs ++ r'
        rw [hts, List.append_assoc]
        exact congrArg (us ++ ·) hr
      · have hr : r = vs ++ r' := hr
        exact hnone hf (hr ▸ beginsWithOperand_append hb r')
      · rw [stopAfter_append, hstop]
        exact hstop'
  | case3 stop t ts args r h ha _ ho ih =>
      obtain ⟨vs, hr, hvs, hstop⟩ := ih
      rw [ha] at hr hvs hstop
      exact ⟨t :: vs, congrArg (t :: ·) hr, .operand (readsOperand_iff.2 ⟨ho, rfl⟩) hvs, hstop⟩
  | case4 stop t ts _ ho => exact ⟨[], rfl, .nil, rfl⟩

theorem arguments_complete {us : List Token} {os : List Operand} {fs : List FlagNode}
    (h : ReadsArguments true us os fs) {r : List Token} (hr : EndsArguments r) (stop : Nat) :
    ∃ h, arguments stop (us ++ r) = (⟨os, fs, stopAfter stop us⟩, ⟨r, h⟩) := by
  induction h generalizing stop with
  | nil => exact arguments_end hr stop
  | operand ho _ ih =>
      obtain ⟨hk, rfl⟩ := readsOperand_iff.1 ho
      exact arguments_operand hk stop (ih _)
  | @flag us ts f os fs hf _ hgreedy ih =>
      have hnone : f.value = none → ¬ BeginsWithOperand (ts ++ r) := fun h =>
        not_beginsWithOperand_append (hgreedy rfl h) hr.not_beginsWithOperand
      obtain ⟨t, rest, name, heq, hk, hflag, hstop⟩ := flag_complete hf hnone
      rw [List.append_assoc, heq, stopAfter_append, hstop]
      exact arguments_flag hk stop hflag (ih _)

/-! ## Flags behind a group -/

theorem groupFlags_flag {t : Token} {name : String} (hk : t.kind = .flag name) (stop : Nat)
    {rest r r' : List Token} {f : FlagNode} {fs : List FlagNode} {stop' : Nat}
    (hf : ∃ h, flag name t.span rest = (f, ⟨r, h⟩))
    (ha : ∃ h, groupFlags f.span.stop r = (fs, stop', ⟨r', h⟩)) :
    ∃ h, groupFlags stop (t :: rest) = (f :: fs, stop', ⟨r', h⟩) := by
  obtain ⟨h₁, hf⟩ := hf
  obtain ⟨h₂, ha⟩ := ha
  refine ⟨by simp; omega, ?_⟩
  rw [groupFlags]
  split
  · next name' hk' =>
    obtain rfl : name = name' := Token.Kind.flag.inj (hk.symm.trans hk')
    rw [hf]
    dsimp only
    rw [ha]
  · next hno => exact absurd hk (hno name)

theorem groupFlags_end {ts : List Token} (h : ∀ t ∈ ts.head?, ∀ name, t.kind ≠ .flag name)
    (stop : Nat) : ∃ h, groupFlags stop ts = ([], stop, ⟨ts, h⟩) := by
  refine ⟨Nat.le_refl _, ?_⟩
  cases ts with
  | nil => rw [groupFlags]
  | cons t ts =>
      rw [groupFlags]
      split
      · next name hk => exact absurd hk (h t rfl name)
      · rfl

theorem groupFlags_sound (stop : Nat) (ts : List Token) :
    ∃ us, ts = us ++ (groupFlags stop ts).2.2.1 ∧ ReadsFlags us (groupFlags stop ts).1 ∧
      (groupFlags stop ts).2.1 = stopAfter stop us := by
  fun_induction groupFlags stop ts with
  | case1 stop => exact ⟨[], rfl, .nil, rfl⟩
  | case2 stop t ts name hk f r h hf fs stop' r' h' ha ih =>
      obtain ⟨us, hts, hus, -, hstop⟩ := flag_sound hk hf
      obtain ⟨vs, hr, hvs, hstop'⟩ := ih
      rw [ha] at hr hvs hstop'
      refine ⟨us ++ vs, ?_, .flag hus hvs, ?_⟩
      · change t :: ts = us ++ vs ++ r'
        rw [hts, List.append_assoc]
        exact congrArg (us ++ ·) hr
      · rw [stopAfter_append, hstop]
        exact hstop'
  | case3 stop t ts _ => exact ⟨[], rfl, .nil, rfl⟩

/-- Behind the last flag comes no flag, and no operand that would be its value. -/
theorem groupFlags_complete {us : List Token} {fs : List FlagNode} (h : ReadsFlags us fs)
    {r : List Token} (hr : ∀ t ∈ r.head?, ∀ name, t.kind ≠ .flag name)
    (hlast : ∀ f ∈ fs.getLast?, f.value = none → ¬ BeginsWithOperand r) (stop : Nat) :
    ∃ h, groupFlags stop (us ++ r) = (fs, stopAfter stop us, ⟨r, h⟩) := by
  induction h generalizing stop with
  | nil => exact groupFlags_end hr stop
  | @flag us ts f fs hf hfs ih =>
      have hnone : f.value = none → ¬ BeginsWithOperand (ts ++ r) := by
        intro hvalue
        cases hfs with
        | nil => exact hlast f rfl hvalue
        | flag hg _ =>
            cases hg with
            | alone hk =>
                rw [List.append_assoc, List.singleton_append, beginsWithOperand_cons, hk]
                exact Bool.false_ne_true
            | valued hk _ =>
                rw [List.append_assoc, List.cons_append, beginsWithOperand_cons, hk]
                exact Bool.false_ne_true
      have hlast' : ∀ g ∈ fs.getLast?, g.value = none → ¬ BeginsWithOperand r := by
        intro g hg
        refine hlast g ?_
        rw [List.getLast?_cons, hg]
        rfl
      obtain ⟨t, rest, name, heq, hk, hflag, hstop⟩ := flag_complete hf hnone
      rw [List.append_assoc, heq, stopAfter_append, hstop]
      exact groupFlags_flag hk stop hflag (ih hlast' _)

/-! ## Argument lists -/

def itemOperands : Operand ⊕ FlagNode → List Operand
  | .inl o => [o]
  | .inr _ => []

def itemFlags : Operand ⊕ FlagNode → List FlagNode
  | .inl _ => []
  | .inr f => [f]

theorem listOperand_sound {column : Nat} {t : Token} {rest : List Token}
    {item : Operand ⊕ FlagNode} {r : Rest (t :: rest)}
    (h : listOperand column t rest = .ok (item, r)) :
    r.1 = rest ∧ ReadsItem [t] (itemOperands item) (itemFlags item) := by
  unfold listOperand at h
  by_cases hk : t.kind.isOperand = true
  · rw [if_pos hk] at h
    cases h
    exact ⟨rfl, .operand (readsOperand_iff.2 ⟨hk, rfl⟩)⟩
  · rw [if_neg hk] at h
    split at h <;> cases h

theorem listItem_operand {column : Nat} {t e : Token} {rest : List Token}
    (hkey : ¬ (t.kind.isWord = true ∧ e.kind = .equals)) :
    listItem column (t :: e :: rest) = listOperand column t (e :: rest) := by
  cases rest <;> simp [listItem, hkey]

theorem listItem_sound {column : Nat} {ts : List Token} {item : Operand ⊕ FlagNode} {r : Rest ts}
    (h : listItem column ts = .ok (item, r)) :
    ∃ us, ts = us ++ r.1 ∧ ReadsItem us (itemOperands item) (itemFlags item) := by
  match ts with
  | [] => cases h
  | [t] =>
      obtain ⟨hr, hitem⟩ := listOperand_sound h
      exact ⟨[t], by rw [hr]; rfl, hitem⟩
  | t :: e :: rest =>
      by_cases hkey : t.kind.isWord = true ∧ e.kind = .equals
      · cases rest with
        | nil => simp [listItem, hkey] at h
        | cons v after =>
            by_cases hv : v.kind.isOperand = true
            · simp only [listItem, hkey, hv, and_self, if_true] at h
              cases h
              obtain ⟨hword, he⟩ := hkey
              obtain ⟨name, hname⟩ : ∃ name, t.kind = .word name := by
                cases hk : t.kind <;> simp_all [Token.Kind.isWord]
              exact ⟨[t, e, v], rfl, .named hname he (readsOperand_iff.2 ⟨hv, rfl⟩)⟩
            · simp [listItem, hkey, hv] at h
      · rw [listItem_operand hkey] at h
        obtain ⟨hr, hitem⟩ := listOperand_sound h
        exact ⟨[t], by rw [hr]; rfl, hitem⟩

/-- A word that `=` follows is no item: it names the operand behind. -/
theorem listItem_complete (column : Nat) {us : List Token} {os : List Operand}
    {fs : List FlagNode} (h : ReadsItem us os fs) {r : List Token}
    (hr : ∀ k, us = [k] → k.kind.isWord = true → ¬ startsWith .equals r = true) :
    ∃ item h, listItem column (us ++ r) = .ok (item, ⟨r, h⟩) ∧
      itemOperands item = os ∧ itemFlags item = fs := by
  cases h with
  | @operand t o ho =>
      obtain ⟨hk, rfl⟩ := readsOperand_iff.1 ho
      have hitem : listOperand column t r = .ok (.inl (operand t), ⟨r, by simp⟩) := by
        rw [listOperand, if_pos hk]
      refine ⟨.inl (operand t), by simp, ?_, rfl, rfl⟩
      cases r with
      | nil => exact hitem
      | cons u rest =>
          have hkey : ¬ (t.kind.isWord = true ∧ u.kind = .equals) := fun ⟨hword, he⟩ =>
            hr t rfl hword ((startsWith_cons ..).2 he)
          exact (listItem_operand hkey).trans hitem
  | @named k e v name o hname he ho =>
      obtain ⟨hv, rfl⟩ := readsOperand_iff.1 ho
      have hkey : k.kind.isWord = true ∧ e.kind = .equals := ⟨by rw [hname]; rfl, he⟩
      have hlt : r.length < ([k, e, v] ++ r).length := by
        rw [List.length_append]
        exact Nat.lt_add_of_pos_left (Nat.succ_pos _)
      refine ⟨.inr ⟨k.text, some (operand v), cover k [e, v]⟩, hlt, ?_, rfl, rfl⟩
      simp [listItem, hkey, hv, cover]

def addItem (item : Operand ⊕ FlagNode) (args : Arguments) : Arguments :=
  ⟨itemOperands item ++ args.positional, itemFlags item ++ args.flags, args.stop⟩

theorem listItems_comma {column : Nat} {ts rest r : List Token} {item : Operand ⊕ FlagNode}
    {c : Token} {args : Arguments} (hc : c.kind = .comma)
    (hi : ∃ h, listItem column ts = .ok (item, ⟨c :: rest, h⟩))
    (hs : ∃ h, listItems column rest = .ok (args, ⟨r, h⟩)) :
    ∃ h, listItems column ts = .ok (addItem item args, ⟨r, h⟩) := by
  obtain ⟨h₁, hi⟩ := hi
  obtain ⟨h₂, hs⟩ := hs
  refine ⟨by simp at h₁; omega, ?_⟩
  rw [listItems, hi]
  simp only [hc, hs]
  cases item <;> rfl

theorem listItems_close {column : Nat} {ts rest : List Token} {item : Operand ⊕ FlagNode}
    {q : Token} (hq : q.kind = .closeParen)
    (hi : ∃ h, listItem column ts = .ok (item, ⟨q :: rest, h⟩)) :
    ∃ h, listItems column ts = .ok (addItem item ⟨[], [], q.span.stop⟩, ⟨rest, h⟩) := by
  obtain ⟨h₁, hi⟩ := hi
  refine ⟨by simp at h₁; omega, ?_⟩
  rw [listItems, hi]
  simp only [hq]
  cases item <;> rfl

theorem listItems_sound (column : Nat) (ts : List Token) {args : Arguments} {r : Rest ts}
    (h : listItems column ts = .ok (args, r)) :
    ∃ us q, ts = us ++ q :: r.1 ∧ ReadsItems us args.positional args.flags ∧
      q.kind = .closeParen ∧ args.stop = q.span.stop := by
  fun_induction listItems column ts generalizing args with
  | case3 ts item add c rest _ hc _ hi =>
      rename_i ih
      obtain ⟨p, hs, heq⟩ := map_eq_ok h
      obtain ⟨us, q, hrest, hus, hq, hstop⟩ := ih hs
      obtain ⟨vs, hts, hitem⟩ := listItem_sound hi
      cases heq
      refine ⟨vs ++ c :: us, q, ?_, ?_, hq, ?_⟩
      · rw [List.append_assoc]
        exact hts.trans (congrArg (vs ++ c :: ·) hrest)
      · cases item <;> exact .more hitem hc hus
      · cases item <;> exact hstop
  | case4 ts item add q rest _ hq _ =>
      rename_i hi
      obtain ⟨us, hts, hitem⟩ := listItem_sound hi
      cases h
      refine ⟨us, q, hts, ?_, hq, ?_⟩
      · cases item <;> exact .one hitem
      · cases item <;> rfl
  | _ => cases h

theorem listItems_complete (column : Nat) {us : List Token} {os : List Operand}
    {fs : List FlagNode} (h : ReadsItems us os fs) {q : Token} (hq : q.kind = .closeParen)
    (r : List Token) :
    ∃ h, listItems column (us ++ q :: r) = .ok (⟨os, fs, q.span.stop⟩, ⟨r, h⟩) := by
  have hends : ∀ {u : Token} {rest : List Token}, u.kind = .comma ∨ u.kind = .closeParen →
      ¬ startsWith .equals (u :: rest) = true := by
    intro u rest hu
    rw [startsWith_cons]
    rcases hu with hu | hu <;> simp [hu]
  induction h with
  | one hitem =>
      obtain ⟨item, h, hi, rfl, rfl⟩ := listItem_complete column hitem fun _ _ _ => hends (.inr hq)
      obtain ⟨h, hs⟩ := listItems_close hq ⟨h, hi⟩
      exact ⟨h, by rw [hs, addItem, List.append_nil, List.append_nil]⟩
  | @more ts us c os os' fs fs' hitem hc _ ih =>
      obtain ⟨item, h, hi, rfl, rfl⟩ := listItem_complete column hitem fun _ _ _ => hends (.inl hc)
      rw [List.append_assoc, List.cons_append]
      exact listItems_comma hc ⟨h, hi⟩ ih

theorem ReadsItems.head {ts : List Token} {os : List Operand} {fs : List FlagNode}
    (h : ReadsItems ts os fs) : ∃ u after, ts = u :: after ∧ u.kind.isOperand = true := by
  have hitem : ∀ {us : List Token} {os : List Operand} {fs : List FlagNode} (r : List Token),
      ReadsItem us os fs → ∃ u after, us ++ r = u :: after ∧ u.kind.isOperand = true := by
    rintro _ _ _ r (ho | ⟨hk, _, _⟩)
    · exact ⟨_, _, rfl, ho.isOperand⟩
    · exact ⟨_, _, rfl, by rw [hk]; rfl⟩
  cases h with
  | one h =>
      obtain ⟨u, after, hts, hu⟩ := hitem [] h
      exact ⟨u, after, by rwa [List.append_nil] at hts, hu⟩
  | more h _ _ => exact hitem _ h

/-! ## Calls -/

/-- A list reads as nothing where its parenthesis is missing or stands apart. -/
def BeginsWithList (stop : Nat) (ts : List Token) : Prop :=
  ∃ p rest, ts = p :: rest ∧ p.kind = .openParen ∧ p.span.start = stop

theorem argumentList_sound {source : String} {stop : Nat} {ts : List Token} {args : Arguments}
    {r : Below ts} (h : argumentList source stop ts = .ok (args, r)) :
    ∃ us, ts = us ++ r.1 ∧ ReadsList stop us args.positional args.flags ∧
      args.stop = stopAfter stop us := by
  match ts with
  | [] =>
      cases h
      exact ⟨[], rfl, .none, rfl⟩
  | p :: rest =>
      by_cases hp : p.kind = .openParen ∧ p.span.start = stop
      · cases rest with
        | nil => simp [argumentList, hp] at h
        | cons u after =>
            by_cases hu : u.kind = .closeParen
            · simp only [argumentList, hp, hu, and_self, if_true] at h
              cases h
              exact ⟨[p, u], rfl, .empty hp.1 hp.2 hu, rfl⟩
            · cases hs : listItems (p.span.column source) (u :: after) with
              | error e => simp [argumentList, hp, hu, hs, Except.map] at h
              | ok result =>
                  obtain ⟨us, q, hts, hus, hq, hstop⟩ := listItems_sound _ _ hs
                  simp only [argumentList, hp, hu, hs, and_self, if_true, if_false,
                    Except.map] at h
                  cases h
                  refine ⟨p :: (us ++ [q]), ?_, .items hp.1 hp.2 hus hq, ?_⟩
                  · refine (congrArg (p :: ·) hts).trans ?_
                    rw [List.cons_append, List.append_assoc]
                    rfl
                  · rw [stopAfter_cons, stopAfter_append]
                    exact hstop
      · simp only [argumentList, hp, if_false] at h
        cases h
        exact ⟨[], rfl, .none, rfl⟩

theorem argumentList_complete (source : String) {stop : Nat} {us : List Token}
    {os : List Operand} {fs : List FlagNode} (h : ReadsList stop us os fs) {r : List Token}
    (hr : us = [] → ¬ BeginsWithList stop r) :
    ∃ h, argumentList source stop (us ++ r) = .ok (⟨os, fs, stopAfter stop us⟩, ⟨r, h⟩) := by
  cases h with
  | none =>
      cases r with
      | nil => exact ⟨Nat.le_refl _, rfl⟩
      | cons p rest =>
          have hp : ¬ (p.kind = .openParen ∧ p.span.start = stop) := fun hp =>
            hr rfl ⟨p, rest, rfl, hp⟩
          exact ⟨Nat.le_refl _, by simp [argumentList, hp]⟩
  | empty hp hstart hq => exact ⟨by simp; omega, by simp [argumentList, hp, hstart, hq]⟩
  | @items p q ts os fs hp hstart hitems hq =>
      obtain ⟨h, hs⟩ := listItems_complete (p.span.column source) hitems hq r
      obtain ⟨u, after, rfl, hu⟩ := ReadsItems.head hitems
      have hassoc : p :: (u :: after ++ [q]) ++ r = p :: u :: (after ++ q :: r) := by simp
      rw [hassoc]
      refine ⟨by simp; omega, ?_⟩
      change listItems _ (u :: (after ++ q :: r)) = _ at hs
      have hclose : u.kind ≠ .closeParen := by
        intro hk
        simp [hk, Token.Kind.isOperand] at hu
      simp [argumentList, hp, hstart, hclose, hs, Except.map, stopAfter_append]

theorem not_beginsWithList {greedy : Bool} {ts : List Token} {os : List Operand}
    {fs : List FlagNode} (h : ReadsArguments greedy ts os fs) {r : List Token} {stop : Nat}
    (hr : ts = [] → ¬ BeginsWithList stop r) : ¬ BeginsWithList stop (ts ++ r) := by
  rintro ⟨p, rest, hts, hp, hstart⟩
  cases h with
  | nil => exact hr rfl ⟨p, rest, hts, hp, hstart⟩
  | operand ho _ =>
      obtain ⟨rfl, -⟩ := List.cons.inj hts
      have hk := ho.isOperand
      simp [hp, Token.Kind.isOperand] at hk
  | flag hf _ _ =>
      cases hf with
      | alone hk =>
          obtain ⟨rfl, -⟩ := List.cons.inj hts
          simp [hp] at hk
      | valued hk _ =>
          obtain ⟨rfl, -⟩ := List.cons.inj hts
          simp [hp] at hk

theorem not_beginsWithList_of_endsStage {r : List Token} (hr : endsStage r = true) (stop : Nat) :
    ¬ BeginsWithList stop r := by
  rintro ⟨p, rest, rfl, hp, -⟩
  simp [endsStage_cons, hp] at hr

theorem call_sound {source name : String} {head : Token} (hk : head.kind = .word name)
    {ts : List Token} {c : Call} {r : Below ts}
    (h : call source name head.span ts = .ok (c, r)) :
    ∃ us, ts = us ++ r.1 ∧ ReadsCall true (head :: us) c ∧ endsStage r.1 = true := by
  unfold call at h
  cases hl : argumentList source head.span.stop ts with
  | error e => simp [hl] at h
  | ok result =>
      obtain ⟨list, r₁, h₁⟩ := result
      obtain ⟨ls, hts, hls, hstop⟩ := argumentList_sound hl
      simp only [hl] at h
      obtain ⟨vs, hr₁, hvs, hstop'⟩ := arguments_sound list.stop r₁
      by_cases hend : endsStage (arguments list.stop r₁).2.1 = true
      · rw [if_pos hend] at h
        cases h
        refine ⟨ls ++ vs, ?_, ?_, hend⟩
        · rw [List.append_assoc]
          exact hts.trans (congrArg (ls ++ ·) hr₁)
        · have hcover : (arguments list.stop r₁).1.stop = stopAfter head.span.stop (ls ++ vs) := by
            rw [hstop', hstop, stopAfter_append]
          rw [hcover]
          exact .call hk hls hvs
      · rw [if_neg hend] at h
        split at h <;> cases h

theorem call_complete (source : String) {us : List Token} {c : Call} (h : ReadsCall true us c)
    {r : List Token} (hr : endsStage r = true) :
    ∃ head ts name, us = head :: ts ∧ head.kind = .word name ∧
      ∃ h, call source name head.span (ts ++ r) = .ok (c, ⟨r, h⟩) := by
  obtain @⟨head, name, ls, ts, os, os', fs, fs', hk, hl, ha⟩ := h
  have hnolist := not_beginsWithList ha fun _ => not_beginsWithList_of_endsStage hr head.span.stop
  obtain ⟨h₁, hlist⟩ := argumentList_complete source hl fun _ => hnolist
  obtain ⟨h₂, hargs⟩ :=
    arguments_complete ha (endsArguments_of_endsStage hr) (stopAfter head.span.stop ls)
  refine ⟨head, ls ++ ts, name, rfl, hk, ?_⟩
  rw [List.append_assoc]
  refine ⟨Nat.le_trans h₂ h₁, ?_⟩
  rw [call, hlist]
  dsimp only
  rw [hargs]
  dsimp only
  rw [if_pos hr, cover, stopAfter_append]

end Sluice.Tree
