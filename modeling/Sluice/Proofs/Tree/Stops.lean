import Sluice.Proofs.Tree.Parens
import Sluice.Proofs.Tree.Recognition

/-!
# The grammar of stops

The reader of lines stops at the first token that it cannot take. `Stops` is the grammar of what it
has taken by then, together with the token that comes next and with what is expected in its place:

* `Stops.completes` : what has been taken begins something that the grammar knows;
* `Stops.hinted` : a hint at a parenthesis that is missing comes only at the end, and names the last
  parenthesis that has been opened and not closed.
-/

namespace Sluice

def Expectation.column? : Expectation → Option Nat
  | groupClose column | listClose column => some column
  | _ => none

namespace Tree

open Grammar

/-! ## Stops -/

/-- Nothing comes next, or the end mark. -/
def atEnd (next : Option Token) : Bool :=
  next.all (·.kind == .finish)

/-- What is expected within a list: at the end, its closing parenthesis. -/
def orClose (column : Nat) (next : Option Token) (expected : Expectation) : Expectation :=
  if atEnd next then .listClose column else expected

/-- The parts of a line in which the reader may stop. -/
inductive Part where
  /-- An argument of a list whose parenthesis stands at a column. -/
  | item (column : Nat)
  /-- The arguments of such a list. -/
  | items (column : Nat)
  /-- What stands behind the name of a call. The name ends at byte `stop`. -/
  | call (stop : Nat)
  | stage
  | chain
  /-- A chain that nothing follows. -/
  | whole
  | line

/-- The reader stops within a part: what it has taken, what comes next, and what is expected. -/
inductive Stops (source : String) : Part → List Token → Option Token → Expectation → Prop where
  | operand {column : Nat} {next : Option Token} :
      (∀ t ∈ next, t.kind.isOperand = false) →
        Stops source (.item column) [] next (orClose column next .listItem)
  | value {column : Nat} {k e : Token} {next : Option Token} :
      k.kind.isWord = true → e.kind = .equals → (∀ t ∈ next, t.kind.isOperand = false) →
        Stops source (.item column) [k, e] next (.valueFor k.text)
  | item {column : Nat} {us : List Token} {next : Option Token} {expected : Expectation} :
      Stops source (.item column) us next expected → Stops source (.items column) us next expected
  /-- Neither a comma nor the closing parenthesis comes behind an argument. A word with `=` behind it
  is no argument yet. -/
  | separator {column : Nat} {us : List Token} {os : List Operand} {fs : List FlagNode}
      {next : Option Token} :
      ReadsItem us os fs → (∀ t ∈ next, t.kind ≠ .comma ∧ t.kind ≠ .closeParen) →
        (∀ k, us = [k] → k.kind.isWord = true → ∀ t ∈ next, t.kind ≠ .equals) →
          Stops source (.items column) us next (orClose column next .listSeparator)
  | more {column : Nat} {us vs : List Token} {c : Token} {os : List Operand} {fs : List FlagNode}
      {next : Option Token} {expected : Expectation} :
      ReadsItem us os fs → c.kind = .comma → Stops source (.items column) vs next expected →
        Stops source (.items column) (us ++ c :: vs) next expected
  | list {stop : Nat} {p : Token} {us : List Token} {next : Option Token}
      {expected : Expectation} :
      p.kind = .openParen → p.span.start = stop →
        Stops source (.items (p.span.column source)) us next expected →
          (us = [] → ∀ t ∈ next, t.kind ≠ .closeParen) →
            Stops source (.call stop) (p :: us) next expected
  | argument {stop : Nat} {ls ts : List Token} {os os' : List Operand} {fs fs' : List FlagNode}
      {t : Token} :
      ReadsList stop ls os fs → ReadsArguments true ts os' fs' →
        t.kind = .equals ∨ t.kind = .comma →
          Stops source (.call stop) (ls ++ ts) (some t) .argument
  /-- A parenthesis that stands apart from the name, or behind a list or an argument. -/
  | apart {stop : Nat} {ls ts : List Token} {os os' : List Operand} {fs fs' : List FlagNode}
      {t : Token} :
      ReadsList stop ls os fs → ReadsArguments true ts os' fs' → t.kind = .openParen →
        (ls = [] → ts = [] → t.span.start ≠ stop) →
          Stops source (.call stop) (ls ++ ts) (some t) .pipeBeforeGroup
  | command {next : Option Token} :
      (∀ t ∈ next, t.kind.isWord = false ∧ t.kind ≠ .openParen) →
        Stops source .stage [] next .commandOrGroup
  | call {head : Token} {name : String} {us : List Token} {next : Option Token}
      {expected : Expectation} :
      head.kind = .word name → Stops source (.call head.span.stop) us next expected →
        Stops source .stage (head :: us) next expected
  /-- A group without anything in it. -/
  | content {p q : Token} :
      p.kind = .openParen → q.kind = .closeParen → Stops source .stage [p] (some q) .groupContent
  | inner {p : Token} {us : List Token} {next : Option Token} {expected : Expectation} :
      p.kind = .openParen → Stops source .chain us next expected →
        (us = [] → ∀ t ∈ next, t.kind ≠ .closeParen) → Stops source .stage (p :: us) next expected
  | unclosed {p : Token} {us : List Token} {c : Chain} {next : Option Token} :
      p.kind = .openParen → ReadsChain true us c → atEnd next = true →
        Stops source .stage (p :: us) next (.groupClose (p.span.column source))
  /-- What comes behind a group and its flags could still be the value of the last of them. -/
  | groupFlag {p q t : Token} {us vs : List Token} {c : Chain} {fs : List FlagNode} :
      p.kind = .openParen → ReadsChain true us c → q.kind = .closeParen → ReadsFlags vs fs →
        endsStage [t] = false → (∀ name, t.kind ≠ .flag name) →
          (∀ f ∈ fs.getLast?, f.value = none → t.kind.isOperand = false) →
            Stops source .stage (p :: (us ++ q :: vs)) (some t) .pipeOrGroupFlag
  | first {us : List Token} {next : Option Token} {expected : Expectation} :
      Stops source .stage us next expected → Stops source .chain us next expected
  | later {us vs : List Token} {b : Token} {c : Chain} {next : Option Token}
      {expected : Expectation} :
      ReadsChain true us c → b.kind = .pipe → Stops source .stage vs next expected →
        Stops source .chain (us ++ b :: vs) next expected
  | within {us : List Token} {next : Option Token} {expected : Expectation} :
      Stops source .chain us next expected → Stops source .whole us next expected
  /-- A closing parenthesis that closes nothing. -/
  | behind {us : List Token} {c : Chain} {q : Token} :
      ReadsChain true us c → q.kind = .closeParen →
        Stops source .whole us (some q) .openingParen
  | nothing {next : Option Token} : atEnd next = true → Stops source .line [] next .command
  | expression {t q : Token} {name : String} {next : Option Token} :
      t.kind = .word name → Text.isIdentifier name = true → q.kind = .equals → atEnd next = true →
        Stops source .line [t, q] next .expression
  | bound {t q : Token} {name : String} {us : List Token} {next : Option Token}
      {expected : Expectation} :
      t.kind = .word name → Text.isIdentifier name = true → q.kind = .equals →
        Stops source .whole us next expected → (us = [] → atEnd next = false) →
          Stops source .line (t :: q :: us) next expected
  /-- A chain without a name in front. The next token tells whether a first word is one. -/
  | free {us : List Token} {next : Option Token} {expected : Expectation} :
      Stops source .whole us next expected → (us = [] → atEnd next = false) →
        ¬ BeginsBinding (us ++ next.toList) → Stops source .line us next expected

/-! ## What has been taken -/

/-- A list in which the reader stops does not begin with its closing parenthesis. -/
theorem Stops.items_ne_close {source : String} {column : Nat} {us : List Token}
    {next : Option Token} {expected : Expectation}
    (h : Stops source (.items column) us next expected) :
    ∀ t ∈ us.head?, t.kind ≠ .closeParen := by
  intro t ht hk
  cases h with
  | item h =>
      cases h with
      | operand => cases ht
      | value hword =>
          obtain rfl := Option.some.inj ht
          simp [hk, Token.Kind.isWord] at hword
  | separator hus =>
      obtain ⟨u, after, rfl, hu⟩ := ReadsItems.head (.one hus)
      obtain rfl := Option.some.inj ht
      simp [hk, Token.Kind.isOperand] at hu
  | more hus =>
      obtain ⟨u, after, rfl, hu⟩ := ReadsItems.head (.one hus)
      obtain rfl := Option.some.inj ht
      simp [hk, Token.Kind.isOperand] at hu

theorem ReadsChain.head_ne_close {us : List Token} {c : Chain} (h : ReadsChain true us c) :
    ∀ t ∈ us.head?, t.kind ≠ .closeParen := by
  intro t ht hk
  obtain ⟨u, rest, rfl, hp | ⟨⟨name, hname⟩, -⟩⟩ := ReadsChain.begins h
  · obtain rfl := Option.some.inj ht
    simp [hk] at hp
  · obtain rfl := Option.some.inj ht
    simp [hk] at hname

theorem ReadsChain.ne_nil {us : List Token} {c : Chain} (h : ReadsChain true us c) : us ≠ [] := by
  obtain ⟨u, rest, rfl, -⟩ := ReadsChain.begins h
  exact List.cons_ne_nil _ _

/-- No end mark has been taken where the reader stops. -/
theorem Stops.noFinish {source : String} {part : Part} {us : List Token} {next : Option Token}
    {expected : Expectation} (h : Stops source part us next expected) : NoFinish us := by
  induction h with
  | operand | command | nothing => exact noFinish_nil
  | value hk he _ =>
      refine noFinish_cons.2 ⟨fun h => ?_, by simp [he]⟩
      simp [h, Token.Kind.isWord] at hk
  | item _ ih | first _ ih | within _ ih | free _ _ _ ih => exact ih
  | separator hus => exact hus.noFinish
  | more hus hc _ ih => simp [hus.noFinish, hc, ih]
  | list hp _ _ _ ih | inner hp _ _ ih => simp [hp, ih]
  | argument hls hts _ | apart hls hts _ _ =>
      exact noFinish_append.2 ⟨hls.noFinish, hts.noFinish⟩
  | call hk _ ih => simp [hk, ih]
  | content hp _ => simp [hp]
  | unclosed hp hus _ => simp [hp, hus.noFinish]
  | groupFlag hp hus hq hvs _ _ _ => simp [hp, hus.noFinish, hq, hvs.noFinish]
  | later hus hb _ ih => simp [hus.noFinish, hb, ih]
  | behind hus _ => exact hus.noFinish
  | expression ht _ hq _ => simp [ht, hq]
  | bound ht _ hq _ _ ih => simp [ht, hq, ih]

/-- Where nothing has been taken of a chain no word comes next. -/
theorem Stops.not_word {source : String} {next : Option Token} {expected : Expectation}
    (h : Stops source .whole [] next expected) : ∀ t ∈ next, t.kind.isWord = false := by
  generalize hus : ([] : List Token) = us at h
  cases h with
  | behind hreads _ => exact absurd hus.symm (ReadsChain.ne_nil hreads)
  | within h =>
      cases h with
      | later hreads _ _ => simp at hus
      | first h =>
          cases h with
          | command hnext => exact fun t ht => (hnext t ht).1
          | call => cases hus
          | content => cases hus
          | inner => cases hus
          | unclosed => cases hus
          | groupFlag => cases hus

/-- Only what has been taken and the next token tell a binding. -/
theorem Stops.beginsBinding {source : String} {us rest : List Token} {expected : Expectation}
    (h : Stops source .whole us rest.head? expected) (hbinding : BeginsBinding (us ++ rest)) :
    BeginsBinding (us ++ rest.head?.toList) := by
  obtain ⟨t, q, after, name, heq, ht, hq⟩ := hbinding
  match us with
  | [] =>
      have hrest : rest = t :: q :: after := heq
      rw [hrest] at h
      have hword := h.not_word t rfl
      simp [ht, Token.Kind.isWord] at hword
  | [u] =>
      obtain ⟨rfl, hrest⟩ := List.cons.inj heq
      have hrest : rest = q :: after := hrest
      rw [hrest]
      exact ⟨u, q, [], name, rfl, ht, hq⟩
  | u :: v :: us =>
      obtain ⟨rfl, hrest⟩ := List.cons.inj heq
      obtain ⟨rfl, -⟩ := List.cons.inj hrest
      exact ⟨u, v, _, name, rfl, ht, hq⟩

/-- A chain in which the reader stops does not begin with a closing parenthesis. -/
theorem Stops.chain_ne_close {source : String} {us : List Token} {next : Option Token}
    {expected : Expectation} (h : Stops source .chain us next expected) :
    ∀ t ∈ us.head?, t.kind ≠ .closeParen := by
  have hstage : ∀ {us : List Token}, Stops source .stage us next expected →
      ∀ t ∈ us.head?, t.kind ≠ .closeParen := by
    intro us h t ht hk
    cases h with
    | command => cases ht
    | call hword =>
        obtain rfl := Option.some.inj ht
        simp [hk] at hword
    | content hp | inner hp | unclosed hp | groupFlag hp =>
        obtain rfl := Option.some.inj ht
        simp [hk] at hp
  cases h with
  | first h => exact hstage h
  | @later us vs b _ _ _ hus hb hs =>
      obtain ⟨u, rest, rfl⟩ := List.exists_cons_of_ne_nil (ReadsChain.ne_nil hus)
      exact fun t ht => ReadsChain.head_ne_close hus t ht

/-! ## Completing what has been taken -/

def Part.Reads (ts : List Token) : Part → Prop
  | item _ => ∃ os fs, ReadsItem ts os fs
  | items _ => ∃ os fs, ReadsItems ts os fs
  | call stop => ∃ ls us os fs os' fs', ts = ls ++ us ∧ ReadsList stop ls os fs ∧
      ReadsArguments false us os' fs'
  | stage => ∃ s, ReadsStage false ts s
  | chain | whole => ∃ c, ReadsChain false ts c
  | line => ∃ tree, ReadsLine false ts tree

/-- A token to go on with. -/
def filler (kind : Token.Kind) : Token :=
  ⟨kind, "", ⟨0, 0⟩⟩

theorem readsChain_filler :
    ReadsChain false [filler (.word "")] (.stage (.call ⟨"", [], [], ⟨0, 0⟩⟩)) :=
  .stage (.call (.call rfl .none .nil))

/-- What has been taken where the reader stops can be completed. -/
theorem Stops.completes {source : String} {part : Part} {us : List Token} {next : Option Token}
    {expected : Expectation} (h : Stops source part us next expected) :
    ∃ vs, part.Reads (us ++ vs) := by
  induction h with
  | operand => exact ⟨[filler (.word "")], _, _, .operand (.word rfl)⟩
  | @value column k e next hk he =>
      obtain ⟨name, hname⟩ : ∃ name, k.kind = .word name := by
        cases hkind : k.kind <;> simp [hkind, Token.Kind.isWord] at hk
        exact ⟨_, rfl⟩
      exact ⟨[filler (.word "")], _, _, .named hname he (.word rfl)⟩
  | item _ ih =>
      obtain ⟨vs, os, fs, hreads⟩ := ih
      exact ⟨vs, os, fs, .one hreads⟩
  | @separator column us os fs next hus =>
      rw [← List.append_nil us] at hus
      exact ⟨[], os, fs, .one hus⟩
  | more hus hc _ ih =>
      obtain ⟨vs, os, fs, hreads⟩ := ih
      refine ⟨vs, ?_⟩
      rw [List.append_assoc]
      exact ⟨_, _, .more hus hc hreads⟩
  | @list stop p us next expected hp hstart _ _ ih =>
      obtain ⟨vs, os, fs, hreads⟩ := ih
      refine ⟨vs ++ [filler .closeParen], p :: (us ++ vs ++ [filler .closeParen]), [], os, fs, _, _,
        ?_, .items hp hstart hreads rfl, .nil⟩
      simp
  | argument hls hts _ | apart hls hts _ _ =>
      exact ⟨[], _, _, _, _, _, _, List.append_nil _, hls, hts.relax⟩
  | command => exact ⟨[filler (.word "")], _, .call (.call rfl .none .nil)⟩
  | call hk _ ih =>
      obtain ⟨vs, ls, us, os, fs, os', fs', heq, hls, hus⟩ := ih
      refine ⟨vs, ?_⟩
      rw [List.cons_append, heq]
      exact ⟨_, .call (.call hk hls hus)⟩
  | content hp _ =>
      have hclose : (filler .closeParen).kind = .closeParen := rfl
      have hgroup := ReadsStage.group hp readsChain_filler hclose .nil
      exact ⟨[filler (.word ""), filler .closeParen], _, hgroup⟩
  | @inner p us next expected hp _ _ ih =>
      obtain ⟨vs, c, hreads⟩ := ih
      refine ⟨vs ++ [filler .closeParen], ?_⟩
      rw [List.cons_append, ← List.append_assoc]
      exact ⟨_, .group hp hreads rfl .nil⟩
  | unclosed hp hus _ => exact ⟨[filler .closeParen], _, .group hp hus.relax rfl .nil⟩
  | groupFlag hp hus hq hvs _ _ _ =>
      refine ⟨[], ?_⟩
      rw [List.append_nil]
      exact ⟨_, .group hp hus.relax hq hvs⟩
  | first _ ih =>
      obtain ⟨vs, s, hreads⟩ := ih
      exact ⟨vs, _, .stage hreads⟩
  | later hus hb _ ih =>
      obtain ⟨vs, s, hreads⟩ := ih
      refine ⟨vs, ?_⟩
      rw [List.append_assoc]
      exact ⟨_, .pipe hus.relax hb hreads⟩
  | within _ ih => exact ih
  | behind hus _ =>
      refine ⟨[], ?_⟩
      rw [List.append_nil]
      exact ⟨_, hus.relax⟩
  | nothing => exact ⟨[filler (.word ""), filler .finish], _, .chain readsChain_filler rfl⟩
  | expression ht hname hq _ =>
      exact ⟨[filler (.word ""), filler .finish], _, .binding ht hname hq readsChain_filler rfl⟩
  | bound ht hname hq _ _ ih =>
      obtain ⟨vs, c, hreads⟩ := ih
      refine ⟨vs ++ [filler .finish], ?_⟩
      rw [List.cons_append, List.cons_append, ← List.append_assoc]
      exact ⟨_, .binding ht hname hq hreads rfl⟩
  | free _ _ _ ih =>
      obtain ⟨vs, c, hreads⟩ := ih
      refine ⟨vs ++ [filler .finish], ?_⟩
      rw [← List.append_assoc]
      exact ⟨_, .chain hreads rfl⟩

/-- Some line begins with the tokens. -/
def Begun (ts : List Token) : Prop :=
  ∃ us tree, ReadsLine false (ts ++ us) tree

theorem Stops.begun {source : String} {us : List Token} {next : Option Token}
    {expected : Expectation} (h : Stops source .line us next expected) : Begun us :=
  h.completes

/-! ## Hints -/

/-- The last parenthesis that the tokens open and do not close stands at a column. -/
def OpenAt (source : String) (column : Nat) (us : List Token) : Prop :=
  ∃ ts p inner, us = ts ++ p :: inner ∧ p.kind = .openParen ∧
    (∀ n, Token.openCount n inner = n) ∧ p.span.column source = column

theorem OpenAt.behind {source : String} {column : Nat} {us : List Token}
    (h : OpenAt source column us) (before : List Token) : OpenAt source column (before ++ us) := by
  obtain ⟨ts, p, inner, rfl, hp⟩ := h
  exact ⟨before ++ ts, p, inner, (List.append_assoc ..).symm, hp⟩

theorem OpenAt.cons {source : String} {column : Nat} {us : List Token}
    (h : OpenAt source column us) (t : Token) : OpenAt source column (t :: us) :=
  h.behind [t]

/-- What a hint at a column says of the tokens of a part. The parenthesis of a list stands in front of
its arguments, and there is none among them. -/
def Part.Hints (source : String) (column : Nat) (us : List Token) : Part → Prop
  | item opened | items opened => opened = column ∧ NoParen us
  | _ => OpenAt source column us

theorem column?_orClose {column opened : Nat} {next : Option Token} {expected : Expectation}
    (h : (orClose opened next expected).column? = some column) (hnone : expected.column? = none) :
    atEnd next = true ∧ opened = column := by
  unfold orClose at h
  split at h
  · next hend => exact ⟨hend, Option.some.inj h⟩
  · rw [hnone] at h
    cases h

/-- A hint comes only at the end, and names the last parenthesis that is open there. -/
theorem Stops.hinted {source : String} {part : Part} {us : List Token} {next : Option Token}
    {expected : Expectation} (h : Stops source part us next expected) {column : Nat}
    (hcolumn : expected.column? = some column) :
    atEnd next = true ∧ part.Hints source column us := by
  induction h with
  | operand =>
      obtain ⟨hend, rfl⟩ := column?_orClose hcolumn rfl
      exact ⟨hend, rfl, noParen_nil⟩
  | separator hus =>
      obtain ⟨hend, rfl⟩ := column?_orClose hcolumn rfl
      exact ⟨hend, rfl, hus.noParen⟩
  | item _ ih | first _ ih | within _ ih | free _ _ _ ih => exact ih hcolumn
  | more hus hc _ ih =>
      obtain ⟨hend, rfl, hvs⟩ := ih hcolumn
      exact ⟨hend, rfl, by simp [hus.noParen, hc, hvs]⟩
  | @list stop p us next expected hp _ _ _ ih =>
      obtain ⟨hend, rfl, hus⟩ := ih hcolumn
      exact ⟨hend, [], p, us, rfl, hp, hus.nested.balanced, rfl⟩
  | call _ _ ih | inner _ _ _ ih =>
      obtain ⟨hend, hopen⟩ := ih hcolumn
      exact ⟨hend, hopen.cons _⟩
  | @unclosed p us c next hp hus hend =>
      obtain rfl := Option.some.inj hcolumn
      exact ⟨hend, [], p, us, rfl, hp, hus.nested.balanced, rfl⟩
  | later _ _ _ ih =>
      obtain ⟨hend, hopen⟩ := ih hcolumn
      exact ⟨hend, (hopen.cons _).behind _⟩
  | bound _ _ _ _ _ ih =>
      obtain ⟨hend, hopen⟩ := ih hcolumn
      exact ⟨hend, (hopen.cons _).cons _⟩
  | value | argument | apart | command | content | groupFlag | behind | nothing | expression =>
      cases hcolumn

end Tree

end Sluice
