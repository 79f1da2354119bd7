import Sluice.Tree.Parser

/-!
# The grammar of lines

Which tokens read as which tree, without a word on how a reader finds out:

* line: `WORD '=' chain END` or `chain END`;
* chain: `stage ('|' stage)*`, joined from the left;
* stage: `'(' chain ')' flag*`, or a call;
* call: `WORD list? (operand | flag)*`;
* list: `'(' (item (',' item)*)? ')'`, right behind the word;
* item: `WORD '=' operand`, or an operand;
* flag: `FLAG operand?`;
* operand: a string, a number, a word or a point.

Behind a flag an operand may be read as the flag's value or as an argument of its own. With `greedy`,
a flag goes without a value only where no operand follows it.

Every rule puts the tokens of its parts next to each other, so that a tree's tokens are used once,
in order, and none is left out.
-/

namespace Sluice.Grammar

/-- Where tokens end that begin behind byte `stop`. -/
def stopAfter (stop : Nat) (ts : List Token) : Nat :=
  ts.foldl (fun _ t => t.span.stop) stop

/-- From the first byte of a token to the last byte of those behind it. -/
def cover (head : Token) (ts : List Token) : Span :=
  ⟨head.span.start, stopAfter head.span.stop ts⟩

/-- The tokens that stand for an operand. -/
inductive ReadsOperand : Token → Operand → Prop where
  | word {t : Token} {name : String} : t.kind = .word name → ReadsOperand t (.word name t.span)
  | quoted {t : Token} {text : String} :
      t.kind = .quoted text → ReadsOperand t (.literal (.str text) t.span)
  | number {t : Token} {n : Number} :
      t.kind = .number n → ReadsOperand t (.literal (.num n) t.span)
  | point {t : Token} : t.kind = .dot → ReadsOperand t (.word t.text t.span)

/-- An operand comes next. -/
def BeginsWithOperand (ts : List Token) : Prop :=
  ∃ t o rest, ts = t :: rest ∧ ReadsOperand t o

/-- `FLAG operand?` -/
inductive ReadsFlag : List Token → FlagNode → Prop where
  | alone {t : Token} {name : String} :
      t.kind = .flag name → ReadsFlag [t] ⟨name, none, t.span⟩
  | valued {t v : Token} {name : String} {o : Operand} :
      t.kind = .flag name → ReadsOperand v o → ReadsFlag [t, v] ⟨name, some o, cover t [v]⟩

/-- `(operand | flag)*` -/
inductive ReadsArguments (greedy : Bool) : List Token → List Operand → List FlagNode → Prop where
  | nil : ReadsArguments greedy [] [] []
  | operand {t : Token} {ts : List Token} {o : Operand} {os : List Operand} {fs : List FlagNode} :
      ReadsOperand t o → ReadsArguments greedy ts os fs →
        ReadsArguments greedy (t :: ts) (o :: os) fs
  | flag {us ts : List Token} {f : FlagNode} {os : List Operand} {fs : List FlagNode} :
      ReadsFlag us f → ReadsArguments greedy ts os fs →
        (greedy = true → f.value = none → ¬ BeginsWithOperand ts) →
          ReadsArguments greedy (us ++ ts) os (f :: fs)

/-- `flag*` -/
inductive ReadsFlags : List Token → List FlagNode → Prop where
  | nil : ReadsFlags [] []
  | flag {us ts : List Token} {f : FlagNode} {fs : List FlagNode} :
      ReadsFlag us f → ReadsFlags ts fs → ReadsFlags (us ++ ts) (f :: fs)

/-- `WORD '=' operand`, or an operand. -/
inductive ReadsItem : List Token → List Operand → List FlagNode → Prop where
  | operand {t : Token} {o : Operand} : ReadsOperand t o → ReadsItem [t] [o] []
  | named {k e v : Token} {name : String} {o : Operand} :
      k.kind = .word name → e.kind = .equals → ReadsOperand v o →
        ReadsItem [k, e, v] [] [⟨k.text, some o, cover k [e, v]⟩]

/-- `item (',' item)*` -/
inductive ReadsItems : List Token → List Operand → List FlagNode → Prop where
  | one {ts : List Token} {os : List Operand} {fs : List FlagNode} :
      ReadsItem ts os fs → ReadsItems ts os fs
  | more {ts us : List Token} {c : Token} {os os' : List Operand} {fs fs' : List FlagNode} :
      ReadsItem ts os fs → c.kind = .comma → ReadsItems us os' fs' →
        ReadsItems (ts ++ c :: us) (os ++ os') (fs ++ fs')

/-- `('(' (item (',' item)*)? ')')?`, the parenthesis at byte `stop`. -/
inductive ReadsList (stop : Nat) : List Token → List Operand → List FlagNode → Prop where
  | none : ReadsList stop [] [] []
  | empty {p q : Token} :
      p.kind = .openParen → p.span.start = stop → q.kind = .closeParen →
        ReadsList stop [p, q] [] []
  | items {p q : Token} {ts : List Token} {os : List Operand} {fs : List FlagNode} :
      p.kind = .openParen → p.span.start = stop → ReadsItems ts os fs → q.kind = .closeParen →
        ReadsList stop (p :: (ts ++ [q])) os fs

/-- `WORD list? (operand | flag)*` -/
inductive ReadsCall (greedy : Bool) : List Token → Call → Prop where
  | call {head : Token} {name : String} {ls ts : List Token} {os os' : List Operand}
      {fs fs' : List FlagNode} :
      head.kind = .word name → ReadsList head.span.stop ls os fs →
        ReadsArguments greedy ts os' fs' →
          ReadsCall greedy (head :: (ls ++ ts))
            ⟨name, os ++ os', fs ++ fs', cover head (ls ++ ts)⟩

mutual

/-- A call, or `'(' chain ')' flag*`. -/
inductive ReadsStage (greedy : Bool) : List Token → Stage → Prop where
  | call {ts : List Token} {c : Call} : ReadsCall greedy ts c → ReadsStage greedy ts (.call c)
  | group {p q : Token} {ts us : List Token} {inner : Chain} {fs : List FlagNode} :
      p.kind = .openParen → ReadsChain greedy ts inner → q.kind = .closeParen →
        ReadsFlags us fs →
          ReadsStage greedy (p :: (ts ++ q :: us)) (.group inner fs (cover p (ts ++ q :: us)))

/-- `stage ('|' stage)*`, joined from the left. -/
inductive ReadsChain (greedy : Bool) : List Token → Chain → Prop where
  | stage {ts : List Token} {s : Stage} : ReadsStage greedy ts s → ReadsChain greedy ts (.stage s)
  | pipe {ts us : List Token} {b : Token} {left : Chain} {right : Stage} :
      ReadsChain greedy ts left → b.kind = .pipe → ReadsStage greedy us right →
        ReadsChain greedy (ts ++ b :: us) (.pipe left right)

end

/-- `WORD '=' chain END`, the word an identifier, or `chain END`. -/
inductive ReadsLine (greedy : Bool) : List Token → Line → Prop where
  | chain {ts : List Token} {e : Token} {c : Chain} :
      ReadsChain greedy ts c → e.kind = .finish → ReadsLine greedy (ts ++ [e]) ⟨none, c⟩
  | binding {t q e : Token} {name : String} {ts : List Token} {c : Chain} :
      t.kind = .word name → Text.isIdentifier name = true → q.kind = .equals →
        ReadsChain greedy ts c → e.kind = .finish →
          ReadsLine greedy (t :: q :: (ts ++ [e])) ⟨some ⟨name, t.span.start⟩, c⟩

/-! ## Small facts -/

@[simp] theorem stopAfter_nil (stop : Nat) : stopAfter stop [] = stop := rfl

@[simp] theorem stopAfter_cons (stop : Nat) (t : Token) (ts : List Token) :
    stopAfter stop (t :: ts) = stopAfter t.span.stop ts := rfl

theorem stopAfter_append (stop : Nat) (ts us : List Token) :
    stopAfter stop (ts ++ us) = stopAfter (stopAfter stop ts) us :=
  List.foldl_append

theorem readsOperand_iff {t : Token} {o : Operand} :
    ReadsOperand t o ↔ t.kind.isOperand = true ∧ o = Tree.operand t := by
  constructor
  · rintro (h | h | h | h) <;> simp [h, Tree.operand, Token.Kind.isOperand]
  · rintro ⟨h, rfl⟩
    unfold Tree.operand
    cases hk : t.kind with
    | word name => exact .word hk
    | quoted text => exact .quoted hk
    | number n => exact .number hk
    | dot => exact .point hk
    | _ => simp [hk, Token.Kind.isOperand] at h

theorem ReadsOperand.isOperand {t : Token} {o : Operand} (h : ReadsOperand t o) :
    t.kind.isOperand = true :=
  (readsOperand_iff.1 h).1

theorem beginsWithOperand_cons {t : Token} {ts : List Token} :
    BeginsWithOperand (t :: ts) ↔ t.kind.isOperand = true := by
  constructor
  · rintro ⟨_, o, _, h, ho⟩
    obtain ⟨rfl, rfl⟩ := List.cons.inj h
    exact ho.isOperand
  · intro h
    exact ⟨t, _, ts, rfl, readsOperand_iff.2 ⟨h, rfl⟩⟩

theorem not_beginsWithOperand_nil : ¬ BeginsWithOperand [] := by
  rintro ⟨_, _, _, h, _⟩
  cases h

/-! ## No part takes an end mark -/

/-- No end mark is among the tokens. -/
def NoFinish (ts : List Token) : Prop :=
  ∀ t ∈ ts, t.kind ≠ .finish

@[simp] theorem noFinish_nil : NoFinish [] := by
  simp [NoFinish]

@[simp] theorem noFinish_cons {t : Token} {ts : List Token} :
    NoFinish (t :: ts) ↔ t.kind ≠ .finish ∧ NoFinish ts :=
  List.forall_mem_cons

@[simp] theorem noFinish_append {ts us : List Token} :
    NoFinish (ts ++ us) ↔ NoFinish ts ∧ NoFinish us :=
  List.forall_mem_append

theorem ReadsOperand.not_finish {t : Token} {o : Operand} (h : ReadsOperand t o) :
    t.kind ≠ .finish := by
  intro hk
  have h := h.isOperand
  simp [hk, Token.Kind.isOperand] at h

theorem ReadsFlag.noFinish {ts : List Token} {f : FlagNode} (h : ReadsFlag ts f) :
    NoFinish ts := by
  cases h with
  | alone hk => simp [hk]
  | valued hk ho => simp [hk, ho.not_finish]

theorem ReadsArguments.noFinish {greedy : Bool} {ts : List Token} {os : List Operand}
    {fs : List FlagNode} (h : ReadsArguments greedy ts os fs) : NoFinish ts := by
  induction h with
  | nil => exact noFinish_nil
  | operand ho _ ih => exact noFinish_cons.2 ⟨ho.not_finish, ih⟩
  | flag hf _ _ ih => exact noFinish_append.2 ⟨hf.noFinish, ih⟩

theorem ReadsFlags.noFinish {ts : List Token} {fs : List FlagNode} (h : ReadsFlags ts fs) :
    NoFinish ts := by
  induction h with
  | nil => exact noFinish_nil
  | flag hf _ ih => exact noFinish_append.2 ⟨hf.noFinish, ih⟩

theorem ReadsItem.noFinish {ts : List Token} {os : List Operand} {fs : List FlagNode}
    (h : ReadsItem ts os fs) : NoFinish ts := by
  cases h with
  | operand ho => simp [ho.not_finish]
  | named hk he ho => simp [hk, he, ho.not_finish]

theorem ReadsItems.noFinish {ts : List Token} {os : List Operand} {fs : List FlagNode}
    (h : ReadsItems ts os fs) : NoFinish ts := by
  induction h with
  | one h => exact h.noFinish
  | more h hc _ ih => simp [h.noFinish, hc, ih]

theorem ReadsList.noFinish {stop : Nat} {ts : List Token} {os : List Operand}
    {fs : List FlagNode} (h : ReadsList stop ts os fs) : NoFinish ts := by
  cases h with
  | none => exact noFinish_nil
  | empty hp _ hq => simp [hp, hq]
  | items hp _ h hq => simp [hp, h.noFinish, hq]

mutual

theorem ReadsStage.noFinish {greedy : Bool} : ∀ {s : Stage} {ts : List Token},
    ReadsStage greedy ts s → NoFinish ts
  | .call _, _, .call (.call hk hl ha) => by simp [hk, hl.noFinish, ha.noFinish]
  | .group _ _ _, _, .group hp h hq hf => by simp [hp, h.noFinish, hq, hf.noFinish]

theorem ReadsChain.noFinish {greedy : Bool} : ∀ {c : Chain} {ts : List Token},
    ReadsChain greedy ts c → NoFinish ts
  | .stage _, _, .stage h => h.noFinish
  | .pipe _ _, _, .pipe hl hb hr => by simp [hl.noFinish, hb, hr.noFinish]

end

/-! ## A greedy reading exists

The grammar leaves open whether an operand behind a flag is its value; moving it into the flag
changes what the tokens mean but not that they have a reading.
-/

theorem ReadsArguments.greedy {ts : List Token} {os : List Operand} {fs : List FlagNode}
    (h : ReadsArguments false ts os fs) : ∃ os' fs', ReadsArguments true ts os' fs' := by
  induction h with
  | nil => exact ⟨_, _, .nil⟩
  | operand ho _ ih =>
      obtain ⟨os', fs', ih⟩ := ih
      exact ⟨_, _, .operand ho ih⟩
  | @flag us ts f os fs hf _ _ ih =>
      obtain ⟨os', fs', ih⟩ := ih
      cases hf with
      | valued hk ho => exact ⟨_, _, .flag (.valued hk ho) ih (fun _ h => nomatch h)⟩
      | @alone t name hk =>
          cases ih with
          | nil => exact ⟨_, _, .flag (.alone hk) .nil fun _ _ => not_beginsWithOperand_nil⟩
          | operand ho ih =>
              have hvalued := ReadsArguments.flag (.valued hk ho) ih fun _ h => nomatch h
              exact ⟨_, _, hvalued⟩
          | @flag us ts g os gs hg ih hgreedy =>
              refine ⟨_, _, .flag (.alone hk) (.flag hg ih hgreedy) fun _ _ => ?_⟩
              cases hg with
              | alone hk' =>
                  rw [List.singleton_append, beginsWithOperand_cons, hk']
                  exact Bool.false_ne_true
              | valued hk' _ =>
                  rw [List.cons_append, beginsWithOperand_cons, hk']
                  exact Bool.false_ne_true

theorem ReadsCall.greedy {ts : List Token} {c : Call} (h : ReadsCall false ts c) :
    ∃ c', ReadsCall true ts c' := by
  obtain ⟨hk, hl, ha⟩ := h
  obtain ⟨os', fs', ha⟩ := ha.greedy
  exact ⟨_, .call hk hl ha⟩

mutual

theorem ReadsStage.greedy : ∀ {s : Stage} {ts : List Token}, ReadsStage false ts s →
    ∃ s', ReadsStage true ts s'
  | .call _, _, .call h => by
    obtain ⟨c', h⟩ := h.greedy
    exact ⟨_, .call h⟩
  | .group inner _ _, _, .group hp h hq hf => by
    obtain ⟨inner', h⟩ := ReadsChain.greedy h
    exact ⟨_, .group hp h hq hf⟩

theorem ReadsChain.greedy : ∀ {c : Chain} {ts : List Token}, ReadsChain false ts c →
    ∃ c', ReadsChain true ts c'
  | .stage s, _, .stage h => by
    obtain ⟨s', h⟩ := ReadsStage.greedy h
    exact ⟨_, .stage h⟩
  | .pipe left right, _, .pipe hl hb hr => by
    obtain ⟨left', hl⟩ := ReadsChain.greedy hl
    obtain ⟨right', hr⟩ := ReadsStage.greedy hr
    exact ⟨_, .pipe hl hb hr⟩

end

theorem ReadsLine.greedy {ts : List Token} {line : Line} (h : ReadsLine false ts line) :
    ∃ line', ReadsLine true ts line' := by
  cases h with
  | chain h he =>
      obtain ⟨c', h⟩ := h.greedy
      exact ⟨_, .chain h he⟩
  | binding ht hname hq h he =>
      obtain ⟨c', h⟩ := h.greedy
      exact ⟨_, .binding ht hname hq h he⟩

/-! ## A greedy reading is a reading -/

theorem ReadsArguments.relax {greedy : Bool} {ts : List Token} {os : List Operand}
    {fs : List FlagNode} (h : ReadsArguments greedy ts os fs) : ReadsArguments false ts os fs := by
  induction h with
  | nil => exact .nil
  | operand ho _ ih => exact .operand ho ih
  | flag hf _ _ ih => exact .flag hf ih fun h => nomatch h

mutual

theorem ReadsStage.relax {greedy : Bool} : ∀ {s : Stage} {ts : List Token},
    ReadsStage greedy ts s → ReadsStage false ts s
  | .call _, _, .call (.call hk hl ha) => .call (.call hk hl ha.relax)
  | .group _ _ _, _, .group hp h hq hf => .group hp h.relax hq hf

theorem ReadsChain.relax {greedy : Bool} : ∀ {c : Chain} {ts : List Token},
    ReadsChain greedy ts c → ReadsChain false ts c
  | .stage _, _, .stage h => .stage h.relax
  | .pipe _ _, _, .pipe hl hb hr => .pipe hl.relax hb hr.relax

end

theorem ReadsLine.relax {greedy : Bool} {ts : List Token} {line : Line}
    (h : ReadsLine greedy ts line) : ReadsLine false ts line := by
  cases h with
  | chain h he => exact .chain h.relax he
  | binding ht hname hq h he => exact .binding ht hname hq h.relax he

end Sluice.Grammar
