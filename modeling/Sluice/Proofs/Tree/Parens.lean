import Sluice.Proofs.Token.Scanning
import Sluice.Proofs.Tree.Grammar

/-!
# Parentheses in the grammar

Every rule of the grammar that opens a parenthesis closes it, and a parenthesis opens only behind a
word, another sign, or at the front. Hence the tokens of a line leave nothing open
(`ReadsLine.nested`), and nowhere in them do the lexer and the pass over the characters part.
-/

namespace Sluice.Grammar

open Token

/-! ## Tokens without parentheses -/

def NoParen (ts : List Token) : Prop :=
  ∀ t ∈ ts, t.kind ≠ .openParen ∧ t.kind ≠ .closeParen

@[simp] theorem noParen_nil : NoParen [] := by
  simp [NoParen]

@[simp] theorem noParen_cons {t : Token} {ts : List Token} :
    NoParen (t :: ts) ↔ (t.kind ≠ .openParen ∧ t.kind ≠ .closeParen) ∧ NoParen ts :=
  List.forall_mem_cons

@[simp] theorem noParen_append {ts us : List Token} :
    NoParen (ts ++ us) ↔ NoParen ts ∧ NoParen us :=
  List.forall_mem_append

theorem ReadsOperand.not_paren {t : Token} {o : Operand} (h : ReadsOperand t o) :
    t.kind ≠ .openParen ∧ t.kind ≠ .closeParen := by
  cases h with
  | word hk => simp [hk]
  | quoted hk => simp [hk]
  | number hk => simp [hk]
  | point hk => simp [hk]

theorem ReadsFlag.noParen {ts : List Token} {f : FlagNode} (h : ReadsFlag ts f) : NoParen ts := by
  cases h with
  | alone hk => simp [hk]
  | valued hk ho => simp [hk, ho.not_paren]

theorem ReadsArguments.noParen {greedy : Bool} {ts : List Token} {os : List Operand}
    {fs : List FlagNode} (h : ReadsArguments greedy ts os fs) : NoParen ts := by
  induction h with
  | nil => exact noParen_nil
  | operand ho _ ih => exact noParen_cons.2 ⟨ho.not_paren, ih⟩
  | flag hf _ _ ih => exact noParen_append.2 ⟨hf.noParen, ih⟩

theorem ReadsFlags.noParen {ts : List Token} {fs : List FlagNode} (h : ReadsFlags ts fs) :
    NoParen ts := by
  induction h with
  | nil => exact noParen_nil
  | flag hf _ ih => exact noParen_append.2 ⟨hf.noParen, ih⟩

theorem ReadsItem.noParen {ts : List Token} {os : List Operand} {fs : List FlagNode}
    (h : ReadsItem ts os fs) : NoParen ts := by
  cases h with
  | operand ho => simp [ho.not_paren]
  | named hk he ho => simp [hk, he, ho.not_paren]

theorem ReadsItems.noParen {ts : List Token} {os : List Operand} {fs : List FlagNode}
    (h : ReadsItems ts os fs) : NoParen ts := by
  induction h with
  | one h => exact h.noParen
  | more h hc _ ih => simp [h.noParen, hc, ih]

/-! ## Nested parentheses -/

/-- A parenthesis opens behind a token that names a command, or that is a sign. -/
def Introduces (t u : Token) : Prop :=
  u.kind = .openParen → t.kind.isNameless = false

/-- Tokens that close every parenthesis that they open and no other, and that introduce it. -/
structure Nested (ts : List Token) : Prop where
  balanced : ∀ n, openCount n ts = n
  introduced : ts.IsChain Introduces

theorem Nested.unjoined {ts : List Token} (h : Nested ts) : Unjoined ts :=
  h.introduced.imp fun _ _ hintroduces hkind _ => hintroduces hkind

theorem NoParen.nested {ts : List Token} (h : NoParen ts) : Nested ts := by
  induction ts with
  | nil => exact ⟨fun _ => rfl, .nil⟩
  | cons t ts ih =>
      obtain ⟨ht, hts⟩ := noParen_cons.1 h
      obtain ⟨hbalanced, hintroduced⟩ := ih hts
      refine ⟨fun n => ?_, List.isChain_cons.2 ⟨fun u hu hkind => ?_, hintroduced⟩⟩
      · rw [openCount]
        split
        · next hkind => exact absurd hkind ht.1
        · next hkind => exact absurd hkind ht.2
        · exact hbalanced n
      · exact absurd hkind (hts u (List.mem_of_mem_head? hu)).1

theorem Nested.append {ts us : List Token} (hts : Nested ts) (hus : Nested us)
    (hfirst : ∀ u ∈ us.head?, ∀ t ∈ ts.getLast?, Introduces t u) : Nested (ts ++ us) := by
  refine ⟨fun n => ?_, List.isChain_append.2 ⟨hts.introduced, hus.introduced, ?_⟩⟩
  · rw [openCount_append, hts.balanced, hus.balanced]
  · exact fun t ht u hu => hfirst u hu t ht

/-- Tokens that begin with no parenthesis may stand behind any others. -/
theorem Nested.append_of_head {ts us : List Token} (hts : Nested ts) (hus : Nested us)
    (hfirst : ∀ u ∈ us.head?, u.kind ≠ .openParen) : Nested (ts ++ us) :=
  hts.append hus fun u hu _ _ hkind => absurd hkind (hfirst u hu)

theorem Nested.append_noParen {ts us : List Token} (hts : Nested ts) (hus : NoParen us) :
    Nested (ts ++ us) :=
  hts.append_of_head hus.nested fun u hu => (hus u (List.mem_of_mem_head? hu)).1

/-- A word or a sign may stand in front of any others. -/
theorem Nested.cons {t : Token} {ts : List Token} (h : Nested ts)
    (ht : t.kind ≠ .openParen ∧ t.kind ≠ .closeParen) (hname : t.kind.isNameless = false) :
    Nested (t :: ts) := by
  have hsingle : NoParen [t] := noParen_cons.2 ⟨ht, noParen_nil⟩
  refine hsingle.nested.append h fun u _ t' ht' _ => ?_
  obtain rfl : t = t' := by simpa using ht'
  exact hname

/-- Parentheses around tokens. -/
theorem Nested.enclosed {p q : Token} {ts : List Token} (h : Nested ts) (hp : p.kind = .openParen)
    (hq : q.kind = .closeParen) : Nested (p :: (ts ++ [q])) := by
  refine ⟨fun n => ?_, List.isChain_cons.2 ⟨fun _ _ _ => ?_, List.isChain_append.2 ?_⟩⟩
  · simp [openCount, openCount_append, h.balanced, hp, hq]
  · rw [hp]
    rfl
  · refine ⟨h.introduced, .singleton q, fun _ _ u hu hkind => ?_⟩
    obtain rfl : q = u := by simpa using hu
    simp [hq] at hkind

/-! ## Every line is nested -/

theorem ReadsList.nested {stop : Nat} {ts : List Token} {os : List Operand} {fs : List FlagNode}
    (h : ReadsList stop ts os fs) : Nested ts := by
  cases h with
  | none => exact noParen_nil.nested
  | empty hp _ hq => exact noParen_nil.nested.enclosed hp hq
  | items hp _ h hq => exact h.noParen.nested.enclosed hp hq

theorem ReadsCall.nested {greedy : Bool} {ts : List Token} {c : Call}
    (h : ReadsCall greedy ts c) : Nested ts := by
  obtain ⟨hk, hl, ha⟩ := h
  have hrest := hl.nested.append_noParen ha.noParen
  exact hrest.cons (by simp [hk]) (by rw [hk]; rfl)

mutual

theorem ReadsStage.nested {greedy : Bool} : ∀ {s : Stage} {ts : List Token},
    ReadsStage greedy ts s → Nested ts
  | .call _, _, .call h => h.nested
  | .group _ _ _, _, .group hp h hq hf => by
    have henclosed := (ReadsChain.nested h).enclosed hp hq
    have happend := henclosed.append_noParen hf.noParen
    simpa using happend

theorem ReadsChain.nested {greedy : Bool} : ∀ {c : Chain} {ts : List Token},
    ReadsChain greedy ts c → Nested ts
  | .stage _, _, .stage h => h.nested
  | .pipe _ _, _, @ReadsChain.pipe _ _ _ b _ _ hl hb hr => by
    have hright := (ReadsStage.nested hr).cons (t := b) (by simp [hb]) (by rw [hb]; rfl)
    refine (ReadsChain.nested hl).append_of_head hright fun u hu hkind => ?_
    obtain rfl := Option.some.inj hu
    simp [hb] at hkind

end

/-- The tokens of a line close what they open. -/
theorem ReadsLine.nested {greedy : Bool} {ts : List Token} {line : Line}
    (h : ReadsLine greedy ts line) : Nested ts := by
  cases h with
  | chain h he => exact h.nested.append_noParen (by simp [he])
  | @binding t q e _ ts _ ht _ hq h he =>
      have hend : NoParen [e] := by simp [he]
      have hbody := h.nested.append_noParen hend
      have hbound := hbody.cons (t := q) (by simp [hq]) (by rw [hq]; rfl)
      exact hbound.cons (by simp [ht]) (by rw [ht]; rfl)

end Sluice.Grammar
