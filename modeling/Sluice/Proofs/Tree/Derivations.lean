import Sluice.Proofs.Program.Building
import Sluice.Proofs.Tree.Nodes

/-!
# Where the nodes of a tree stand

Every node of a line's tree is read from tokens that stand next to each other, and its span goes from
the first byte of the first of them to the last byte of the last one (`Derives.spans`). What a node
holds is read from tokens within these, row by row one behind the other (`Derives.rows`). Since the
tokens of a text ascend, so do the spans.
-/

namespace Sluice.Grammar

/-! ## Derivations -/

/-- The tokens that a node is read from. -/
inductive Derives : List Token → Node → Prop where
  | operand {t : Token} {o : Operand} : ReadsOperand t o → Derives [t] o.node
  | flag {ts : List Token} {f : FlagNode} : ReadsFlag ts f → Derives ts f.node
  /-- The argument `name=operand` of a list. -/
  | pair {ts : List Token} {f : FlagNode} : ReadsItem ts [] [f] → Derives ts f.node
  | stage {ts : List Token} {s : Stage} : ReadsStage true ts s → Derives ts s.node
  | chain {ts : List Token} {c : Chain} : ReadsChain true ts c → Derives ts c.node
  | binding {t q : Token} {name : String} {ts : List Token} {c : Chain} :
      t.kind = .word name → q.kind = .equals → ReadsChain true ts c →
        Derives (t :: q :: ts) (Line.node ⟨some ⟨name, t.span.start⟩, c⟩)

/-- Nodes that are read one behind the other, and other tokens around them. -/
inductive Row : List Token → List Node → Prop where
  | nil : Row [] []
  | skip {t : Token} {ts : List Token} {ns : List Node} : Row ts ns → Row (t :: ts) ns
  | node {us ts : List Token} {n : Node} {ns : List Node} :
      Derives us n → Row ts ns → Row (us ++ ts) (n :: ns)

/-! ## Rows -/

theorem Row.skipAll {ts : List Token} {ns : List Node} (us : List Token) (h : Row ts ns) :
    Row (us ++ ts) ns := by
  induction us with
  | nil => exact h
  | cons u us ih => exact ih.skip

theorem Row.none (ts : List Token) : Row ts [] := by
  have h := Row.skipAll ts .nil
  rwa [List.append_nil] at h

theorem Row.one {ts : List Token} {n : Node} (h : Derives ts n) : Row ts [n] := by
  have h := Row.node h .nil
  rwa [List.append_nil] at h

theorem Row.append {ts us : List Token} {ns ms : List Node} (h : Row ts ns) (h' : Row us ms) :
    Row (ts ++ us) (ns ++ ms) := by
  induction h with
  | nil => exact h'
  | skip _ ih => exact ih.skip
  | node hn _ ih =>
      rw [List.append_assoc]
      exact .node hn ih

theorem Row.of_mem {ts : List Token} {ns : List Node} (h : Row ts ns) {n : Node} (hn : n ∈ ns) :
    ∃ us, us <:+: ts ∧ Derives us n := by
  induction h with
  | nil => cases hn
  | @skip t ts ns _ ih =>
      obtain ⟨us, hus, hderives⟩ := ih hn
      exact ⟨us, hus.trans (List.suffix_cons t ts).isInfix, hderives⟩
  | @node us ts m ns hm _ ih =>
      rcases List.mem_cons.1 hn with rfl | hn
      · exact ⟨us, (List.prefix_append us ts).isInfix, hm⟩
      · obtain ⟨vs, hvs, hderives⟩ := ih hn
        exact ⟨vs, hvs.trans (List.suffix_append us ts).isInfix, hderives⟩

/-! ## What the parts hold -/

theorem ReadsFlag.row {ts : List Token} {f : FlagNode} (h : ReadsFlag ts f) :
    Row ts (f.value.map Operand.node).toList := by
  cases h with
  | alone _ => exact .none _
  | valued _ ho => exact .skip (.one (.operand ho))

theorem ReadsArguments.rows {greedy : Bool} {ts : List Token} {os : List Operand}
    {fs : List FlagNode} (h : ReadsArguments greedy ts os fs) :
    Row ts (os.map Operand.node) ∧ Row ts (fs.map FlagNode.node) := by
  induction h with
  | nil => exact ⟨.nil, .nil⟩
  | operand ho _ ih => exact ⟨.node (.operand ho) ih.1, .skip ih.2⟩
  | @flag us _ _ _ _ hf _ _ ih => exact ⟨.skipAll us ih.1, .node (.flag hf) ih.2⟩

theorem ReadsFlags.row {ts : List Token} {fs : List FlagNode} (h : ReadsFlags ts fs) :
    Row ts (fs.map FlagNode.node) := by
  induction h with
  | nil => exact .nil
  | flag hf _ ih => exact .node (.flag hf) ih

theorem ReadsItem.rows {ts : List Token} {os : List Operand} {fs : List FlagNode}
    (h : ReadsItem ts os fs) : Row ts (os.map Operand.node) ∧ Row ts (fs.map FlagNode.node) := by
  cases h with
  | operand ho => exact ⟨.one (.operand ho), .none _⟩
  | named hk he ho => exact ⟨.none _, .one (.pair (.named hk he ho))⟩

theorem ReadsItems.rows {ts : List Token} {os : List Operand} {fs : List FlagNode}
    (h : ReadsItems ts os fs) : Row ts (os.map Operand.node) ∧ Row ts (fs.map FlagNode.node) := by
  induction h with
  | one h => exact h.rows
  | more h _ _ ih =>
      rw [List.map_append, List.map_append]
      exact ⟨h.rows.1.append (.skip ih.1), h.rows.2.append (.skip ih.2)⟩

theorem ReadsList.rows {stop : Nat} {ts : List Token} {os : List Operand} {fs : List FlagNode}
    (h : ReadsList stop ts os fs) :
    Row ts (os.map Operand.node) ∧ Row ts (fs.map FlagNode.node) := by
  cases h with
  | none => exact ⟨.nil, .nil⟩
  | empty _ _ _ => exact ⟨.none _, .none _⟩
  | @items _ q _ _ _ _ _ h _ =>
      have hoperands := h.rows.1.append (.none [q])
      have hflags := h.rows.2.append (.none [q])
      rw [List.append_nil] at hoperands hflags
      exact ⟨hoperands.skip, hflags.skip⟩

theorem ReadsCall.rows {ts : List Token} {c : Call} (h : ReadsCall true ts c) :
    Row ts (c.positional.map Operand.node) ∧ Row ts (c.flags.map FlagNode.node) := by
  obtain ⟨-, hl, ha⟩ := h
  rw [List.map_append, List.map_append]
  exact ⟨(hl.rows.1.append ha.rows.1).skip, (hl.rows.2.append ha.rows.2).skip⟩

theorem ReadsStage.rows {ts : List Token} {s : Stage} (h : ReadsStage true ts s) :
    ∀ row ∈ s.node.rows, Row ts row := by
  cases h with
  | call h => exact List.forall_mem_cons.2 ⟨h.rows.1, List.forall_mem_singleton.2 h.rows.2⟩
  | @group p q ts us inner fs _ h _ hf =>
      have hflags : Row (q :: us) (fs.map FlagNode.node) := .skip hf.row
      exact List.forall_mem_singleton.2 (.skip (.node (.chain h) hflags))

theorem ReadsChain.rows {ts : List Token} {c : Chain} (h : ReadsChain true ts c) :
    ∀ row ∈ c.node.rows, Row ts row := by
  cases h with
  | stage h => exact h.rows
  | pipe hl _ hr =>
      exact List.forall_mem_singleton.2 (.node (.chain hl) (.skip (.one (.stage hr))))

/-- What a node holds is read from its tokens. -/
theorem Derives.rows {ts : List Token} {n : Node} (h : Derives ts n) : ∀ row ∈ n.rows, Row ts row := by
  cases h with
  | @operand _ o _ => cases o <;> exact List.forall_mem_nil _
  | flag h => exact List.forall_mem_singleton.2 h.row
  | pair h =>
      cases h with
      | named _ _ ho => exact List.forall_mem_singleton.2 (.skip (.skip (.one (.operand ho))))
  | stage h => exact h.rows
  | chain h => exact h.rows
  | binding _ _ h => exact List.forall_mem_singleton.2 (.skip (.skip (.one (.chain h))))

/-! ## Spans -/

/-- A span from the first byte of the first token to the last byte of the last one. -/
def Spans (ts : List Token) (span : Span) : Prop :=
  ∃ t ∈ ts.head?, ∃ u ∈ ts.getLast?, span = ⟨t.span.start, u.span.stop⟩

theorem spans_cover (head : Token) (ts : List Token) : Spans (head :: ts) (cover head ts) := by
  refine ⟨head, rfl, ?_⟩
  suffices h : ∃ u ∈ (head :: ts).getLast?, stopAfter head.span.stop ts = u.span.stop by
    obtain ⟨u, hu, hstop⟩ := h
    exact ⟨u, hu, congrArg (Span.mk _) hstop⟩
  induction ts generalizing head with
  | nil => exact ⟨head, rfl, rfl⟩
  | cons t ts ih =>
      rw [List.getLast?_cons_cons, stopAfter_cons]
      exact ih t

theorem spans_singleton (t : Token) : Spans [t] t.span :=
  spans_cover t []

/-- Around and between two parts, from the first byte of one to the last byte of the other. -/
theorem Spans.join {ts us : List Token} {a b : Span} (ha : Spans ts a) (hb : Spans us b)
    (between : List Token) : Spans (ts ++ between ++ us) ⟨a.start, b.stop⟩ := by
  obtain ⟨t, ht, -, -, rfl⟩ := ha
  obtain ⟨-, -, u, hu, rfl⟩ := hb
  refine ⟨t, ?_, u, ?_, rfl⟩
  · rw [List.append_assoc]
    exact List.mem_head?_append_of_mem_head? ht
  · exact List.mem_getLast?_append_of_mem_getLast? hu

theorem Spans.covers {ts : List Token} {span : Span} (h : Spans ts span) : Covers ts span := by
  obtain ⟨t, ht, u, hu, hspan⟩ := h
  exact ⟨t, List.mem_of_mem_head? ht, u, List.mem_of_getLast? hu, hspan⟩

theorem ReadsStage.spans {ts : List Token} {s : Stage} (h : ReadsStage true ts s) :
    Spans ts s.span := by
  cases h with
  | call h =>
      cases h with
      | call _ _ _ => exact spans_cover _ _
  | group _ _ _ _ => exact spans_cover _ _

theorem ReadsChain.spans : ∀ {c : Chain} {ts : List Token}, ReadsChain true ts c → Spans ts c.span
  | .stage _, _, .stage h => h.spans
  | .pipe _ _, _, @ReadsChain.pipe _ _ _ b _ _ hl _ hr => by
    have h := (ReadsChain.spans hl).join hr.spans [b]
    rwa [List.append_assoc] at h

/-- A node stands where the tokens stand that it is read from. -/
theorem Derives.spans {ts : List Token} {n : Node} (h : Derives ts n) : Spans ts n.span := by
  cases h with
  | operand h => cases h <;> exact spans_singleton _
  | flag h =>
      cases h with
      | alone _ => exact spans_singleton _
      | valued _ _ => exact spans_cover _ _
  | pair h =>
      cases h with
      | named _ _ _ => exact spans_cover _ _
  | stage h =>
      rw [Stage.span_node]
      exact h.spans
  | chain h =>
      rw [Chain.span_node]
      exact h.spans
  | @binding t q _ _ _ _ _ h =>
      rw [Line.span_node]
      exact (spans_singleton t).join h.spans [q]

/-! ## Tokens that ascend -/

/-- Tokens that stand one behind the other, none of them empty. -/
structure Ascending (ts : List Token) : Prop where
  nonempty : ∀ t ∈ ts, t.span.start < t.span.stop
  ascend : ts.Pairwise fun t u => t.span.Before u.span

theorem Ascending.ofInfix {ts us : List Token} (h : Ascending ts) (hus : us <:+: ts) :
    Ascending us :=
  ⟨fun t ht => h.nonempty t (hus.subset ht), h.ascend.sublist hus.sublist⟩

theorem Spans.start_le {ts : List Token} {span : Span} (h : Spans ts span) (hts : Ascending ts) :
    ∀ t ∈ ts, span.start ≤ t.span.start := by
  obtain ⟨head, hhead, u, -, rfl⟩ := h
  obtain ⟨rest, rfl⟩ := List.head?_eq_some_iff.1 hhead
  intro t ht
  rcases List.mem_cons.1 ht with rfl | ht
  · exact Nat.le_refl _
  · exact Nat.le_of_lt ((List.pairwise_cons.1 hts.ascend).1 t ht).1

theorem Spans.le_stop {ts : List Token} {span : Span} (h : Spans ts span) (hts : Ascending ts) :
    ∀ t ∈ ts, t.span.stop ≤ span.stop := by
  obtain ⟨head, -, last, hlast, rfl⟩ := h
  obtain ⟨front, rfl⟩ := List.getLast?_eq_some_iff.1 hlast
  intro t ht
  rcases List.mem_append.1 ht with hfront | hend
  · have hstop := ((List.pairwise_append.1 hts.ascend).2.2 t hfront last List.mem_cons_self).2
    have hnonempty := hts.nonempty last (List.mem_append_right _ List.mem_cons_self)
    exact Nat.le_trans hstop (Nat.le_of_lt hnonempty)
  · obtain rfl := List.mem_singleton.1 hend
    exact Nat.le_refl _

/-- What covers some of the tokens stays inside. -/
theorem Spans.inside {ts us : List Token} {outer inner : Span} (h : Spans ts outer)
    (hts : Ascending ts) (hinner : Covers us inner) (hus : us ⊆ ts) :
    outer.start ≤ inner.start ∧ inner.stop ≤ outer.stop := by
  obtain ⟨t, ht, u, hu, rfl⟩ := hinner
  exact ⟨h.start_le hts t (hus ht), h.le_stop hts u (hus hu)⟩

/-- Nodes read one behind the other stand one behind the other. -/
theorem Row.ascend {ts : List Token} {ns : List Node} (h : Row ts ns) (hts : Ascending ts) :
    ns.Pairwise fun a b => a.span.Before b.span := by
  induction h with
  | nil => exact .nil
  | @skip t ts _ _ ih => exact ih (hts.ofInfix (List.suffix_cons t ts).isInfix)
  | @node us ts n ns hn hns ih =>
      refine List.pairwise_cons.2 ⟨fun m hm => ?_, ih (hts.ofInfix (List.suffix_append us ts).isInfix)⟩
      obtain ⟨vs, hvs, hm⟩ := hns.of_mem hm
      refine hn.spans.covers.before (hm.spans.covers.mono hvs.subset) ?_
      exact (List.pairwise_append.1 hts.ascend).2.2

/-! ## Groups -/

/-- A chain between its parentheses, and the flags behind them, up to the last one if there is one. -/
def Enclosed (ts : List Token) (inner : Node) (flags : List Node) (span : Span) : Prop :=
  ∃ p us q vs, ts = p :: (us ++ q :: vs) ∧ p.kind = .openParen ∧ q.kind = .closeParen ∧
    Derives us inner ∧ Row vs flags ∧
      span = ⟨p.span.start, (flags.getLast?.map fun f => f.span.stop).getD q.span.stop⟩

theorem ReadsFlags.stopAfter_eq {ts : List Token} {fs : List FlagNode} (h : ReadsFlags ts fs)
    (stop : Nat) :
    stopAfter stop ts =
      ((fs.map FlagNode.node).getLast?.map fun f => f.span.stop).getD stop := by
  induction h generalizing stop with
  | nil => rfl
  | @flag us ts f fs hf hfs ih =>
      have hstop : stopAfter stop us = f.span.stop := by
        cases hf <;> rfl
      rw [stopAfter_append, hstop, ih, List.map_cons, List.getLast?_cons, Option.map_some,
        Option.getD_some]
      exact Option.getD_map (fun n : Node => n.span.stop) f.node _

theorem ReadsStage.enclosed {ts : List Token} {s : Stage} (h : ReadsStage true ts s) {inner : Node}
    {flags : List Node} {span : Span} (hs : s.node = .group inner flags span) :
    Enclosed ts inner flags span := by
  cases h with
  | call h => cases hs
  | @group p q us vs c fs hp h hq hf =>
      cases hs
      refine ⟨p, us, q, vs, rfl, hp, hq, .chain h, hf.row, ?_⟩
      rw [cover, stopAfter_append, stopAfter_cons, hf.stopAfter_eq]

theorem Derives.enclosed {ts : List Token} {n : Node} (h : Derives ts n) {inner : Node}
    {flags : List Node} {span : Span} (hn : n = .group inner flags span) :
    Enclosed ts inner flags span := by
  cases h with
  | @operand _ o _ => cases o <;> cases hn
  | stage h => exact h.enclosed hn
  | chain h =>
      cases h with
      | stage h => exact h.enclosed hn
      | pipe _ _ _ => cases hn
  | _ => cases hn

/-! ## Lines -/

theorem ReadsLine.derives {ts : List Token} {e : Token} {line : Line}
    (h : ReadsLine true (ts ++ [e]) line) : Derives ts line.node := by
  generalize hts : ts ++ [e] = us at h
  cases h with
  | chain hc _ =>
      obtain ⟨rfl, -⟩ := List.append_inj' hts rfl
      exact .chain hc
  | @binding t q e' _ vs _ ht _ hq hc _ =>
      obtain ⟨rfl, -⟩ : ts = t :: q :: vs ∧ [e] = [e'] := List.append_inj' hts rfl
      exact .binding ht hq hc

/-- A node among the tokens of a text. -/
structure Placed (ts : List Token) (n : Node) : Prop where
  derives : Derives ts n
  /-- From the first byte of the first token to the last byte of the last. -/
  spans : Spans ts n.span
  rows : ∀ row ∈ n.rows, Row ts row
  inside : ∀ row ∈ n.rows, ∀ m ∈ row, n.span.start ≤ m.span.start ∧ m.span.stop ≤ n.span.stop
  ascend : ∀ row ∈ n.rows, row.Pairwise fun a b => a.span.Before b.span
  enclosed : ∀ inner flags span, n = .group inner flags span → Enclosed ts inner flags span

theorem Derives.placed {ts : List Token} {n : Node} (h : Derives ts n) (hts : Ascending ts) :
    Placed ts n := by
  refine ⟨h, h.spans, h.rows, fun row hrow m hm => ?_, fun row hrow => (h.rows row hrow).ascend hts,
    fun _ _ _ => h.enclosed⟩
  obtain ⟨us, hus, hm⟩ := (h.rows row hrow).of_mem hm
  exact h.spans.inside hts hm.spans.covers hus.subset

/-- Every node of a tree is read from tokens among those of the tree. -/
theorem Derives.of_has {ts : List Token} {tree n : Node} (h : Derives ts tree) (hn : tree.Has n) :
    ∃ us, us <:+: ts ∧ Derives us n := by
  induction hn with
  | root => exact ⟨ts, List.infix_rfl, h⟩
  | child _ hrow hm ih =>
      obtain ⟨us, hus, hn⟩ := ih
      obtain ⟨vs, hvs, hm⟩ := (hn.rows _ hrow).of_mem hm
      exact ⟨vs, hvs.trans hus, hm⟩

end Sluice.Grammar

namespace Sluice

open Grammar

/-- The tokens of a text, up to the end mark, stand in it one behind the other, and its tree is read
from all of them. Every node of the tree is read from some that stand next to each other, spans from
the first byte of the first to the last byte of the last, and holds its children inside and in
order. -/
theorem placed_of_parse {source : String} {line : Line} (h : parse source = .ok line) :
    ∃ ts stop, tokenize source = .ok (ts ++ [⟨.finish, "", ⟨stop, stop⟩⟩]) ∧
      (∀ t ∈ ts, Token.Stands source.toList t) ∧ Ascending ts ∧ Placed ts line.node ∧
        ∀ n, line.node.Has n → ∃ us, us <:+: ts ∧ Placed us n := by
  obtain ⟨ts, htokens, hline⟩ := parse_eq_ok h
  obtain ⟨us, q, stop, hreads, -, rfl⟩ :=
    (Token.Place.tokens_eq_ok_iff (p := .start source.toList)).1 htokens
  obtain ⟨-, hstand, hascend, -⟩ := hreads.lies (Token.Place.in_start _)
  have hstand : ∀ t ∈ us, Token.Stands source.toList t := fun t ht => (hstand t ht).1
  have hascending : Ascending us := ⟨fun t ht => (hstand t ht).nonempty, hascend⟩
  have hbody : NoFinish us := fun t ht => (hstand t ht).kind
  have hderives := (Tree.line_sound rfl hbody hline).derives
  refine ⟨us, stop, htokens, hstand, hascending, hderives.placed hascending, fun n hn => ?_⟩
  obtain ⟨vs, hvs, hn⟩ := hderives.of_has hn
  exact ⟨vs, hvs, hn.placed (hascending.ofInfix hvs)⟩

/-- A binding with a group and its flags, and an argument list behind a pipe. -/
def markedLine : String := "x = (pets --at . é) --columns \"n\" | api.find(1, id=\"é\")"

def markedTokens : List Token :=
  [⟨.word "x", "x", ⟨0, 1⟩⟩, ⟨.equals, "=", ⟨2, 3⟩⟩, ⟨.openParen, "(", ⟨4, 5⟩⟩,
    ⟨.word "pets", "pets", ⟨5, 9⟩⟩, ⟨.flag "at", "--at", ⟨10, 14⟩⟩, ⟨.dot, ".", ⟨15, 16⟩⟩,
    ⟨.word "é", "é", ⟨17, 19⟩⟩, ⟨.closeParen, ")", ⟨19, 20⟩⟩,
    ⟨.flag "columns", "--columns", ⟨21, 30⟩⟩, ⟨.quoted "n", "\"n\"", ⟨31, 34⟩⟩,
    ⟨.pipe, "|", ⟨35, 36⟩⟩, ⟨.word "api.find", "api.find", ⟨37, 45⟩⟩, ⟨.openParen, "(", ⟨45, 46⟩⟩,
    ⟨.number (.ofNat 1), "1", ⟨46, 47⟩⟩, ⟨.comma, ",", ⟨47, 48⟩⟩, ⟨.word "id", "id", ⟨49, 51⟩⟩,
    ⟨.equals, "=", ⟨51, 52⟩⟩, ⟨.quoted "é", "\"é\"", ⟨52, 56⟩⟩, ⟨.closeParen, ")", ⟨56, 57⟩⟩]

/-- The tree of that line. -/
def markedTree : Line :=
  let pets : Call := ⟨"pets", [.word "é" ⟨17, 19⟩], [⟨"at", some (.word "." ⟨15, 16⟩), ⟨10, 16⟩⟩],
    ⟨5, 19⟩⟩
  let columns : FlagNode := ⟨"columns", some (.literal (.str "n") ⟨31, 34⟩), ⟨21, 34⟩⟩
  let find : Call := ⟨"api.find", [.literal (.num (.ofNat 1)) ⟨46, 47⟩],
    [⟨"id", some (.literal (.str "é") ⟨52, 56⟩), ⟨49, 56⟩⟩], ⟨37, 57⟩⟩
  ⟨some ⟨"x", 0⟩, .pipe (.stage (.group (.stage (.call pets)) [columns] ⟨4, 34⟩)) (.call find)⟩

theorem parse_markedLine : parse markedLine = .ok markedTree := by
  have htokens : tokenize markedLine = .ok (markedTokens ++ [⟨.finish, "", ⟨57, 57⟩⟩]) :=
    eq_ok_of_toOption (by decide +kernel)
  have hpets : ReadsStage true (markedTokens.extract 3 7) _ :=
    .call (.call rfl .none
      (.flag (.valued rfl (.point rfl)) (.operand (.word rfl) .nil) fun _ h => nomatch h))
  have hgroup : ReadsStage true (markedTokens.extract 2 10) _ :=
    .group rfl (.stage hpets) rfl (.flag (.valued rfl (.quoted rfl)) .nil)
  have hitems : ReadsItems (markedTokens.extract 13 18) _ _ :=
    .more (.operand (.number rfl)) rfl (.one (.named rfl rfl (.quoted rfl)))
  have hfind : ReadsStage true (markedTokens.extract 11 19) _ :=
    .call (.call rfl (.items rfl rfl hitems rfl) .nil)
  have hline : ReadsLine true (markedTokens ++ [⟨.finish, "", ⟨57, 57⟩⟩]) _ :=
    .binding rfl (by decide) rfl (.pipe (.stage hgroup) rfl hfind) rfl
  exact parse_of_reads htokens hline

theorem placed_of_parse_markedLine :
    parse markedLine = .ok markedTree ∧
      ∃ ts stop, tokenize markedLine = .ok (ts ++ [⟨.finish, "", ⟨stop, stop⟩⟩]) ∧
        Placed ts markedTree.node ∧ ∀ n, markedTree.node.Has n → ∃ us, us <:+: ts ∧ Placed us n := by
  obtain ⟨ts, stop, htokens, -, -, hroot, hnodes⟩ := placed_of_parse parse_markedLine
  exact ⟨parse_markedLine, ts, stop, htokens, hroot, hnodes⟩

end Sluice
