import Sluice.Proofs.Order.Delivery
import Sluice.Proofs.Program.Building
import Sluice.Proofs.Program.Directives

/-!
# Where the pairs of an argument list go

A pair `key=operand` in the parentheses of a call is kept among the call's flags, with those that
are written `--key operand` behind them. What is last under a key becomes the value of that key in
the command, and of a parameter in the request of an action. Only the names of directives are left
out: they are taken as directives from either place, so that a parameter `query` reaches no action
(`Line.pairs_of_build`).

* `Grammar.ReadsParts` : the pairs of a call's list and the flags behind it;
* `FlagNode.get?_splitFlags` : what is left of flags without their directives;
* `Intent.passes_flags` : the request that a command for an action comes to.
-/

namespace Sluice

/-! ## Pairs and flags in the text -/

namespace Grammar

/-- A call with the pairs of its list and the flags behind it. -/
inductive ReadsParts : List Token → Call → List FlagNode → List FlagNode → Prop where
  | call {head : Token} {name : String} {ls ts : List Token} {os os' : List Operand}
      {pairs flags : List FlagNode} :
      head.kind = .word name → ReadsList head.span.stop ls os pairs →
        ReadsArguments true ts os' flags →
          ReadsParts (head :: (ls ++ ts))
            ⟨name, os ++ os', pairs ++ flags, cover head (ls ++ ts)⟩ pairs flags

/-- The tokens read as a pair are among others. -/
def HasPair (ts : List Token) (pair : FlagNode) : Prop :=
  ∃ us, us <:+: ts ∧ ReadsItem us [] [pair]

/-- The tokens read as a flag are among others. -/
def HasFlag (ts : List Token) (flag : FlagNode) : Prop :=
  ∃ us, us <:+: ts ∧ ReadsFlag us flag

theorem HasPair.mono {ts us : List Token} {pair : FlagNode} (h : HasPair ts pair)
    (hwithin : ts <:+: us) : HasPair us pair := by
  obtain ⟨vs, hvs, hpair⟩ := h
  exact ⟨vs, hvs.trans hwithin, hpair⟩

theorem HasFlag.mono {ts us : List Token} {flag : FlagNode} (h : HasFlag ts flag)
    (hwithin : ts <:+: us) : HasFlag us flag := by
  obtain ⟨vs, hvs, hflag⟩ := h
  exact ⟨vs, hvs.trans hwithin, hflag⟩

theorem ReadsItem.hasPair {ts : List Token} {os : List Operand} {pairs : List FlagNode}
    (h : ReadsItem ts os pairs) : ∀ pair ∈ pairs, HasPair ts pair := by
  cases h with
  | operand _ => exact nofun
  | named hk he ho =>
      exact List.forall_mem_singleton.2 ⟨_, List.infix_rfl, .named hk he ho⟩

theorem ReadsItems.hasPair {ts : List Token} {os : List Operand} {pairs : List FlagNode}
    (h : ReadsItems ts os pairs) : ∀ pair ∈ pairs, HasPair ts pair := by
  induction h with
  | one h => exact h.hasPair
  | more h _ _ ih =>
      refine List.forall_mem_append.2 ⟨fun pair hp => ?_, fun pair hp => ?_⟩
      · exact (h.hasPair pair hp).mono (List.prefix_append _ _).isInfix
      · exact (ih pair hp).mono ((List.suffix_cons _ _).trans (List.suffix_append _ _)).isInfix

theorem ReadsList.hasPair {stop : Nat} {ts : List Token} {os : List Operand}
    {pairs : List FlagNode} (h : ReadsList stop ts os pairs) : ∀ pair ∈ pairs, HasPair ts pair := by
  cases h with
  | none => exact nofun
  | empty _ _ _ => exact nofun
  | @items p q us _ _ _ _ h _ =>
      exact fun pair hp => (h.hasPair pair hp).mono ⟨[p], [q], rfl⟩

theorem ReadsArguments.hasFlag {greedy : Bool} {ts : List Token} {os : List Operand}
    {flags : List FlagNode} (h : ReadsArguments greedy ts os flags) :
    ∀ flag ∈ flags, HasFlag ts flag := by
  induction h with
  | nil => exact nofun
  | operand _ _ ih => exact fun flag hf => (ih flag hf).mono (List.suffix_cons _ _).isInfix
  | flag hflag _ _ ih =>
      refine List.forall_mem_cons.2 ⟨?_, fun flag hf => ?_⟩
      · exact ⟨_, (List.prefix_append _ _).isInfix, hflag⟩
      · exact (ih flag hf).mono (List.suffix_append _ _).isInfix

theorem ReadsFlags.hasFlag {ts : List Token} {flags : List FlagNode} (h : ReadsFlags ts flags) :
    ∀ flag ∈ flags, HasFlag ts flag := by
  induction h with
  | nil => exact nofun
  | flag hflag _ ih =>
      refine List.forall_mem_cons.2 ⟨?_, fun flag hf => ?_⟩
      · exact ⟨_, (List.prefix_append _ _).isInfix, hflag⟩
      · exact (ih flag hf).mono (List.suffix_append _ _).isInfix

mutual

/-- Each call of a stage is read from tokens next to each other. -/
theorem ReadsStage.reads_call {greedy : Bool} : ∀ {s : Stage} {ts : List Token},
    ReadsStage greedy ts s → ∀ c ∈ s.calls, ∃ us, us <:+: ts ∧ ReadsCall greedy us c
  | .call _, _, .call h => List.forall_mem_singleton.2 ⟨_, List.infix_rfl, h⟩
  | .group _ _ _, _, .group _ h _ _ => fun c hc => by
    obtain ⟨vs, hvs, hcall⟩ := h.reads_call c hc
    exact ⟨vs, hvs.trans ((List.prefix_append _ _).isInfix.trans (List.suffix_cons _ _).isInfix),
      hcall⟩

theorem ReadsChain.reads_call {greedy : Bool} : ∀ {chain : Chain} {ts : List Token},
    ReadsChain greedy ts chain → ∀ c ∈ chain.calls, ∃ us, us <:+: ts ∧ ReadsCall greedy us c
  | .stage _, _, .stage h => h.reads_call
  | .pipe _ _, _, .pipe hl _ hr => by
    refine List.forall_mem_append.2 ⟨fun c hc => ?_, fun c hc => ?_⟩
    · obtain ⟨vs, hvs, hcall⟩ := hl.reads_call c hc
      exact ⟨vs, hvs.trans (List.prefix_append _ _).isInfix, hcall⟩
    · obtain ⟨vs, hvs, hcall⟩ := hr.reads_call c hc
      exact ⟨vs, hvs.trans ((List.suffix_cons _ _).trans (List.suffix_append _ _)).isInfix, hcall⟩

end

/-- The chain of a line is read from tokens next to each other. -/
theorem ReadsLine.reads_chain {greedy : Bool} {ts : List Token} {line : Line}
    (h : ReadsLine greedy ts line) : ∃ us, us <:+: ts ∧ ReadsChain greedy us line.chain := by
  cases h with
  | @chain us e _ h _ => exact ⟨us, ⟨[], [e], rfl⟩, h⟩
  | @binding t q e _ us _ _ _ _ h _ => exact ⟨us, ⟨[t, q], [e], rfl⟩, h⟩

theorem ReadsCall.parts {ts : List Token} {c : Call} (h : ReadsCall true ts c) :
    ∃ pairs flags, ReadsParts ts c pairs flags := by
  obtain ⟨hk, hl, ha⟩ := h
  exact ⟨_, _, .call hk hl ha⟩

/-- Flags that are pairs among the tokens first, and flags proper behind them. -/
structure Parted (ts : List Token) (fs pairs flags : List FlagNode) : Prop where
  eq_append : fs = pairs ++ flags
  pairs : ∀ pair ∈ pairs, HasPair ts pair
  flags : ∀ flag ∈ flags, HasFlag ts flag

theorem Parted.mono {ts us : List Token} {fs pairs flags : List FlagNode}
    (h : Parted ts fs pairs flags) (hwithin : ts <:+: us) : Parted us fs pairs flags :=
  ⟨h.eq_append, fun pair hp => (h.pairs pair hp).mono hwithin,
    fun flag hf => (h.flags flag hf).mono hwithin⟩

theorem ReadsCall.parted {greedy : Bool} {ts : List Token} {c : Call}
    (h : ReadsCall greedy ts c) : ∃ pairs flags, Parted ts c.flags pairs flags := by
  obtain ⟨-, hl, ha⟩ := h
  refine ⟨_, _, rfl, fun pair hp => (hl.hasPair pair hp).mono ?_,
    fun flag hf => (ha.hasFlag flag hf).mono ?_⟩
  · exact (List.prefix_append _ _).isInfix.trans (List.suffix_cons _ _).isInfix
  · exact ((List.suffix_append _ _).trans (List.suffix_cons _ _)).isInfix

mutual

/-- A stage ends with pairs, those of its last call, and with flags behind them and behind the
groups around it. -/
theorem ReadsStage.parted {greedy : Bool} : ∀ {s : Stage} {ts : List Token},
    ReadsStage greedy ts s → ∃ pairs flags, Parted ts s.lastFlags pairs flags
  | .call _, _, .call h => h.parted
  | .group _ fs _, _, .group _ h _ hf => by
    obtain ⟨pairs, flags, hparted⟩ := h.parted
    refine ⟨pairs, flags ++ fs, ?_, fun pair hp => (hparted.pairs pair hp).mono ?_,
      List.forall_mem_append.2 ⟨fun flag hflag => (hparted.flags flag hflag).mono ?_,
        fun flag hflag => (hf.hasFlag flag hflag).mono ?_⟩⟩
    · rw [Stage.lastFlags, hparted.eq_append, List.append_assoc]
    · exact (List.prefix_append _ _).isInfix.trans (List.suffix_cons _ _).isInfix
    · exact (List.prefix_append _ _).isInfix.trans (List.suffix_cons _ _).isInfix
    · exact ((List.suffix_cons _ _).trans
        ((List.suffix_append _ _).trans (List.suffix_cons _ _))).isInfix

theorem ReadsChain.parted {greedy : Bool} : ∀ {chain : Chain} {ts : List Token},
    ReadsChain greedy ts chain → ∃ pairs flags, Parted ts chain.lastFlags pairs flags
  | .stage _, _, .stage h => h.parted
  | .pipe _ _, _, .pipe _ _ hr => by
    obtain ⟨pairs, flags, hparted⟩ := hr.parted
    refine ⟨pairs, flags, hparted.mono ?_⟩
    exact ((List.suffix_cons _ _).trans (List.suffix_append _ _)).isInfix

end

end Grammar

/-! ## Flags that are kept -/

/-- The name of a directive, with or without `cx-` in front. -/
def Directives.Names (flag : String) : Prop :=
  plainName flag ∈ ["output", "columns", "query"]

instance (flag : String) : Decidable (Directives.Names flag) :=
  inferInstanceAs (Decidable (_ ∈ _))

theorem FlagNode.isDirective_iff (f : FlagNode) :
    f.isDirective = true ↔ Directives.Names f.name := by
  unfold isDirective direct? Directives.set? Directives.Names
  split
  · next hname => simp [hname]
  · next hname => simp [hname]
  · next hname => simp [hname]
  · next houtput hcolumns hquery =>
    have hname : Directives.plainName f.name ∉ ["output", "columns", "query"] := by
      simpa using ⟨houtput, hcolumns, hquery⟩
    simp [hname]

/-- Flags none of which has the name of a directive ask for nothing. -/
theorem Directives.ofFlags_of_not_names {fs : List FlagNode} (h : ∀ f ∈ fs, ¬ Names f.name) :
    ofFlags fs = .none := by
  induction fs with
  | nil => rfl
  | cons f fs ih =>
      obtain ⟨hf, hfs⟩ := List.forall_mem_cons.1 h
      have hdirective : f.isDirective = false :=
        Bool.eq_false_iff.2 fun hf' => hf (f.isDirective_iff.1 hf')
      rw [ofFlags_cons, ih hfs,
        FlagNode.ofFlags_of_direct?_eq_none (FlagNode.direct?_eq_none hdirective .none)]
      rfl

namespace FlagNode

/-- The value given last under a name; a flag without a value stands for `true`. -/
def lastValue (key : String) (fs : List FlagNode) : Option Value :=
  ((fs.filter fun f => f.name == key).map fun f => f.value?.getD (.bool true)).getLast?

theorem lastValue_cons_self (f : FlagNode) (fs : List FlagNode) :
    lastValue f.name (f :: fs) = (lastValue f.name fs).or (some (f.value?.getD (.bool true))) := by
  simp only [lastValue, List.filter_cons, beq_self_eq_true, if_true, List.map_cons,
    List.getLast?_cons]
  cases (List.map _ (List.filter _ fs)).getLast? <;> rfl

theorem lastValue_cons_of_ne {f : FlagNode} {key : String} (h : f.name ≠ key)
    (fs : List FlagNode) : lastValue key (f :: fs) = lastValue key fs := by
  simp [lastValue, h]

/-- What is left of flags without their directives: under each name the value given last. -/
theorem get?_splitFlags (fs : List FlagNode) (d : Directives) (fields : Fields) (key : String) :
    (splitFlags fs d fields).2.get? key =
      if Directives.Names key then fields.get? key
      else (lastValue key fs).or (fields.get? key) := by
  induction fs generalizing d fields with
  | nil => simp [splitFlags, lastValue]
  | cons f fs ih =>
      rw [splitFlags]
      cases hf : f.isDirective with
      | true =>
          obtain ⟨e, he⟩ := direct?_of_isDirective hf d
          rw [he]
          dsimp only
          rw [ih]
          split
          · rfl
          · next hkey =>
            have hne : f.name ≠ key := fun heq => hkey (heq ▸ f.isDirective_iff.1 hf)
            rw [lastValue_cons_of_ne hne]
      | false =>
          have hname : ¬ Directives.Names f.name := fun h => by
            rw [f.isDirective_iff.2 h] at hf
            cases hf
          rw [direct?_eq_none hf]
          dsimp only
          rw [ih, Fields.get?_put]
          by_cases heq : f.name = key
          · subst heq
            rw [if_neg hname, if_neg hname, if_pos rfl, lastValue_cons_self, Option.or_assoc]
            rfl
          · rw [if_neg heq, lastValue_cons_of_ne heq]

end FlagNode

theorem Intent.get?_ofCall {registry : Registry} {piped : Bool} {c : Call} {i : Intent}
    {d : Directives} (h : Intent.ofCall registry piped c = .ok (i, d)) (key : String) :
    i.flags.get? key = if Directives.Names key then none else FlagNode.lastValue key c.flags := by
  unfold Intent.ofCall at h
  obtain ⟨reading, -, h⟩ := bind_eq_ok h
  cases h
  refine (FlagNode.get?_splitFlags c.flags .none [] key).trans ?_
  rw [Fields.get?, Option.or_none]

/-! ## Parameters of actions -/

theorem Order.get?_actionParameters {key : String} (hvalue : key ≠ "value") (hinput : key ≠ "input")
    (value : Option Value) (parameters : Fields) (input : Option Value) :
    (actionParameters value parameters input).get? key = parameters.get? key := by
  cases value <;> cases input <;> simp [actionParameters, hvalue.symm, hinput.symm]

/-- Under each key stands what the value under that key is resolved to. -/
theorem Value.get?_resolveFields {s : Session} {fs gs : List (String × Value)}
    (h : resolveFields s fs = .ok gs) (key : String) :
    Option.Rel (fun v w => v.resolve s = .ok w) (Fields.get? fs key) (Fields.get? gs key) := by
  induction fs generalizing gs with
  | nil =>
      cases h
      exact .none
  | cons f fs ih =>
      obtain ⟨k, x⟩ := f
      rw [resolveFields] at h
      cases hx : x.resolve s with
      | error failure => simp [hx] at h
      | ok y =>
          rw [hx] at h
          obtain ⟨rest, hrest, rfl⟩ := map_eq_ok h
          rw [Fields.get?, Fields.get?]
          split
          · exact .some hx
          · exact ih hrest

/-- Wherever the arguments of the command are in order, it stands for an action of a connection, and
all that it asks for is that action with the values of the flags under their names. Two names are
those of other parameters: `value` of a value that stands without a name, and `input` of another
command's result. -/
def Intent.PassesFlags (registry : Registry) (i : Intent) : Prop :=
  ∀ (s : Session) (input : Option Value) (order : Order) (label : String),
    i.order registry s input.isSome = .ok (order, label) →
      ∃ name action value given parameters, order = .invoke name action value given ∧
        (∀ key, key ≠ "value" → key ≠ "input" →
          Option.Rel (fun v w => v.resolve s = .ok w) (i.flags.get? key)
            (Fields.get? parameters key)) ∧
        ∀ (ω : Type) (world : (q : ServiceRequest) → ω → Option q.Answer × ω) (w : ω),
          (registry.dispatch i input).runLive world s w =
            let label := s!"{name}.{action}"
            match s.connection? name with
            | none => (some (.error (.commandFailed label (.notConnected name))), (s, w))
            | some c => Order.settled label s (world (.runAction c.source action parameters) w)

theorem Intent.passes_flags {registry : Registry} {i : Intent}
    (h : registry.get? i.name = some .invoke) : i.PassesFlags registry := by
  intro s input order label horder
  have hrun := fun (ω : Type) (world : (q : ServiceRequest) → ω → Option q.Answer × ω) (w : ω) =>
    Registry.runLive_dispatch world horder w
  unfold Intent.order at horder
  rw [h] at horder
  obtain ⟨args, hargs, horder⟩ := bind_eq_ok horder
  obtain ⟨positional, -, hargs⟩ := bind_eq_ok hargs
  obtain ⟨given, hgiven, hargs⟩ := bind_eq_ok hargs
  cases hargs
  obtain ⟨read, hread, horder⟩ := bind_eq_ok horder
  obtain ⟨name, action, rfl⟩ : ∃ name action,
      read = .invoke name action positional[2]? given := by
    cases Order.readsAs_of_read hread with
    | invoke _ _ => exact ⟨_, _, rfl⟩
  -- an action accepts another command's result
  have haccepts : (input.isSome && !Command.invoke.acceptsInput i.subcommand) = false := by
    cases input <;> rfl
  rw [haccepts] at horder
  cases horder
  refine ⟨name, action, _, given, Order.actionParameters positional[2]? given input, rfl,
    fun key hvalue hinput => ?_, fun ω world w => ?_⟩
  · rw [Order.get?_actionParameters hvalue hinput]
    exact Value.get?_resolveFields hgiven key
  · exact (hrun ω world w).trans (Order.runLive_runAction world name action _ given input s w)

/-! ## Lines -/

/-- The command that a call becomes keeps, of the pairs of the call's list and the flags behind it,
the last value under every name except those of directives; these are taken as directives
instead. -/
def Call.Keeps (registry : Registry) (ts : List Token) (c : Call) (i : Intent) : Prop :=
  ∃ us pairs flags, us <:+: ts ∧ Grammar.ReadsParts us c pairs flags ∧
    Intent.ofCall registry i.piped c =
      .ok (i, (Directives.ofFlags flags).overlay (.ofFlags pairs)) ∧
    ∀ key, i.flags.get? key =
      if Directives.Names key then none else FlagNode.lastValue key (pairs ++ flags)

theorem Call.keeps_of_becomes {registry : Registry} {ts us : List Token} {c : Call} {i : Intent}
    (hbecomes : c.Becomes registry i) (hwithin : us <:+: ts) (hread : Grammar.ReadsCall true us c) :
    c.Keeps registry ts i := by
  obtain ⟨-, d, hd⟩ := hbecomes
  obtain ⟨pairs, flags, hparts⟩ := hread.parts
  have hflags : c.flags = pairs ++ flags := by
    cases hparts
    rfl
  refine ⟨us, pairs, flags, hwithin, hparts, ?_, fun key => ?_⟩
  · rw [hd, Intent.directives_ofCall hd, hflags, Directives.ofFlags_append]
  · rw [Intent.get?_ofCall hd, hflags]

/-- No pair of a call's list is lost when a text is built, unless it has the name of a directive:
the command keeps it under its name, the last value counts, and an action receives it as a
parameter. A pair with the name of a directive is taken as one, as if it were a flag; if there is
none at the end of the line, the directives are those of flags. -/
theorem Line.pairs_of_build {source : String} {tree : Line} {registry : Registry}
    {program : Program} (hparse : parse source = .ok tree)
    (hbuild : tree.build registry = .ok program) :
    ∃ ts, tokenize source = .ok ts ∧
      List.Forall₂ (Call.Keeps registry ts) tree.chain.calls program.pipeline.commands ∧
      (∃ pairs flags, Grammar.Parted ts tree.chain.lastFlags pairs flags ∧
        program.pipeline.directives = (Directives.ofFlags flags).overlay (.ofFlags pairs) ∧
        ((∀ pair ∈ pairs, ¬ Directives.Names pair.name) →
          program.pipeline.directives = .ofFlags flags)) ∧
      ∀ i ∈ program.pipeline.commands, registry.get? i.name = some .invoke →
        i.PassesFlags registry := by
  obtain ⟨us, stop, htokens, hread, -⟩ := reads_of_parse hparse
  refine ⟨_, htokens, ?_, ?_, fun i _ hi => Intent.passes_flags hi⟩
  · obtain ⟨p, hp, rfl⟩ := map_eq_ok hbuild
    obtain ⟨hcommands, -⟩ := Chain.commands_of_build hp
    obtain ⟨vs, hvs, hchain⟩ := hread.reads_chain
    have hcalls := (List.forall₂_and_left _ _).2 ⟨hchain.reads_call, hcommands⟩
    refine hcalls.imp fun c i h => ?_
    obtain ⟨⟨ws, hws, hcall⟩, hbecomes⟩ := h
    exact Call.keeps_of_becomes hbecomes (hws.trans hvs) hcall
  · obtain ⟨vs, hvs, hchain⟩ := hread.reads_chain
    obtain ⟨pairs, flags, hparted⟩ := hchain.parted
    have hdirectives : program.pipeline.directives =
        (Directives.ofFlags flags).overlay (.ofFlags pairs) := by
      rw [Line.directives_of_build hbuild, hparted.eq_append, Directives.ofFlags_append]
    refine ⟨pairs, flags, hparted.mono hvs, hdirectives, fun hpairs => ?_⟩
    rw [hdirectives, Directives.ofFlags_of_not_names hpairs]
    simp [Directives.overlay, Directives.none]

/-- A call of an action with two pairs, one of them with the name of a directive. -/
def pairedLine : String := "api.find(query=x, limit=2)"

def pairedCall : Call :=
  let query : FlagNode := ⟨"query", some (.word "x" ⟨15, 16⟩), ⟨9, 16⟩⟩
  let limit : FlagNode := ⟨"limit", some (.literal (.num (.ofNat 2)) ⟨24, 25⟩), ⟨18, 25⟩⟩
  ⟨"api.find", [], [query, limit], ⟨0, 26⟩⟩

open Grammar in
theorem parse_pairedLine : parse pairedLine = .ok ⟨none, .stage (.call pairedCall)⟩ := by
  have htokens : tokenize pairedLine =
      .ok [⟨.word "api.find", "api.find", ⟨0, 8⟩⟩, ⟨.openParen, "(", ⟨8, 9⟩⟩,
        ⟨.word "query", "query", ⟨9, 14⟩⟩, ⟨.equals, "=", ⟨14, 15⟩⟩, ⟨.word "x", "x", ⟨15, 16⟩⟩,
        ⟨.comma, ",", ⟨16, 17⟩⟩, ⟨.word "limit", "limit", ⟨18, 23⟩⟩, ⟨.equals, "=", ⟨23, 24⟩⟩,
        ⟨.number (.ofNat 2), "2", ⟨24, 25⟩⟩, ⟨.closeParen, ")", ⟨25, 26⟩⟩,
        ⟨.finish, "", ⟨26, 26⟩⟩] :=
    eq_ok_of_toOption (by decide +kernel)
  have hquery := @ReadsItem.named ⟨.word "query", "query", ⟨9, 14⟩⟩ ⟨.equals, "=", ⟨14, 15⟩⟩
    ⟨.word "x", "x", ⟨15, 16⟩⟩ _ _ rfl rfl (.word rfl)
  have hlimit := @ReadsItem.named ⟨.word "limit", "limit", ⟨18, 23⟩⟩ ⟨.equals, "=", ⟨23, 24⟩⟩
    ⟨.number (.ofNat 2), "2", ⟨24, 25⟩⟩ _ _ rfl rfl (.number rfl)
  have hitems := ReadsItems.more (c := ⟨.comma, ",", ⟨16, 17⟩⟩) hquery rfl (.one hlimit)
  have hlist := @ReadsList.items 8 ⟨.openParen, "(", ⟨8, 9⟩⟩ ⟨.closeParen, ")", ⟨25, 26⟩⟩ _ _ _
    rfl rfl hitems rfl
  have hcall := @ReadsCall.call true ⟨.word "api.find", "api.find", ⟨0, 8⟩⟩ _ _ _ _ _ _ _
    rfl hlist .nil
  exact parse_of_reads htokens (.chain (e := ⟨.finish, "", ⟨26, 26⟩⟩) (.stage (.call hcall)) rfl)

def pairedIntent : Intent :=
  ⟨"invoke", none, [.str "api", .str "find"], [("limit", .num (.ofNat 2))], false, ⟨0, 26⟩⟩

theorem build_pairedLine : Line.build (.builtin []) ⟨none, .stage (.call pairedCall)⟩ =
    .ok ⟨none, ⟨[.command pairedIntent], ⟨none, none, some "x"⟩⟩⟩ := by
  have hcall : Intent.ofCall (.builtin []) false pairedCall =
      .ok (pairedIntent, ⟨none, none, some "x"⟩) :=
    eq_ok_of_toOption (by decide +kernel)
  rw [Line.build, Chain.build, Stage.build, hcall]
  rfl

theorem pairs_of_build_pairedLine :
    parse pairedLine = .ok ⟨none, .stage (.call pairedCall)⟩ ∧
      Line.build (.builtin []) ⟨none, .stage (.call pairedCall)⟩ =
        .ok ⟨none, ⟨[.command pairedIntent], ⟨none, none, some "x"⟩⟩⟩ ∧
      pairedIntent.PassesFlags (.builtin []) := by
  obtain ⟨ts, -, -, -, hpasses⟩ := Line.pairs_of_build parse_pairedLine build_pairedLine
  exact ⟨parse_pairedLine, build_pairedLine,
    hpasses pairedIntent List.mem_cons_self (by decide +kernel)⟩

end Sluice
