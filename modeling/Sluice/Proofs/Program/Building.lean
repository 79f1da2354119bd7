import Mathlib.Data.List.Forall2
import Sluice.Proofs.Program.Flattening
import Sluice.Proofs.Token.Layout
import Sluice.Proofs.Tree.Recognition

/-!
# What programs are built from

The commands of a built program are the calls of its tree: one for each, in the order of the text
and with the same groups around them, and every command but the first is marked to take another
command's result (`Line.follows_of_build`). A run gives a command an input exactly where it is
marked so.
-/

namespace Sluice

/-! ## Nesting -/

/-- Where commands stand in the text, and how groups stand around them. -/
inductive Outline where
  | command (span : Span)
  | group (parts : List Outline)

mutual

def Stage.outline : Stage → Outline
  | .call c => .command c.span
  | .group inner _ _ => .group inner.outlines

def Chain.outlines : Chain → List Outline
  | .stage s => [s.outline]
  | .pipe left right => left.outlines ++ [right.outline]

end

mutual

def Step.outline : Step → Outline
  | .command i => .command i.span
  | .group steps _ => .group (Step.allOutlines steps)

def Step.allOutlines : List Step → List Outline
  | [] => []
  | s :: ss => s.outline :: Step.allOutlines ss

end

theorem Step.allOutlines_append (ss ts : List Step) :
    Step.allOutlines (ss ++ ts) = Step.allOutlines ss ++ Step.allOutlines ts := by
  induction ss with
  | nil => rfl
  | cons s ss ih => simp [Step.allOutlines, ih]

section Build

variable {registry : Registry}

theorem Intent.place_ofCall {piped : Bool} {c : Call} {i : Intent} {d : Directives}
    (h : Intent.ofCall registry piped c = .ok (i, d)) : i.span = c.span ∧ i.piped = piped := by
  unfold Intent.ofCall at h
  obtain ⟨reading, -, h⟩ := bind_eq_ok h
  cases h
  exact ⟨rfl, rfl⟩

mutual

theorem Stage.outline_of_build {piped : Bool} :
    ∀ {stage : Stage} {step : Step} {d : Directives},
      stage.build registry piped = .ok (step, d) → step.outline = stage.outline
  | .call _, _, _, h => by
    obtain ⟨i, hi, rfl⟩ := Stage.build_call h
    exact congrArg Outline.command (Intent.place_ofCall hi).1
  | .group _ _ _, _, _, h => by
    obtain ⟨p, hp, -, rfl⟩ := Stage.build_group h
    exact congrArg Outline.group (Chain.outlines_of_build hp)

theorem Chain.outlines_of_build {piped : Bool} :
    ∀ {chain : Chain} {p : Pipeline}, chain.build registry piped = .ok p →
      Step.allOutlines p.steps = chain.outlines
  | .stage _, _, h => by
    obtain ⟨step, d, hs, rfl⟩ := Chain.build_stage h
    exact congrArg (fun o => [o]) (Stage.outline_of_build hs)
  | .pipe _ _, _, h => by
    obtain ⟨q, step, d, hl, hr, rfl⟩ := Chain.build_pipe h
    rw [Step.allOutlines_append, Chain.outlines_of_build hl, Chain.outlines]
    exact congrArg (fun o => _ ++ [o]) (Stage.outline_of_build hr)

end

/-! ## One command for each call -/

/-- The command is what building makes of the call. -/
def Call.Becomes (registry : Registry) (c : Call) (i : Intent) : Prop :=
  i.span = c.span ∧ ∃ d, Intent.ofCall registry i.piped c = .ok (i, d)

/-- The first command is marked as told, and every later one to take another command's result. -/
def Intent.Marked (piped : Bool) : List Intent → Prop
  | [] => True
  | i :: is => i.piped = piped ∧ ∀ j ∈ is, j.piped = true

theorem Intent.marked_true_iff {is : List Intent} :
    Intent.Marked true is ↔ ∀ i ∈ is, i.piped = true := by
  cases is with
  | nil => simp [Marked]
  | cons i is => exact (List.forall_mem_cons (p := fun j : Intent => j.piped = true)).symm

theorem Intent.Marked.append {piped : Bool} {is js : List Intent} (his : is ≠ [])
    (h : Intent.Marked piped is) (hjs : Intent.Marked true js) : Intent.Marked piped (is ++ js) := by
  cases is with
  | nil => exact absurd rfl his
  | cons i is => exact ⟨h.1, List.forall_mem_append.2 ⟨h.2, Intent.marked_true_iff.1 hjs⟩⟩

mutual

theorem Stage.commands_of_build {piped : Bool} :
    ∀ {stage : Stage} {step : Step} {d : Directives}, stage.build registry piped = .ok (step, d) →
      List.Forall₂ (Call.Becomes registry) stage.calls step.commands ∧
        Intent.Marked piped step.commands
  | .call _, _, _, h => by
    obtain ⟨i, hi, rfl⟩ := Stage.build_call h
    obtain ⟨hspan, hpiped⟩ := Intent.place_ofCall hi
    have hbecomes : Call.Becomes registry _ i := ⟨hspan, _, hpiped.symm ▸ hi⟩
    exact ⟨.cons hbecomes .nil, hpiped, nofun⟩
  | .group _ _ _, _, _, h => by
    obtain ⟨p, hp, -, rfl⟩ := Stage.build_group h
    exact Chain.commands_of_build hp

theorem Chain.commands_of_build {piped : Bool} :
    ∀ {chain : Chain} {p : Pipeline}, chain.build registry piped = .ok p →
      List.Forall₂ (Call.Becomes registry) chain.calls p.commands ∧ Intent.Marked piped p.commands
  | .stage _, _, h => by
    obtain ⟨step, d, hs, rfl⟩ := Chain.build_stage h
    rw [Pipeline.commands, Step.allCommands_singleton]
    exact Stage.commands_of_build hs
  | .pipe _ _, _, h => by
    obtain ⟨q, step, d, hl, hr, rfl⟩ := Chain.build_pipe h
    obtain ⟨hleft, hmarked⟩ := Chain.commands_of_build hl
    obtain ⟨hright, hmarked'⟩ := Stage.commands_of_build hr
    have hfilled := Chain.filled_of_build hl
    rw [Pipeline.commands, Step.allCommands_append, Step.allCommands_singleton]
    exact ⟨List.rel_append hleft hright,
      hmarked.append (Step.allCommands_ne_nil hfilled.1 hfilled.2) hmarked'⟩

end

end Build

/-! ## In the order of the text -/

/-- One span starts before another and ends before it starts. -/
def Span.Before (a b : Span) : Prop :=
  a.start < b.start ∧ a.stop ≤ b.start

namespace Grammar

/-- A span that reaches from the first byte of one of the tokens to the last byte of one. -/
def Covers (ts : List Token) (span : Span) : Prop :=
  ∃ t ∈ ts, ∃ u ∈ ts, span = ⟨t.span.start, u.span.stop⟩

theorem Covers.mono {ts us : List Token} {span : Span} (h : Covers ts span) (hsub : ts ⊆ us) :
    Covers us span := by
  obtain ⟨t, ht, u, hu, hspan⟩ := h
  exact ⟨t, hsub ht, u, hsub hu, hspan⟩

theorem Covers.before {ts us : List Token} {a b : Span} (ha : Covers ts a) (hb : Covers us b)
    (h : ∀ t ∈ ts, ∀ u ∈ us, t.span.Before u.span) : a.Before b := by
  obtain ⟨t, ht, t', ht', rfl⟩ := ha
  obtain ⟨u, hu, u', -, rfl⟩ := hb
  exact ⟨(h t ht u hu).1, (h t' ht' u hu).2⟩

theorem exists_stopAfter (head : Token) (ts : List Token) :
    ∃ u ∈ head :: ts, stopAfter head.span.stop ts = u.span.stop := by
  induction ts generalizing head with
  | nil => exact ⟨head, List.mem_cons_self, rfl⟩
  | cons t ts ih =>
      obtain ⟨u, hu, hstop⟩ := ih t
      exact ⟨u, List.mem_cons_of_mem _ hu, hstop⟩

theorem ReadsCall.covers {greedy : Bool} {ts : List Token} {c : Call} (h : ReadsCall greedy ts c) :
    Covers ts c.span := by
  obtain @⟨head, name, ls, us, os, os', fs, fs', -, -, -⟩ := h
  obtain ⟨u, hu, hstop⟩ := exists_stopAfter head (ls ++ us)
  exact ⟨head, List.mem_cons_self, u, hu, congrArg (Span.mk head.span.start) hstop⟩

mutual

theorem ReadsStage.covers {greedy : Bool} : ∀ {s : Stage} {ts : List Token},
    ReadsStage greedy ts s → ∀ c ∈ s.calls, Covers ts c.span
  | .call _, _, .call h => List.forall_mem_singleton.2 h.covers
  | .group _ _ _, _, .group _ h _ _ => fun c hc =>
    (h.covers c hc).mono fun _ ht => List.mem_cons_of_mem _ (List.mem_append_left _ ht)

theorem ReadsChain.covers {greedy : Bool} : ∀ {chain : Chain} {ts : List Token},
    ReadsChain greedy ts chain → ∀ c ∈ chain.calls, Covers ts c.span
  | .stage _, _, .stage h => h.covers
  | .pipe _ _, _, .pipe hl _ hr => List.forall_mem_append.2
    ⟨fun c hc => (hl.covers c hc).mono fun _ ht => List.mem_append_left _ ht,
      fun c hc => (hr.covers c hc).mono fun _ ht =>
        List.mem_append_right _ (List.mem_cons_of_mem _ ht)⟩

end

mutual

/-- Where tokens stand one behind the other, so do the calls that they read as. -/
theorem ReadsStage.ascend {greedy : Bool} : ∀ {s : Stage} {ts : List Token},
    ReadsStage greedy ts s → (ts.Pairwise fun t u => t.span.Before u.span) →
      s.calls.Pairwise fun c d => c.span.Before d.span
  | .call _, _, .call _, _ => List.pairwise_singleton _ _
  | .group _ _ _, _, .group _ h _ _, hts =>
    h.ascend (List.pairwise_append.1 (List.pairwise_cons.1 hts).2).1

theorem ReadsChain.ascend {greedy : Bool} : ∀ {chain : Chain} {ts : List Token},
    ReadsChain greedy ts chain → (ts.Pairwise fun t u => t.span.Before u.span) →
      chain.calls.Pairwise fun c d => c.span.Before d.span
  | .stage _, _, .stage h, hts => h.ascend hts
  | .pipe _ _, _, .pipe hl _ hr, hts => by
    obtain ⟨hleft, hright, hcross⟩ := List.pairwise_append.1 hts
    refine List.pairwise_append.2
      ⟨hl.ascend hleft, hr.ascend (List.pairwise_cons.1 hright).2, fun c hc d hd => ?_⟩
    exact (hl.covers c hc).before (hr.covers d hd) fun t ht u hu =>
      hcross t ht u (List.mem_cons_of_mem _ hu)

end

end Grammar

/-- The tokens of a text that has a tree, up to the end mark, stand one behind the other, and they
read as the tree. -/
theorem reads_of_parse {source : String} {tree : Line} (h : parse source = .ok tree) :
    ∃ us stop, tokenize source = .ok (us ++ [⟨.finish, "", ⟨stop, stop⟩⟩]) ∧
      Grammar.ReadsLine true (us ++ [⟨.finish, "", ⟨stop, stop⟩⟩]) tree ∧
      us.Pairwise fun t u => t.span.Before u.span := by
  obtain ⟨ts, htokens, hline⟩ := parse_eq_ok h
  obtain ⟨us, q, stop, hreads, -, rfl⟩ :=
    (Token.Place.tokens_eq_ok_iff (p := .start source.toList)).1 htokens
  obtain ⟨-, hstand, hascend, -⟩ := hreads.lies (Token.Place.in_start _)
  have hbody : Grammar.NoFinish us := fun t ht => (hstand t ht).1.kind
  exact ⟨us, stop, htokens, Tree.line_sound rfl hbody hline, hascend⟩

/-- The calls of a text stand in it one behind the other. -/
theorem ascend_of_parse {source : String} {tree : Line} (h : parse source = .ok tree) :
    tree.chain.calls.Pairwise fun c d => c.span.Before d.span := by
  obtain ⟨us, stop, -, hread, hascend⟩ := reads_of_parse h
  -- the places ascend among the tokens in front of the end mark, which the calls do not reach
  generalize hts : us ++ [(⟨.finish, "", ⟨stop, stop⟩⟩ : Token)] = ts at hread
  cases hread with
  | @chain vs e c hc _ =>
      obtain ⟨rfl, -⟩ := List.append_inj' hts rfl
      exact hc.ascend hascend
  | @binding t q e name vs c _ _ _ hc _ =>
      obtain ⟨rfl, -⟩ : us = t :: q :: vs ∧ _ := List.append_inj' hts rfl
      exact hc.ascend (List.pairwise_cons.1 (List.pairwise_cons.1 hascend).2).2

/-! ## Inputs in a run -/

section Run

variable {σ : Type} {react : Dispatcher (StateM σ)}

/-- Commands that run one after the other find an input where they are marked to take one, and so
does what comes behind them. -/
theorem Threads.marked {input out : Option Value} {s s' : σ} {record : List (Dispatched σ)}
    (h : Threads react input s record out s') {rest : List Intent}
    (hmarked : Intent.Marked input.isSome (record.map Dispatched.intent ++ rest)) :
    (∀ d ∈ record, d.input.isSome = d.intent.piped) ∧ Intent.Marked out.isSome rest := by
  induction h with
  | nil => exact ⟨List.forall_mem_nil _, hmarked⟩
  | @cons i input out v s s₁ s₂ record _ _ ih =>
      obtain ⟨hi, hrest⟩ := hmarked
      obtain ⟨hrecord, hout⟩ := ih (Intent.marked_true_iff.2 hrest)
      exact ⟨List.forall_mem_cons.2 ⟨hi.symm, hrecord⟩, hout⟩

/-- A trail hands a command an input exactly where the command is marked to take one. -/
theorem Trail.marked {is : List Intent} {input : Option Value} {s s' : σ} {begun : Nat}
    {record : List (Dispatched σ)} {p : Progress Value} (h : Trail react is input s begun record p s')
    (hmarked : Intent.Marked input.isSome is) :
    ∀ d ∈ record, d.input.isSome = d.intent.piped := by
  cases h with
  | complete his hth =>
      rw [← his, ← List.append_nil (record.map _)] at hmarked
      exact (hth.marked hmarked).1
  | @failed done i rest mid s₁ _ failure his hth hi =>
      rw [his] at hmarked
      obtain ⟨hdone, hrest⟩ := hth.marked hmarked
      exact List.forall_mem_append.2 ⟨hdone, List.forall_mem_singleton.2 hrest.1.symm⟩

end Run

section Congr

variable {m : Type → Type} [Monad m] {dispatch dispatch' : Dispatcher m}

/-- What a dispatcher does with an input that is not marked, or without one that is, never shows. -/
theorem runCommands_congr
    (h : ∀ i input, input.isSome = i.piped → dispatch i input = dispatch' i input)
    {is : List Intent} {input : Option Value} (hmarked : Intent.Marked input.isSome is)
    (begun : Nat) : runCommands dispatch is input begun = runCommands dispatch' is input begun := by
  induction is generalizing input begun with
  | nil => rfl
  | cons i is ih =>
      rw [runCommands, runCommands, h i input hmarked.1.symm]
      refine bind_congr fun r => ?_
      cases r with
      | error failure => rfl
      | ok v =>
          have hnext : Intent.Marked (some v).isSome is := Intent.marked_true_iff.2 hmarked.2
          exact ih hnext _

end Congr

/-! ## Lines -/

/-- A program has the commands that a tree has calls. -/
structure Program.Follows (registry : Registry) (tree : Line) (program : Program) : Prop where
  /-- The same places in the same groups. -/
  outline : Step.allOutlines program.pipeline.steps = tree.chain.outlines
  /-- One command for each call, in order. -/
  commands : List.Forall₂ (Call.Becomes registry) tree.chain.calls program.pipeline.commands
  ascend : tree.chain.calls.Pairwise fun c d => c.span.Before d.span
  count : program.pipeline.count = tree.chain.calls.length
  filled : program.pipeline.Filled
  /-- There is a first command, it takes no other's result, and all that follow it do. -/
  marked : ∃ i is, program.pipeline.commands = i :: is ∧ i.piped = false ∧ ∀ j ∈ is, j.piped = true

/-- The program of a text has its commands from the calls of the text, and every run hands a command
an input exactly where the command is marked to take one. Where the dispatcher works on a state, the
record of the run says so; whatever its effects are, the run does not depend on what the dispatcher
would do in any other case. -/
theorem Line.follows_of_build {source : String} {tree : Line} {registry : Registry}
    {program : Program} (hparse : parse source = .ok tree)
    (hbuild : tree.build registry = .ok program) :
    program.Follows registry tree ∧
    (∀ (σ : Type) (react : Dispatcher (StateM σ)) (s : σ), ∃ record q s',
      (program.pipeline.run react none).run s = (q, s') ∧
        (program.pipeline.run (recording react) none).run (s, []) = (q, (s', record)) ∧
        ∀ d ∈ record, d.input.isSome = d.intent.piped) ∧
    ∀ (m : Type → Type) [Monad m] [LawfulMonad m] (dispatch dispatch' : Dispatcher m),
      (∀ i input, input.isSome = i.piped → dispatch i input = dispatch' i input) →
        program.pipeline.run dispatch none = program.pipeline.run dispatch' none := by
  have hfilled := Line.filled_of_build hbuild
  obtain ⟨p, hp, rfl⟩ := map_eq_ok hbuild
  obtain ⟨hcommands, hmarked⟩ := Chain.commands_of_build hp
  obtain ⟨i, is, hi⟩ := List.exists_cons_of_ne_nil (Step.allCommands_ne_nil hfilled.1 hfilled.2)
  refine ⟨⟨Chain.outlines_of_build hp, hcommands, ascend_of_parse hparse, ?_, hfilled, ?_⟩, ?_, ?_⟩
  · rw [hcommands.length_eq]
    exact (Step.length_allCommands p.steps).symm
  · have hall := hmarked
    rw [show p.commands = i :: is from hi] at hall
    exact ⟨i, is, hi, hall⟩
  · intro σ react s
    obtain ⟨record, q, s', hplain, hkept, htrail⟩ := Pipeline.run_recording hfilled react none s
    exact ⟨record, q, s', hplain, hkept, htrail.marked hmarked⟩
  · intro m _ _ dispatch dispatch' hagree
    have hinput : Intent.Marked (none : Option Value).isSome p.commands := hmarked
    rw [Pipeline.run_eq_runCommands dispatch hfilled, Pipeline.run_eq_runCommands dispatch' hfilled,
      runCommands_congr hagree hinput]

/-- A group in front, a group behind a pipe, and a variable read by its name. -/
def groupedLine : String := "(echo 1 | (format)) | (pets)"

/-- The tree of that line. -/
def groupedTree : Line :=
  let echo : Call := ⟨"echo", [.literal (.num (.ofNat 1)) ⟨6, 7⟩], [], ⟨1, 7⟩⟩
  let format : Stage := .group (.stage (.call ⟨"format", [], [], ⟨11, 17⟩⟩)) [] ⟨10, 18⟩
  let pets : Stage := .group (.stage (.call ⟨"pets", [], [], ⟨23, 27⟩⟩)) [] ⟨22, 28⟩
  ⟨none, .pipe (.stage (.group (.pipe (.stage (.call echo)) format) [] ⟨0, 19⟩)) pets⟩

def groupedToken (kind : Token.Kind) (text : String) (start : Nat) : Token :=
  ⟨kind, text, ⟨start, start + text.length⟩⟩

open Grammar in
theorem parse_groupedLine : parse groupedLine = .ok groupedTree := by
  have htokens : tokenize groupedLine =
      .ok [groupedToken .openParen "(" 0, groupedToken (.word "echo") "echo" 1,
        groupedToken (.number (.ofNat 1)) "1" 6, groupedToken .pipe "|" 8,
        groupedToken .openParen "(" 10, groupedToken (.word "format") "format" 11,
        groupedToken .closeParen ")" 17, groupedToken .closeParen ")" 18,
        groupedToken .pipe "|" 20, groupedToken .openParen "(" 22,
        groupedToken (.word "pets") "pets" 23, groupedToken .closeParen ")" 27,
        groupedToken .finish "" 28] :=
    eq_ok_of_toOption (by decide +kernel)
  -- a command without arguments in a group of its own
  have hgroup (name : String) (start : Nat) := ReadsStage.group
    (p := groupedToken .openParen "(" start) (q := groupedToken .closeParen ")" (start + 1 + name.length))
    rfl (.stage (.call (@ReadsCall.call true (groupedToken (.word name) name (start + 1)) _ _ _ _ _ _ _
      rfl .none .nil))) rfl .nil
  have hone := ReadsOperand.number (t := groupedToken (.number (.ofNat 1)) "1" 6) rfl
  have hecho := @ReadsCall.call true (groupedToken (.word "echo") "echo" 1) _ _ _ _ _ _ _
    rfl .none (.operand hone .nil)
  have hinner := ReadsChain.pipe (b := groupedToken .pipe "|" 8) (.stage (.call hecho)) rfl
    (hgroup "format" 10)
  have houter := ReadsStage.group (p := groupedToken .openParen "(" 0)
    (q := groupedToken .closeParen ")" 18) rfl hinner rfl .nil
  exact parse_of_reads htokens (.chain
    (.pipe (b := groupedToken .pipe "|" 20) (.stage houter) rfl (hgroup "pets" 22))
    (e := groupedToken .finish "" 28) rfl)

theorem follows_of_build_groupedLine :
    ∃ program, parse groupedLine = .ok groupedTree ∧
      groupedTree.build (.builtin []) = .ok program ∧
      program.pipeline.commands.map Intent.span = [⟨1, 7⟩, ⟨11, 17⟩, ⟨23, 27⟩] ∧
      program.pipeline.commands.map Intent.piped = [false, true, true] ∧
      program.Follows (.builtin []) groupedTree :=
  ⟨_, parse_groupedLine, rfl, rfl, rfl, (Line.follows_of_build parse_groupedLine rfl).1⟩

end Sluice
