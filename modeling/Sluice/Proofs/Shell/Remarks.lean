import Sluice.Proofs.Shell.Showing
import Sluice.Proofs.Token.Layout

/-!
# Lines that ask for nothing

A line comes to nothing if it has no token, or if it begins with a comment, whatever stands on the
lines behind the comment. Every other line is undertaken: it fails to read, or its program is run
(`Shell.execute_empty_iff`).

* `Token.tokenize_eq_finish_iff` : the texts without tokens are the gaps;
* `isRemark_iff` : which lines are passed over.
-/

namespace Sluice

namespace Token

/-! ## Texts without tokens -/

theorem gap_append_comment {body : List Char} (h : '\n' ∉ body) (cs : List Char) :
    (gap true (body ++ cs)).2 = (gap true cs).2 := by
  induction body with
  | nil => rfl
  | cons c body ih =>
      rw [List.mem_cons, not_or] at h
      obtain ⟨hc, hbody⟩ := h
      rw [List.cons_append, gap_comment (body ++ cs) (Ne.symm hc)]
      exact ih hbody

/-- The lexer skips a gap that goes on to the end of the text. -/
theorem gap_of_isGap {cs : List Char} (h : IsGap [] cs) : (gap false cs).2 = [] := by
  induction h with
  | nil => rfl
  | @blank c cs hblank _ ih =>
      rw [gap_blank cs hblank]
      exact ih
  | @comment body cs hbody hline _ ih =>
      rw [gap_remark]
      dsimp only
      rw [gap_append_comment hbody]
      -- the comment ends with the text or before the end of its line
      cases cs with
      | nil => rfl
      | cons c cs =>
          obtain rfl : c = '\n' := hline c rfl
          rw [gap_lineEnd]
          rw [gap_blank cs rfl] at ih
          exact ih

/-- The only token of a text is the end mark if there is nothing but a gap. -/
theorem tokenize_eq_finish_iff (line : String) :
    (∃ e, tokenize line = .ok [e]) ↔ IsGap [] line.toList := by
  constructor
  · rintro ⟨e, htokens⟩
    obtain ⟨us, q, stop, hreads, hends, heq⟩ :=
      (Place.tokens_eq_ok_iff (p := .start line.toList)).1 htokens
    obtain rfl : us = [] := by
      have hlength := congrArg List.length heq
      rw [List.length_append, List.length_singleton, List.length_singleton] at hlength
      exact List.length_eq_zero_iff.1 (by omega)
    cases hreads
    obtain ⟨skipped, hgap, -⟩ := hends
    have hskipped : skipped = line.toList := by
      have happend := append_of_gap hgap
      rwa [List.append_nil] at happend
    have hisGap := (isGap_of_gap line.toList).1
    change gap false line.toList = _ at hgap
    rw [hgap, hskipped] at hisGap
    exact hisGap
  · intro h
    have hgap := gap_of_isGap h
    have hends : (Place.start line.toList).Ends _ :=
      ⟨(gap false line.toList).1, Prod.ext rfl hgap, rfl⟩
    exact ⟨_, Place.tokens_of_ends hends⟩

end Token

open Token

/-! ## Lines that are passed over -/

/-- Behind blanks, if any, comes a comment. -/
def Text.LedByRemark (cs : List Char) : Prop :=
  ∃ blanks rest, cs = blanks ++ '#' :: rest ∧ ∀ c ∈ blanks, Text.isBlank c = true

theorem Text.isGap_of_isBlank {cs : List Char} (h : ∀ c ∈ cs, isBlank c = true) : IsGap [] cs := by
  induction cs with
  | nil => exact .nil
  | cons c cs ih =>
      rw [List.forall_mem_cons] at h
      exact .blank h.1 (ih h.2)

/-- A gap is blank or has a comment in it. -/
theorem Text.trimLeft_of_isGap {after cs : List Char} (h : IsGap after cs) :
    trimLeft cs = [] ∨ LedByRemark cs := by
  induction h with
  | nil => exact .inl rfl
  | @blank c cs hblank _ ih =>
      rw [trimLeft_blank hblank]
      refine ih.imp_right ?_
      · rintro ⟨blanks, rest, rfl, hblanks⟩
        exact ⟨c :: blanks, rest, rfl, List.forall_mem_cons.2 ⟨hblank, hblanks⟩⟩
  | @comment body cs _ _ _ _ => exact .inr ⟨[], body ++ cs, rfl, nofun⟩

theorem Text.trimLeft_of_ledByRemark {cs : List Char} (h : LedByRemark cs) :
    ∃ rest, trimLeft cs = '#' :: rest := by
  obtain ⟨blanks, rest, rfl, hblanks⟩ := h
  refine ⟨rest, ?_⟩
  rw [trimLeft, List.dropWhile_append_of_pos hblanks]
  rfl

theorem isRemark_iff (line : String) :
    isRemark line = true ↔ Text.LedByRemark line.toList ∨ IsGap [] line.toList := by
  obtain ⟨blanks, hsplit, hblanks, hhead⟩ := Text.trimLeft_split line.toList
  unfold isRemark Text.trimChars
  cases hleft : Text.trimLeft line.toList with
  | nil =>
      rw [hleft, List.append_nil] at hsplit
      rw [hsplit]
      exact iff_of_true rfl (.inr (Text.isGap_of_isBlank hblanks))
  | cons c rest =>
      rw [hleft] at hsplit hhead
      obtain ⟨rest', hright⟩ := Text.exists_trimRight_cons (hhead c rfl) rest
      rw [hright]
      dsimp only
      rw [beq_iff_eq]
      constructor
      · rintro rfl
        exact .inl ⟨blanks, rest, hsplit, hblanks⟩
      · intro h
        have hled : Text.LedByRemark line.toList := by
          refine h.elim id fun hgap => ?_
          refine (Text.trimLeft_of_isGap hgap).resolve_left fun hnil => ?_
          rw [hleft] at hnil
          cases hnil
        obtain ⟨rest'', hremark⟩ := Text.trimLeft_of_ledByRemark hled
        rw [hleft] at hremark
        exact (List.cons.inj hremark).1

namespace Shell

variable {ω : Type} (world : (q : ServiceRequest) → ω → Option q.Answer × ω)

/-! ## Outcomes -/

theorem execute_of_isRemark {line : String} (h : isRemark line = true) (shell : Shell)
    (s : Session) : shell.execute line s = .done (.ok .empty, s) := by
  unfold execute runLine
  rw [if_pos h]
  rfl

theorem runLive_conclude_ne_empty (shell : Shell) (line : String) (program : Program)
    (p : Progress Value) (s : Session) (w : ω) :
    ((shell.conclude line program p).runLive world s w).1 ≠ some (.ok .empty) := by
  unfold conclude
  cases p.result with
  | error failure => exact nofun
  | ok v =>
      cases program.target with
      | none =>
          obtain ⟨text, warning, hshown⟩ := exists_shown v program.pipeline.directives shell.output
          dsimp only
          rw [hshown]
          exact nofun
      | some name =>
          have hrun := Act.runLive_bind world (bindResult line name v)
            (fun _ => .done (.ok (.bound name) : Except PipelineFailure Outcome)) s w
          refine mt (congrArg Prod.fst hrun).symm.trans ?_
          rcases (bindResult line name v).runLive world s w with ⟨_ | _, s', w'⟩
          · exact nofun
          · exact nofun

/-- A line that is not passed over comes to something. -/
theorem runLive_runLine_ne_empty {shell : Shell} {line : String} (h : isRemark line = false)
    (dispatch : Dispatcher (Act live)) (s : Session) (w : ω) :
    ((shell.runLine dispatch line).runLive world s w).1 ≠ some (.ok .empty) := by
  cases hprogram : shell.program line with
  | error failure =>
      rw [runLine_of_program_error h hprogram]
      exact nofun
  | ok program =>
      rw [runLine_eq_conclude h hprogram]
      have hrun : ((program.pipeline.run dispatch none).bind (shell.conclude line program)).runLive
          world s w = _ := Act.runLive_bind world (program.pipeline.run dispatch none) _ s w
      rw [hrun]
      rcases (program.pipeline.run dispatch none).runLive world s w with ⟨_ | p, s', w'⟩
      · exact nofun
      · exact runLive_conclude_ne_empty world shell line program p s' w'

/-- A line is undertaken: it has no program and fails, or its program's pipeline is run, and with the
result the name is bound or the value shown. -/
def Undertakes (shell : Shell) (line : String) (s : Session) : Prop :=
  match shell.program line with
  | .error failure => shell.execute line s = .done (.error ⟨none, failure⟩, s)
  | .ok program =>
    shell.execute line s =
      (((program.pipeline.run shell.dispatcher none).bind (shell.conclude line program)).onSession
        s).bind fun r => .done (settle s r)

theorem undertakes_of_not_isRemark {line : String} (h : isRemark line = false) (shell : Shell)
    (s : Session) : shell.Undertakes line s := by
  unfold Undertakes
  rw [execute_eq_settle]
  cases hprogram : shell.program line with
  | error failure =>
      dsimp only
      rw [runLine_of_program_error h hprogram]
      rfl
  | ok program =>
      dsimp only
      rw [runLine_eq_conclude h hprogram]

/-- The lines that come to nothing are those without a token and those that a comment leads. So a line
comes to nothing exactly if it has no token, except that a leading comment takes along whatever
tokens stand on the lines behind it. Nothing changes where a line comes to nothing, and every other
line is undertaken. -/
theorem execute_empty_iff (shell : Shell) (line : String) (s : Session) (w : ω) :
    ∃ result s' w', (shell.execute line s).run (I := service) world w = (some (result, s'), w') ∧
      (result = .ok .empty ↔ Text.LedByRemark line.toList ∨ ∃ e, tokenize line = .ok [e]) ∧
      ((result = .ok .empty ↔ ∃ e, tokenize line = .ok [e]) ↔
        (Text.LedByRemark line.toList → IsGap [] line.toList)) ∧
      (result = .ok .empty → s' = s ∧ w' = w) ∧
      (result ≠ .ok .empty → shell.Undertakes line s) := by
  have hnothing := tokenize_eq_finish_iff line
  cases hremark : isRemark line with
  | true =>
      have hpassed := (isRemark_iff line).1 hremark
      rw [execute_of_isRemark hremark, hnothing]
      refine ⟨_, _, _, rfl, iff_of_true rfl hpassed, ?_, fun _ => ⟨rfl, rfl⟩,
        fun h => absurd rfl h⟩
      constructor
      · exact fun h _ => h.1 rfl
      · exact fun h => iff_of_true rfl (hpassed.elim h id)
  | false =>
      have hnot := mt (isRemark_iff line).2 (by rw [hremark]; exact Bool.false_ne_true)
      rw [not_or] at hnot
      have hrun := run_execute world shell line s w
      dsimp only at hrun
      have hne : (settle s (((shell.runLine shell.dispatcher line).runLive world s w).1,
          ((shell.runLine shell.dispatcher line).runLive world s w).2.1)).1 ≠ .ok .empty := by
        intro h
        have hresult := settle_ok (Prod.ext h rfl)
        exact runLive_runLine_ne_empty world hremark shell.dispatcher s w (Prod.mk.inj hresult).1
      rw [hnothing]
      refine ⟨_, _, _, hrun, iff_of_false hne (not_or.2 hnot), ?_, fun h => absurd h hne,
        fun _ => undertakes_of_not_isRemark hremark shell s⟩
      constructor
      · exact fun _ h => absurd h hnot.1
      · exact fun _ => iff_of_false hne hnot.2

/-- A remark, and a binding on the line behind it. -/
def remarkThenBinding : String := "# remark\nx = echo 1"

theorem tokenize_remarkThenBinding : tokenize remarkThenBinding =
    .ok [⟨.word "x", "x", ⟨9, 10⟩⟩, ⟨.equals, "=", ⟨11, 12⟩⟩, ⟨.word "echo", "echo", ⟨13, 17⟩⟩,
      ⟨.number (.int 1 (by decide)), "1", ⟨18, 19⟩⟩, ⟨.finish, "", ⟨19, 19⟩⟩] :=
  eq_ok_of_toOption (by decide +kernel)

/-- The binding is passed over. -/
theorem execute_empty_iff_remarkThenBinding :
    (¬ ∃ e, tokenize remarkThenBinding = .ok [e]) ∧
      (varAndScript.execute remarkThenBinding .empty).run (I := service) hangingScripts () =
        (some (.ok .empty, .empty), ()) := by
  have htokens : ¬ ∃ e, tokenize remarkThenBinding = .ok [e] := by
    rintro ⟨e, htokens⟩
    rw [tokenize_remarkThenBinding] at htokens
    cases htokens
  have hled : Text.LedByRemark remarkThenBinding.toList :=
    ⟨[], " remark\nx = echo 1".toList, rfl, nofun⟩
  obtain ⟨result, s', w', hrun, hempty, -, hnothing, -⟩ :=
    execute_empty_iff hangingScripts varAndScript remarkThenBinding .empty ()
  have hresult : result = .ok .empty := hempty.2 (.inl hled)
  obtain ⟨rfl, rfl⟩ := hnothing hresult
  rw [hrun, hresult]
  exact ⟨htokens, rfl⟩

end Shell

end Sluice
