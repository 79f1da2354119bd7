import Sluice.Proofs.Shell.Live
import Sluice.Proofs.Token.Templates
import Sluice.Proofs.Token.Words
import Sluice.Proofs.Tree.Recognition
import Sluice.Shell

/-!
# Lines of one command

A command and its arguments, all of them identifiers with a blank between neighbours, are read as
one call without flags (`parse_words`), and identifiers stand for themselves as arguments
(`Value.resolve_word`). A line whose program is one command does what the command's order does, and
nothing else (`Shell.execute_single`).
-/

namespace Sluice

/-! ## Reading -/

/-- Identifiers with a blank between neighbours. -/
def Text.words (name : String) (names : List String) : String :=
  String.ofList (name.toList ++ names.flatMap fun n => ' ' :: n.toList)

/-- A line that starts like an identifier asks for something. -/
theorem isRemark_of_isNameChar {line : String} {c : Char} {cs : List Char}
    (hline : line.toList = c :: cs) (hc : Token.isNameChar c = true) : isRemark line = false := by
  have hblank := Token.not_isBlank_of_isNameChar hc
  obtain ⟨rest, htrim⟩ := Text.exists_trimRight_cons hblank cs
  unfold isRemark
  rw [hline, Text.trimChars, Text.trimLeft_stop hblank, htrim]
  simpa using Token.ne_of_isNameChar (d := '#') hc rfl

theorem isRemark_of_isIdentifier {line name : String} {rest : List Char}
    (hline : line.toList = name.toList ++ rest) (hname : Text.isIdentifier name = true) :
    isRemark line = false := by
  have hchars := Token.isNameChar_of_isIdentifierChars hname
  cases hcs : name.toList with
  | nil => simp [Text.isIdentifier, hcs, Text.isIdentifierChars] at hname
  | cons c cs =>
      rw [hcs] at hline
      exact isRemark_of_isNameChar hline (hchars c (hcs ▸ List.mem_cons_self))

theorem isRemark_words {name : String} (hname : Text.isIdentifier name = true)
    (names : List String) : isRemark (Text.words name names) = false :=
  isRemark_of_isIdentifier String.toList_ofList hname

open Grammar in
/-- Tokens that can be arguments are the operands of a call. -/
theorem readsArguments_operands {ts : List Token} (h : ∀ t ∈ ts, t.kind.isOperand = true) :
    ReadsArguments true ts (ts.map Tree.operand) [] := by
  induction ts with
  | nil => exact .nil
  | cons t ts ih =>
      obtain ⟨ht, hts⟩ := List.forall_mem_cons.1 h
      exact .operand (readsOperand_iff.2 ⟨ht, rfl⟩) (ih hts)

/-- A word and arguments without flags are one call. -/
theorem parse_operands {line name : String} {kinds : List Token.Kind} {ts : List Token} {e : Token}
    (htokens : tokenize line = .ok (ts ++ [e])) (hts : ts.map Token.kind = .word name :: kinds)
    (hkinds : ∀ kind ∈ kinds, kind.isOperand = true) (he : e.kind = .finish) :
    ∃ (us : List Token) (span : Span), us.map Token.kind = kinds ∧
      parse line = .ok ⟨none, .stage (.call ⟨name, us.map Tree.operand, [], span⟩)⟩ := by
  obtain ⟨t, us, rfl, hk, hus⟩ := List.map_eq_cons_iff.1 hts
  have hargs := readsArguments_operands (List.forall_mem_map.1 (hus ▸ hkinds))
  exact ⟨us, Grammar.cover t us, hus,
    parse_of_reads htokens (.chain (.stage (.call (.call hk .none hargs))) he)⟩

theorem Tree.operand_of_word {t : Token} {name : String} (h : t.kind = .word name) :
    operand t = .word name t.span := by
  unfold operand
  rw [h]

theorem Tree.operand_of_quoted {t : Token} {text : String} (h : t.kind = .quoted text) :
    operand t = .literal (.str text) t.span := by
  unfold operand
  rw [h]

theorem Tree.map_operand_words {ts : List Token} {names : List String}
    (h : ts.map Token.kind = names.map Token.Kind.word) :
    ts.map operand = names.zipWith Operand.word (ts.map Token.span) := by
  induction names generalizing ts with
  | nil =>
      obtain rfl := List.map_eq_nil_iff.1 h
      rfl
  | cons name names ih =>
      obtain ⟨t, ts, rfl, hk, hts⟩ := List.map_eq_cons_iff.1 h
      rw [List.map_cons, operand_of_word hk, ih hts]
      rfl

theorem parse_words {name : String} {names : List String}
    (h : ∀ n ∈ name :: names, Text.isIdentifier n = true) :
    ∃ spans span, spans.length = names.length ∧
      parse (Text.words name names) =
        .ok ⟨none, .stage (.call ⟨name, names.zipWith .word spans, [], span⟩)⟩ := by
  have hline : (Text.words name names).toList =
      name.toList ++ (names.map String.toList).flatMap (' ' :: ·) ++ [] := by
    rw [Text.words, String.toList_ofList, List.flatMap_map, List.append_nil]
  obtain ⟨hname, hnames⟩ := List.forall_mem_cons.1 h
  obtain ⟨ts, q, hreads, hq, hkinds⟩ := Token.reads_words hline
    (List.forall_mem_cons.2 ⟨hname, List.forall_mem_map.2 hnames⟩) nofun
  obtain ⟨e, htokens, he⟩ := Token.tokenize_of_reads hreads hq
  have hwords : ts.map Token.kind = .word name :: names.map Token.Kind.word := by
    simpa [Function.comp_def] using hkinds
  obtain ⟨us, span, hus, hparse⟩ := parse_operands htokens hwords (by simp [Token.Kind.isOperand]) he
  refine ⟨us.map Token.span, span, ?_, ?_⟩
  · simpa using congrArg List.length hus
  · rw [hparse, Tree.map_operand_words hus]

/-! ## Words as arguments -/

theorem Value.toText_word (name : String) (span : Span) :
    (Operand.word name span).value.toText = name := by
  unfold Operand.value
  split
  · next h => cases h
  · next h =>
    cases h
    rfl
  · next h =>
    cases h
    rfl
  · next h =>
    cases h
    rfl
  · next h =>
    cases h
    rfl

/-- A text without a closing stands for itself. -/
theorem Template.resolve_of_no_closing (s : Session) {text : String}
    (h : ¬ closing <:+: text.toList) : resolve s text = .ok (.str text) := by
  unfold resolve
  rw [pieces_of_no_closing h]
  simp [sole?, writeOut, Except.map]

theorem Template.no_closing_of_isIdentifier {name : String} (h : Text.isIdentifier name = true) :
    ¬ closing <:+: name.toList := by
  intro hclosing
  have hbrace := Token.isNameChar_of_isIdentifierChars h '}' (hclosing.subset List.mem_cons_self)
  cases hbrace

/-- An identifier stands for itself as an argument, or for `true`, `false` or `null`. -/
theorem Value.resolve_word (s : Session) {name : String} (h : Text.isIdentifier name = true)
    (span : Span) :
    (Operand.word name span).value.resolve s = .ok (Operand.word name span).value := by
  unfold Operand.value
  split
  · next h => cases h
  · rfl
  · rfl
  · rfl
  · next heq =>
    cases heq
    exact Template.resolve_of_no_closing s (Template.no_closing_of_isIdentifier h)

/-! ## Execution -/

namespace Shell

/-- How the line of one command ends, when its command has come to an end or been interrupted. -/
def settleSingle (shell : Shell) (i : Intent) (d : Directives) (before : Session) :
    Option (Except Failure Value) × Session → Except PipelineFailure Outcome × Session
  | (some (.ok v), s) => (.ok (.ofResult v d shell.output), s)
  | (some (.error failure), _) => (.error ⟨some ⟨1, i.label⟩, failure⟩, before)
  | (none, _) => (.error ⟨none, .interrupted⟩, before)

theorem onSession_dispatch {registry : Registry} {i : Intent} {s : Session} {order : Order}
    {label : String} (h : i.order registry s false = .ok (order, label)) :
    (registry.dispatch i none).run.onSession s =
      (order.execute registry label none).run.onSession s := by
  unfold Registry.dispatch
  change ((ofExcept (i.order registry s false) : Job (Order × String)) >>= _).run.onSession s = _
  rw [h]
  rfl

/-- A pipeline of one command counts to one. -/
theorem run_single (dispatch : Dispatcher (Act live)) (i : Intent) (d : Directives) :
    Pipeline.run dispatch ⟨[.command i], d⟩ none =
      (dispatch i none).bind fun r =>
        .done ⟨1, r.mapError fun failure => ⟨some ⟨1, i.label⟩, failure⟩⟩ := by
  unfold Pipeline.run
  rw [Step.runAll, Step.run, Intent.run]
  change (((dispatch i none).bind _).bind _).bind _ = _
  rw [Act.bind_assoc, Act.bind_assoc]
  congr 1
  funext r
  cases r with
  | ok v => rfl
  | error failure => rfl

/-- A line whose program is one command does what the command does. -/
theorem execute_dispatch {shell : Shell} {line : String} {i : Intent} {d : Directives}
    (hline : isRemark line = false)
    (hprogram : shell.program line = .ok ⟨none, ⟨[.command i], d⟩⟩) (s : Session) :
    shell.execute line s =
      ((shell.registry.dispatch i none).run.onSession s).bind
        fun r => .done (shell.settleSingle i d s r) := by
  unfold execute runLine
  rw [hline, hprogram, if_neg Bool.false_ne_true]
  dsimp only
  rw [run_single]
  change Act.bind (Act.onSession (Act.bind (Act.bind _ _) _) s) _ = _
  rw [Act.bind_assoc, Act.onSession_bind, Act.bind_assoc]
  congr 1
  funext r
  rcases r with ⟨_ | _ | _, s'⟩
  · rfl
  · rfl
  · rfl

/-- A line whose program is one command does what the command's order does. -/
theorem execute_single {shell : Shell} {line : String} {i : Intent} {d : Directives} {s : Session}
    {order : Order} {label : String} (hline : isRemark line = false)
    (hprogram : shell.program line = .ok ⟨none, ⟨[.command i], d⟩⟩)
    (horder : i.order shell.registry s false = .ok (order, label)) :
    shell.execute line s =
      ((order.execute shell.registry label none).run.onSession s).bind
        fun r => .done (shell.settleSingle i d s r) := by
  rw [execute_dispatch hline hprogram, onSession_dispatch horder]

end Shell

end Sluice
