import Sluice.Proofs.Shell.Single
import Sluice.Proofs.Token.Reading

/-!
# Four ways to read a variable

A variable, or a place inside it, can be read by a template behind `echo`, bare or in quotes, by
`var get` and a quoted expression, and by its name alone. The expression reaches the session's
lookup character by character as it was typed, whatever delimiters it holds, and the line ends as
the lookup does (`Shell.execute_reference`).
-/

namespace Sluice

/-! ## Expressions -/

namespace Template

/-- A text that stays one expression between an opening and a closing on one line. -/
structure IsExpression (e : List Char) : Prop where
  line : '\n' ∉ e
  closing : ¬ Template.closing <:+: e
  /-- The closing behind the text starts where the text ends. -/
  last : e.getLast? ≠ some '}'

def around (e : String) : String :=
  String.ofList (Piece.expression e.toList).chars

theorem IsExpression.of_cons {c : Char} {e : List Char} (h : IsExpression (c :: e)) :
    IsExpression e where
  line hmem := h.line (List.mem_cons_of_mem c hmem)
  closing hinside := h.closing (hinside.trans (List.suffix_cons c e).isInfix)
  last hlast := by
    refine h.last ?_
    cases e with
    | nil => cases hlast
    | cons d e => exact hlast

/-- The first closing behind an expression is the one that closes it. -/
theorem IsExpression.takeClosed? {e : List Char} (h : IsExpression e) (rest : List Char) :
    takeClosed? (e ++ Template.closing ++ rest) = some (e ++ Template.closing, rest) := by
  induction e with
  | nil => rfl
  | cons c e ih =>
      have hline : c ≠ '\n' := by
        rintro rfl
        exact h.line List.mem_cons_self
      have hclosing : ∀ tail, c = '}' → e ++ Template.closing ++ rest = '}' :: tail → False := by
        rintro tail rfl htail
        cases e with
        | nil => exact h.last rfl
        | cons d e =>
            obtain ⟨rfl, -⟩ := List.cons.inj htail
            exact h.closing ⟨[], e, rfl⟩
      rw [List.cons_append, List.cons_append, Template.takeClosed?, ih h.of_cons]
      · rfl
      · exact hclosing
      · exact hline

theorem IsExpression.lead? {e : List Char} (h : IsExpression e) :
    lead? (Piece.expression e).chars = some ((Piece.expression e).chars, []) := by
  have htake := h.takeClosed? []
  rw [List.append_nil] at htake
  change (Template.takeClosed? (e ++ Template.closing)).map _ = _
  rw [htake]
  rfl

theorem IsExpression.pieces {e : List Char} (h : IsExpression e) :
    pieces (Piece.expression e).chars = [.literal [], .expression e, .literal []] := by
  obtain ⟨expr, hexpr, -, hpieces⟩ := pieces_of_lead? h.lead?
  obtain rfl : e = expr := by simpa [Piece.chars] using hexpr
  have hnil : Template.pieces [] = [.literal []] := pieces_of_no_opening rfl
  have hpieces := hpieces []
  rwa [List.append_nil, hnil] at hpieces

/-- A template on its own stands for what its expression leads to. -/
theorem IsExpression.resolve {e : String} (h : IsExpression e.toList) (s : Session) :
    resolve s (around e) = s.lookup e := by
  unfold Template.resolve around
  rw [String.toList_ofList, h.pieces]
  change s.lookup (String.ofList e.toList) = _
  rw [String.ofList_toList]

end Template

/-! ## Their tokens -/

namespace Token

/-- A template is a word on its own. -/
theorem lexes_template {e : List Char} (h : Template.IsExpression e) (inList : Bool) :
    Lexes inList (Template.Piece.expression e).chars
      (.word (String.ofList (Template.Piece.expression e).chars))
      (Template.Piece.expression e).chars [] := by
  have hnil : wordPieces inList [] = ([], []) := by
    rw [wordPieces]
    rfl
  have hpieces : wordPieces inList (Template.Piece.expression e).chars =
      ([.template (Template.Piece.expression e).chars], []) := by
    rw [wordPieces_template inList h.lead?, hnil]
  have htaken : [WordPiece.template (Template.Piece.expression e).chars].flatMap WordPiece.chars =
      (Template.Piece.expression e).chars := List.append_nil _
  have hstop : stopsWord inList '{' = false := by cases inList <;> rfl
  have hpoint (cs : List Char) : ¬ IsPoint '{' cs := fun hpoint => absurd hpoint.1 (by decide)
  have hlexes := lexes_of_wordPieces hstop (hpoint _) hpieces ((congrArg classify htaken).trans rfl)
  rwa [htaken] at hlexes

/-- The text is a string in quotes with this content. -/
def Quotes (literal content : String) : Prop :=
  ∃ quote tail, (quote = '"' ∨ quote = '\'') ∧ literal.toList = quote :: tail ∧
    quotedTail? quote tail = some ⟨content.toList, tail, []⟩

theorem Quotes.lexes {literal content : String} (h : Quotes literal content) (inList : Bool) :
    Lexes inList literal.toList (.quoted content) literal.toList [] := by
  obtain ⟨quote, tail, hquote, hliteral, htail⟩ := h
  have hlexes : Lexes inList (quote :: tail) _ _ _ := .quoted hquote htail
  rwa [hliteral, ← String.ofList_toList (s := content)]

theorem Quotes.gap {literal content : String} (h : Quotes literal content) :
    gap false literal.toList = ([], literal.toList) := by
  obtain ⟨quote, tail, hquote, hliteral, -⟩ := h
  rw [hliteral]
  rcases hquote with rfl | rfl
  · exact gap_stop tail (by decide) (by decide)
  · exact gap_stop tail (by decide) (by decide)

def escape (c : Char) : List Char :=
  if c = '"' ∨ c = '\\' then ['\\', c] else [c]

def quoted (content : String) : String :=
  String.ofList ('"' :: (content.toList.flatMap escape ++ ['"']))

theorem quotedTail?_escape_append (content : List Char) :
    quotedTail? '"' (content.flatMap escape ++ ['"']) =
      some ⟨content, content.flatMap escape ++ ['"'], []⟩ := by
  induction content with
  | nil => exact quotedTail?_close []
  | cons c content ih =>
      rw [List.flatMap_cons, List.append_assoc]
      by_cases hc : c = '"' ∨ c = '\\'
      · rw [escape, if_pos hc, List.cons_append, List.cons_append, List.nil_append,
          quotedTail?_escape (by decide), ih]
        rcases hc with rfl | rfl <;> rfl
      · rw [escape, if_neg hc, List.cons_append, List.nil_append]
        rw [not_or] at hc
        rw [quotedTail?_plain hc.1 hc.2, ih]
        rfl

/-- Every text can be written in quotes. -/
theorem quotes_quoted (content : String) : Quotes (quoted content) content :=
  ⟨'"', _, .inl rfl, String.toList_ofList, quotedTail?_escape_append content.toList⟩

/-- Identifiers with a blank between neighbours and one more lexeme behind a blank. -/
theorem tokenize_lastLexeme {name : List Char} {names : List (List Char)} {last : List Char}
    {kind : Kind} {line : String}
    (hline : line.toList = name ++ names.flatMap (' ' :: ·) ++ ' ' :: last)
    (h : ∀ n ∈ name :: names, Text.isIdentifierChars n = true)
    (hgap : gap false last = ([], last)) (hlast : ∀ inList, Lexes inList last kind last []) :
    ∃ ts e, tokenize line = .ok (ts ++ [e]) ∧ e.kind = .finish ∧
      ts.map Token.kind = (name :: names).map (fun n => .word (String.ofList n)) ++ [kind] := by
  have hrest : EndsWord (' ' :: last) := by
    rintro c ⟨⟩
    rfl
  obtain ⟨ts, q, hreads, hq, hkinds⟩ := reads_words hline h hrest
  have hblank : gap false q.left = ([' '], last) := by
    rw [hq, gap_blank last rfl, hgap]
  have htakes : Takes q (q.tokenOf [' '] last kind) (q.behind [' '] last [] kind) :=
    .lexeme hblank (hlast _)
  obtain ⟨e, htokens, he⟩ := tokenize_of_reads (hreads.append (.cons htakes .nil)) rfl
  refine ⟨_, e, htokens, he, ?_⟩
  rw [List.map_append, hkinds]
  rfl

end Token

/-- A command, words and one more lexeme are a call whose last operand is that lexeme. -/
theorem parse_lastLexeme {name : String} {names : List String} {last : List Char}
    {kind : Token.Kind} {line : String}
    (hline : line.toList = name.toList ++ (names.map String.toList).flatMap (' ' :: ·) ++ ' ' :: last)
    (h : ∀ n ∈ name :: names, Text.isIdentifier n = true) (hgap : Token.gap false last = ([], last))
    (hlast : ∀ inList, Token.Lexes inList last kind last []) (hkind : kind.isOperand = true) :
    ∃ (us : List Token) (span : Span),
      us.map Token.kind = names.map Token.Kind.word ++ [kind] ∧
        parse line = .ok ⟨none, .stage (.call ⟨name, us.map Tree.operand, [], span⟩)⟩ := by
  obtain ⟨hname, hnames⟩ := List.forall_mem_cons.1 h
  obtain ⟨ts, e, htokens, he, hkinds⟩ := Token.tokenize_lastLexeme hline
    (List.forall_mem_cons.2 ⟨hname, List.forall_mem_map.2 hnames⟩) hgap hlast
  have hwords : ts.map Token.kind = .word name :: (names.map Token.Kind.word ++ [kind]) := by
    simpa [Function.comp_def] using hkinds
  refine parse_operands htokens hwords (List.forall_mem_append.2 ⟨?_, ?_⟩) he
  · exact List.forall_mem_map.2 fun _ _ => rfl
  · simpa using hkind

/-! ## Their programs -/

namespace Intent

def echo (text : String) (span : Span) : Intent :=
  ⟨"echo", none, [.str text], [], false, span⟩

def getVariable (e : String) (span : Span) : Intent :=
  ⟨"var", some "get", [.str e], [], false, span⟩

end Intent

namespace Shell

variable {shell : Shell} {e : String}

/-- How a line ends that hands on what a lookup comes to. -/
def answered (shell : Shell) (label : String) (answer : Except Failure Value) :
    Except PipelineFailure Outcome :=
  (answer.map (Outcome.ofResult · .none shell.output)).mapError fun failure =>
    ⟨some ⟨1, label⟩, failure⟩

theorem value_of_template (e : String) (span : Span) :
    (Operand.word (Template.around e) span).value = .str (Template.around e) := by
  have hne : ∀ {name : String}, name.toList.head? ≠ some '{' → Template.around e ≠ name := by
    rintro _ hname rfl
    exact hname (congrArg List.head? String.toList_ofList)
  unfold Operand.value
  split
  · next h => cases h
  · next h => exact absurd (Operand.word.inj h).1 (hne (by decide))
  · next h => exact absurd (Operand.word.inj h).1 (hne (by decide))
  · next h => exact absurd (Operand.word.inj h).1 (hne (by decide))
  · next h => rw [(Operand.word.inj h).1]

theorem ofCall_echo {registry : Registry} (h : registry.get? "echo" = some .echo) {o : Operand}
    {text : String} (ho : o.value = .str text) (span : Span) :
    Intent.ofCall registry false ⟨"echo", [o], [], span⟩ = .ok (.echo text span, .none) := by
  have hreading : Reading.ofName registry "echo" false = .ok ⟨"echo", none, []⟩ := by
    rw [Reading.ofName, Registry.contains, h]
    rfl
  have hsplit : splitSubcommand false [o] = (none, [o]) := by
    cases o <;> rfl
  unfold Intent.ofCall
  change (Reading.ofName registry "echo" false).bind _ = _
  rw [hreading]
  simp [Except.bind, h, Command.takesSubcommand, hsplit, Intent.echo, ho]

theorem ofCall_getVariable {registry : Registry} (h : registry.get? "var" = some .var)
    (e : String) (a b span : Span) :
    Intent.ofCall registry false ⟨"var", [.word "get" a, .literal (.str e) b], [], span⟩ =
      .ok (.getVariable e span, .none) := by
  have hreading : Reading.ofName registry "var" false = .ok ⟨"var", none, []⟩ := by
    rw [Reading.ofName, Registry.contains, h]
    rfl
  unfold Intent.ofCall
  change (Reading.ofName registry "var" false).bind _ = _
  rw [hreading]
  simp [Except.bind, h, Command.takesSubcommand, splitSubcommand, Intent.getVariable, Operand.value]

/-- A name that stands for no command reads the variable. -/
theorem ofCall_name {registry : Registry} (h : registry.get? "var" = some .var)
    (he : Text.isIdentifier e = true) (hfree : registry.get? e = none) (span : Span) :
    Intent.ofCall registry false ⟨e, [], [], span⟩ = .ok (.getVariable e span, .none) := by
  have hpoint : dotted? e = none := by
    have hcut : Text.cut? ['.'] e.toList = none := by
      refine Text.cut?_eq_none_iff.2 fun hinside => ?_
      have hchar := Token.isNameChar_of_isIdentifierChars he '.' (hinside.subset List.mem_cons_self)
      cases hchar
    rw [dotted?, Text.splitOnce?, hcut]
    rfl
  have hreading : Reading.ofName registry e true = .ok ⟨"var", some "get", [.str e]⟩ := by
    have hvar : registry.contains "var" = true := by rw [Registry.contains, h]; rfl
    have he' : registry.contains e = false := by rw [Registry.contains, hfree]; rfl
    rw [Reading.ofName, he', hvar, hpoint, he]
    simp
  unfold Intent.ofCall
  change (Reading.ofName registry e true).bind _ = _
  rw [hreading]
  simp [Except.bind, splitSubcommand, Intent.getVariable]

/-! ## What they do -/

theorem dispatch_echo {registry : Registry} (h : registry.get? "echo" = some .echo) {s : Session}
    {text : String} {answer : Except Failure Value} (hresolve : Template.resolve s text = answer)
    (span : Span) :
    (registry.dispatch (.echo text span) none).run.onSession s = .done (some answer, s) := by
  cases answer with
  | error failure =>
      have horder : (Intent.echo text span).order registry s false = .error failure := by
        unfold Intent.order Intent.resolve
        dsimp only [Intent.echo]
        rw [h, Value.resolveItems, Value.resolve, hresolve]
        rfl
      unfold Registry.dispatch
      change ((ofExcept ((Intent.echo text span).order registry s false) : Job (Order × String)) >>=
        _).run.onSession s = _
      rw [horder]
      rfl
  | ok v =>
      have horder : (Intent.echo text span).order registry s false = .ok (.echo v, "echo") := by
        unfold Intent.order Intent.resolve
        dsimp only [Intent.echo]
        rw [h, Value.resolveItems, Value.resolve, hresolve]
        rfl
      rw [onSession_dispatch horder]
      rfl

theorem dispatch_getVariable {registry : Registry} (h : registry.get? "var" = some .var)
    {s : Session} (he : Template.resolve s e = .ok (.str e)) (span : Span) :
    (registry.dispatch (.getVariable e span) none).run.onSession s = .done (some (s.lookup e), s) := by
  have horder : (Intent.getVariable e span).order registry s false =
      .ok (.getVariable e, "var get") := by
    unfold Intent.order Intent.resolve
    dsimp only [Intent.getVariable]
    rw [h, Value.resolveItems, Value.resolve, he]
    rfl
  rw [onSession_dispatch horder]
  change Act.onSession (ExceptT.run (ofExcept (s.lookup e) : Job Value)) s = _
  cases s.lookup e <;> rfl

/-- The line of one call that does nothing but answer. -/
theorem execute_answered {line : String} {c : Call} {i : Intent} {s : Session}
    {answer : Except Failure Value} (hline : isRemark line = false)
    (hparse : parse line = .ok ⟨none, .stage (.call c)⟩)
    (hbuild : Intent.ofCall shell.registry false c = .ok (i, .none))
    (hdispatch : (shell.registry.dispatch i none).run.onSession s = .done (some answer, s)) :
    shell.execute line s = .done (shell.answered i.label answer, s) := by
  have hprogram : shell.program line = .ok ⟨none, ⟨[.command i], .none⟩⟩ := by
    unfold program
    rw [hparse]
    dsimp only
    rw [Line.build, Chain.build, Stage.build, hbuild]
    rfl
  rw [execute_dispatch hline hprogram, hdispatch]
  cases answer <;> rfl

theorem execute_echo {line : String} (hecho : shell.registry.get? "echo" = some .echo)
    {last : List Char} {kind : Token.Kind} {text : String} {s : Session}
    {answer : Except Failure Value} (hline : line.toList = "echo".toList ++ ' ' :: last)
    (hgap : Token.gap false last = ([], last))
    (hlast : ∀ inList, Token.Lexes inList last kind last []) (hkind : kind.isOperand = true)
    (hvalue : ∀ t : Token, t.kind = kind → (Tree.operand t).value = .str text)
    (hresolve : Template.resolve s text = answer) :
    shell.execute line s = .done (shell.answered "echo" answer, s) := by
  have hname : Text.isIdentifier "echo" = true := by decide
  have hwords : line.toList =
      "echo".toList ++ (([] : List String).map String.toList).flatMap (' ' :: ·) ++ ' ' :: last := by
    simpa using hline
  obtain ⟨us, span, hus, hparse⟩ := parse_lastLexeme hwords (by simpa using hname) hgap hlast hkind
  obtain ⟨t, us, rfl, ht, hus⟩ := List.map_eq_cons_iff.1 hus
  obtain rfl := List.map_eq_nil_iff.1 hus
  exact execute_answered (isRemark_of_isIdentifier hline hname) hparse
    (ofCall_echo hecho (hvalue t ht) span) (dispatch_echo hecho hresolve span)

theorem execute_getVariable {literal : String} (hvar : shell.registry.get? "var" = some .var)
    (he : Template.IsExpression e.toList) (hliteral : Token.Quotes literal e) (s : Session) :
    shell.execute ("var get " ++ literal) s =
      .done (shell.answered "var get" (s.lookup e), s) := by
  have hnames : ∀ n ∈ ["var", "get"], Text.isIdentifier n = true := by decide
  have hline : ("var get " ++ literal).toList =
      "var".toList ++ (["get"].map String.toList).flatMap (' ' :: ·) ++ ' ' :: literal.toList := by
    simp
  obtain ⟨us, span, hus, hparse⟩ :=
    parse_lastLexeme hline hnames hliteral.gap hliteral.lexes rfl
  obtain ⟨t, us, rfl, ht, hus⟩ := List.map_eq_cons_iff.1 hus
  obtain ⟨u, us, rfl, hu, hus⟩ := List.map_eq_cons_iff.1 hus
  obtain rfl := List.map_eq_nil_iff.1 hus
  have hbuild := ofCall_getVariable hvar e t.span u.span span
  rw [← Tree.operand_of_word ht, ← Tree.operand_of_quoted hu] at hbuild
  rw [List.append_assoc] at hline
  exact execute_answered (isRemark_of_isIdentifier hline (hnames "var" List.mem_cons_self)) hparse hbuild
    (dispatch_getVariable hvar (Template.resolve_of_no_closing s he.closing) span)

theorem execute_name (hvar : shell.registry.get? "var" = some .var)
    (he : Text.isIdentifier e = true) (hfree : shell.registry.get? e = none) (s : Session) :
    shell.execute e s = .done (shell.answered "var get" (s.lookup e), s) := by
  have hnames : ∀ n ∈ [e], Text.isIdentifier n = true := List.forall_mem_singleton.2 he
  obtain ⟨spans, span, hlength, hparse⟩ := parse_words hnames
  obtain rfl := List.eq_nil_of_length_eq_zero hlength
  have hline : Text.words e [] = e := by simp [Text.words]
  have hremark := isRemark_words he []
  rw [hline] at hparse hremark
  exact execute_answered hremark hparse (ofCall_name hvar he hfree span)
    (dispatch_getVariable hvar
      (Template.resolve_of_no_closing s (Template.no_closing_of_isIdentifier he)) span)

/-- However a variable is read, the line ends as the lookup of the expression does: with the value
that it leads to, or with its failure at the first command. The session stays as it is. -/
theorem execute_reference (hecho : shell.registry.get? "echo" = some .echo)
    (hvar : shell.registry.get? "var" = some .var) (he : Template.IsExpression e.toList)
    {quotedTemplate quotedName : String}
    (htemplate : Token.Quotes quotedTemplate (Template.around e))
    (hname : Token.Quotes quotedName e) (s : Session) :
    shell.execute ("echo " ++ Template.around e) s =
        .done (shell.answered "echo" (s.lookup e), s) ∧
    shell.execute ("echo " ++ quotedTemplate) s = .done (shell.answered "echo" (s.lookup e), s) ∧
    shell.execute ("var get " ++ quotedName) s =
        .done (shell.answered "var get" (s.lookup e), s) ∧
    (Text.isIdentifier e = true → shell.registry.get? e = none →
      shell.execute e s = .done (shell.answered "var get" (s.lookup e), s)) := by
  refine ⟨?_, ?_, execute_getVariable hvar he hname s, fun hid hfree => execute_name hvar hid hfree s⟩
  · have hgap := Token.gap_stop ('{' :: (e.toList ++ Template.closing)) (c := '{') rfl (by decide)
    refine execute_echo hecho ?_ hgap (Token.lexes_template he) rfl ?_ (he.resolve s)
    · rw [String.toList_append]
      exact congrArg ("echo ".toList ++ ·) String.toList_ofList
    · intro t ht
      rw [Tree.operand_of_word ht]
      exact value_of_template e t.span
  · refine execute_echo hecho ?_ htemplate.gap htemplate.lexes rfl ?_ (he.resolve s)
    · rw [String.toList_append]
      rfl
    · intro t ht
      rw [Tree.operand_of_quoted ht]
      rfl

/-- A session with a field whose name is full of delimiters. -/
def delimitedField : Session :=
  ⟨[("cfg", ⟨"cfg", .map [("a|b (#\"=\\ \x7b\x7b,", .seq [.bool true])], "", ""⟩)], [], none⟩

theorem execute_reference_delimitedField :
    let shell : Shell := ⟨.builtin [], ⟨"auto", 80⟩⟩
    let s := delimitedField
    let e := "cfg.a|b (#\"=\\ \x7b\x7b,[0]"
    let shown : Except PipelineFailure Outcome := .ok (.shown (.bool true) "true" none)
    let refused : Except PipelineFailure Outcome :=
      .error ⟨some ⟨1, "var get"⟩, .undefinedVariable "true"⟩
    shell.execute ("echo " ++ Template.around e) s = .done (shown, s) ∧
      shell.execute ("echo " ++ Token.quoted (Template.around e)) s = .done (shown, s) ∧
      shell.execute ("var get " ++ Token.quoted e) s = .done (shown, s) ∧
      shell.execute ("var get " ++ Token.quoted "true") s = .done (refused, s) ∧
      shell.execute "true" s = .done (refused, s) := by
  intro shell s e shown refused
  have hecho : shell.registry.get? "echo" = some .echo := by decide +kernel
  have hvar : shell.registry.get? "var" = some .var := by decide +kernel
  have he : Template.IsExpression e.toList :=
    ⟨by decide +kernel, by decide +kernel, by decide +kernel⟩
  have htrue : Template.IsExpression "true".toList := ⟨by decide, by decide, by decide⟩
  have hfound : s.lookup e = .ok (.bool true) := eq_ok_of_toOption (by decide +kernel)
  have hread : Path.read "true" = .ok ⟨"true", []⟩ := eq_ok_of_toOption (by decide +kernel)
  have hmissing : s.lookup "true" = .error (.undefinedVariable "true") := by
    unfold Session.lookup
    rw [hread]
    rfl
  have hshown : Outcome.ofResult (.bool true) .none shell.output = .shown (.bool true) "true" none := by
    decide +kernel
  have hanswered (label : String) : shell.answered label (.ok (.bool true)) = shown :=
    congrArg Except.ok hshown
  obtain ⟨hbare, hquoted, hget, -⟩ := execute_reference hecho hvar he
    (Token.quotes_quoted _) (Token.quotes_quoted e) s
  obtain ⟨-, -, hget', hname⟩ := execute_reference hecho hvar htrue
    (Token.quotes_quoted _) (Token.quotes_quoted "true") s
  rw [hfound, hanswered] at hbare hquoted hget
  have hname := hname (by decide) (by decide +kernel)
  rw [hmissing] at hget' hname
  exact ⟨hbare, hquoted, hget, hget', hname⟩

end Shell

end Sluice
