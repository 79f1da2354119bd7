import Sluice.Proofs.Text.Slices
import Sluice.Proofs.Token.Slicing
import Sluice.Proofs.Value.Paths
import Sluice.Proofs.Value.Substitution
import Sluice.Tree.Parser

/-!
# Reading paths and templates by their bytes

Paths are read, and templates found and replaced, once more by searches that give bytes and by
slices between these bytes: the root of a path and its steps, the rest behind a bracket, the
expressions of templates, and the literal text between them. As with tokens, a slice that is not
there would stop the reading, and none is missing (`slices_between_characters`).

* `Path.readStepsAt?_eq`, `Path.readAt?_eq` : paths;
* `Template.spansFrom?_eq`, `Template.writeOutAt?_eq`, `Template.resolveAt?_eq` : templates.
-/

namespace Sluice

open Text

namespace Path

/-! ## Paths -/

/-- The byte at which a name ends. -/
def nameStop (cs : List Char) : Nat :=
  (findChar? endsName cs).getD (byteLength cs)

/-- The steps that a text consists of. Each has to leave no more than what stands behind its sign. -/
def readStepsAt? (rest : List Char) : Option (Except PathFault (List Step)) :=
  match rest with
  | [] => some (.ok [])
  | '.' :: after =>
    (sliceTo? after (nameStop after)).bind fun name =>
      if name.isEmpty then some (.error .emptyField)
      else
        (sliceFrom? after (nameStop after)).bind fun behind =>
          if _ : behind.length ≤ after.length then
            (readStepsAt? behind).map fun steps => steps.map (.field (String.ofList name) :: ·)
          else none
  | '[' :: after =>
    match find? [']'] after with
    | none => some (.error .unclosedIndex)
    | some close =>
      (sliceTo? after close).bind fun inside =>
        match readIndex? inside with
        | none => some (.error .badIndex)
        | some n =>
          (sliceFrom? after (close + 1)).bind fun behind =>
            if _ : behind.length ≤ after.length then
              (readStepsAt? behind).map fun steps => steps.map (.index n :: ·)
            else none
  | _ => some (.error .noStep)
termination_by rest.length

/-- The path that a text stands for. -/
def readAt? (text : String) : Option (Except PathFault Path) :=
  let path := trimChars text.toList
  (sliceTo? path (nameStop path)).bind fun root =>
    if !isIdentifierChars root then some (.error .noRoot)
    else
      (sliceFrom? path (nameStop path)).bind fun rest =>
        (readStepsAt? rest).map fun steps => steps.map fun steps => ⟨String.ofList root, steps⟩

section Names

variable (cs : List Char)

theorem nameStop_eq : nameStop cs = byteLength (takeName cs).1 :=
  findChar?_getD endsName cs

theorem sliceTo?_nameStop : sliceTo? cs (nameStop cs) = some (takeName cs).1 := by
  rw [nameStop_eq]
  exact sliceTo?_append (takeName_fst_append_snd cs).symm

theorem sliceFrom?_nameStop : sliceFrom? cs (nameStop cs) = some (takeName cs).2 := by
  rw [nameStop_eq]
  exact sliceFrom?_append (takeName_fst_append_snd cs).symm

end Names

theorem readStepsAt?_eq (cs : List Char) : readStepsAt? cs = some (readSteps cs) := by
  fun_induction readSteps cs with
  | case1 => rw [readStepsAt?]
  | case2 after _ hempty =>
      rw [readStepsAt?, sliceTo?_nameStop, Option.bind_some, if_pos hempty]
  | case3 after hle hempty ih =>
      rw [readStepsAt?, sliceTo?_nameStop, Option.bind_some, if_neg hempty, sliceFrom?_nameStop,
        Option.bind_some, dif_pos hle, ih]
      rfl
  | case4 after hcut =>
      rw [readStepsAt?, find?, hcut]
      rfl
  | case5 after inside rest hcut _ hindex =>
      have hafter := cut?_eq_append hcut
      rw [List.append_assoc] at hafter
      rw [readStepsAt?, find?, hcut]
      dsimp only [Option.map_some]
      rw [sliceTo?_append hafter, Option.bind_some, hindex]
  | case6 after inside rest hcut _ n hindex ih =>
      have hafter := cut?_eq_append hcut
      -- a bracket is one byte
      have hclose : byteLength inside + 1 = byteLength (inside ++ [']']) := by
        rw [byteLength_append]
        rfl
      have hle : rest.length ≤ after.length :=
        Nat.le_trans (Nat.le_add_right _ _) (cut?_after_length_le hcut)
      have hinside := sliceFrom?_append hafter
      rw [List.append_assoc] at hafter
      rw [readStepsAt?, find?, hcut]
      dsimp only [Option.map_some]
      rw [sliceTo?_append hafter, Option.bind_some, hindex]
      dsimp only
      rw [hclose, hinside, Option.bind_some, dif_pos hle, ih]
      rfl
  | case7 cs hnil hdot hbracket =>
      rw [readStepsAt?]
      · exact hnil
      · exact hdot
      · exact hbracket

theorem readAt?_eq (text : String) : readAt? text = some (read text) := by
  unfold readAt? read
  dsimp only
  rw [sliceTo?_nameStop, Option.bind_some]
  split
  · rfl
  · rw [sliceFrom?_nameStop, Option.bind_some, readStepsAt?_eq]
    rfl

end Path

namespace Template

/-! ## Finding templates -/

/-- A template that has been found: its bytes and its expression. -/
structure Found where
  span : Span
  expression : List Char
deriving DecidableEq

/-- The templates from a byte on. Each has to end behind that byte and within the text. -/
def spansFrom? (text : List Char) (start : Nat) : Option (List Found) :=
  (sliceFrom? text start).bind fun rest =>
    match find? opening rest with
    | none => some []
    | some lead =>
      let first := start + lead
      (sliceFrom? text (first + 2)).bind fun inside =>
        match find? closing inside with
        | none => some []
        | some length =>
          let last := first + 2 + length
          (slice? text (first + 2) last).bind fun expression =>
            if _ : last + 2 ≤ byteLength text then
              (spansFrom? text (last + 2)).map (⟨⟨first, last + 2⟩, expression⟩ :: ·)
            else none
termination_by byteLength text - start

/-- The templates among the pieces of a text that starts at byte `offset`. -/
def foundIn (offset : Nat) : List Piece → List Found
  | [] => []
  | .literal text :: rest => foundIn (offset + byteLength text) rest
  | .expression text :: rest =>
    let stop := offset + byteLength (Piece.expression text).chars
    ⟨⟨offset, stop⟩, text⟩ :: foundIn stop rest

theorem byteLength_template (before lead expr : List Char) :
    byteLength before + byteLength lead + byteLength (Piece.expression expr).chars =
      byteLength (before ++ lead ++ opening ++ expr ++ closing) := by
  simp [Piece.chars, Nat.add_assoc]

section Finding

variable {text before after lead rest expr behind : List Char}

/-- Behind an opening the text goes on two bytes later. -/
theorem sliceFrom?_opening (h : text = before ++ after)
    (hopening : cut? opening after = some (lead, rest)) :
    sliceFrom? text (byteLength before + byteLength lead + 2) = some rest := by
  have hbytes : byteLength before + byteLength lead + 2 = byteLength (before ++ lead ++ opening) := by
    rw [byteLength_append, byteLength_append]
    rfl
  rw [hbytes]
  refine sliceFrom?_append ?_
  rw [h, cut?_eq_append hopening, List.append_assoc, List.append_assoc, List.append_assoc]

theorem spansFrom?_of_no_opening (h : text = before ++ after)
    (hopening : cut? opening after = none) : spansFrom? text (byteLength before) = some [] := by
  rw [spansFrom?, sliceFrom?_append h, Option.bind_some, find?, hopening]
  rfl

theorem spansFrom?_of_unclosed (h : text = before ++ after)
    (hopening : cut? opening after = some (lead, rest)) (hclosing : cut? closing rest = none) :
    spansFrom? text (byteLength before) = some [] := by
  rw [spansFrom?, sliceFrom?_append h, Option.bind_some, find?, hopening]
  dsimp only [Option.map_some]
  rw [sliceFrom?_opening h hopening, Option.bind_some, find?, hclosing]
  rfl

theorem spansFrom?_of_closed (h : text = before ++ after)
    (hopening : cut? opening after = some (lead, rest))
    (hclosing : cut? closing rest = some (expr, behind)) {stop : Nat}
    (hstop : stop = byteLength (before ++ lead ++ opening ++ expr ++ closing)) :
    spansFrom? text (byteLength before) =
      (spansFrom? text stop).map (⟨⟨byteLength before + byteLength lead, stop⟩, expr⟩ :: ·) := by
  have hafter := cut?_eq_append hopening
  rw [cut?_eq_append hclosing] at hafter
  have hsplit : text = (before ++ lead ++ opening) ++ expr ++ (closing ++ behind) := by
    simpa [hafter] using h
  have hslice := slice?_between hsplit
  have hfirst : byteLength (before ++ lead ++ opening) = byteLength before + byteLength lead + 2 := by
    rw [byteLength_append, byteLength_append]
    rfl
  have hlast : byteLength before + byteLength lead + 2 + byteLength expr + 2 = stop := by
    rw [hstop, byteLength_append _ closing, byteLength_append _ expr, hfirst]
    rfl
  have hle : byteLength before + byteLength lead + 2 + byteLength expr + 2 ≤ byteLength text := by
    rw [hlast, hstop]
    exact byteLength_le_of_isPrefix ⟨behind, by simpa using hsplit.symm⟩
  rw [hfirst] at hslice
  subst hlast
  rw [spansFrom?, sliceFrom?_append h, Option.bind_some, find?, hopening]
  dsimp only [Option.map_some]
  rw [sliceFrom?_opening h hopening, Option.bind_some, find?, hclosing]
  dsimp only [Option.map_some]
  rw [hslice, Option.bind_some, dif_pos hle]

theorem spansFrom?_eq (h : text = before ++ after) :
    spansFrom? text (byteLength before) = some (foundIn (byteLength before) (pieces after)) := by
  fun_induction pieces after generalizing before with
  | case1 after hopening =>
      rw [spansFrom?_of_no_opening h hopening]
      rfl
  | case2 after lead rest hopening _ hclosing =>
      rw [spansFrom?_of_unclosed h hopening hclosing]
      rfl
  | case3 after lead rest hopening _ expr behind hclosing _ ih =>
      have hafter := cut?_eq_append hopening
      rw [cut?_eq_append hclosing] at hafter
      have hwhole : text = (before ++ lead ++ opening ++ expr ++ closing) ++ behind := by
        simpa [hafter] using h
      rw [spansFrom?_of_closed h hopening hclosing rfl, ih hwhole, foundIn, foundIn,
        byteLength_template]
      rfl

end Finding

example : spansFrom? "ä{{ ö }}ß".toList 0 = some [⟨⟨2, 10⟩, " ö ".toList⟩] := by decide +kernel

/-! ## Rebuilding texts -/

/-- The text from a byte on with its templates written out: the literal text in front of each one,
and behind the last one all that is left. -/
def writeOutAt? (s : Session) (text : List Char) (last : Nat) :
    List Found → Option (Except Failure (List Char))
  | [] => (sliceFrom? text last).map .ok
  | found :: rest =>
    (slice? text last found.span.start).bind fun literal =>
      match s.lookup (String.ofList found.expression) with
      | .error e => some (.error e)
      | .ok v =>
        (writeOutAt? s text found.span.stop rest).map fun tail =>
          tail.map fun cs => literal ++ (v.toText.toList ++ cs)

/-- The template of a text that has only one, from its first character that is not blank to its
last. -/
def soleAt? (text : List Char) : List Found → Option Found
  | [only] =>
    if only.span.start = leadOf text ∧ only.span.stop = trailOf text then some only else none
  | _ => none

/-- What a text stands for. -/
def resolveAt? (s : Session) (text : String) : Option (Except Failure Value) :=
  (spansFrom? text.toList 0).bind fun found =>
    if found.isEmpty then some (.ok (.str text))
    else
      match soleAt? text.toList found with
      | some only => some (s.lookup (String.ofList only.expression))
      | none =>
        (writeOutAt? s text.toList 0 found).map fun result =>
          result.map fun cs => .str (String.ofList cs)

theorem writeOut_literal (s : Session) (text : List Char) :
    writeOut s [.literal text] = .ok text := by
  rw [writeOut, writeOut]
  exact congrArg Except.ok (List.append_nil text)

theorem writeOutAt?_eq (s : Session) {text before after : List Char} {parts : List Piece}
    (hcut : Cut after parts) (h : text = before ++ after) :
    writeOutAt? s text (byteLength before) (foundIn (byteLength before) parts) =
      some (writeOut s parts) := by
  induction hcut generalizing before with
  | rest =>
      rw [writeOut_literal, foundIn, foundIn, writeOutAt?, sliceFrom?_append h]
      rfl
  | @template lead expr after parts hlead hexpr _ ih =>
      have hliteral : text = before ++ lead ++ (opening ++ expr ++ closing ++ after) := by
        simpa using h
      have hbehind : text = (before ++ lead ++ opening ++ expr ++ closing) ++ after := by
        simpa using h
      rw [foundIn, foundIn, byteLength_template, writeOutAt?, slice?_between hliteral,
        Option.bind_some, writeOut, writeOut]
      dsimp only
      rw [ih hbehind]
      cases s.lookup (String.ofList expr) with
      | error e => rfl
      | ok v => cases writeOut s parts <;> rfl

/-! ## Single templates -/

theorem eq_literal_of_foundIn {text : List Char} {parts : List Piece} {offset : Nat}
    (hcut : Cut text parts) (h : foundIn offset parts = []) : parts = [.literal text] := by
  cases hcut with
  | rest => rfl
  | template => cases h

/-- A template covers its text up to blanks exactly if there are only blanks around it. -/
theorem soleAt?_eq {text : List Char} {parts : List Piece} (hcut : Cut text parts) :
    (soleAt? text (foundIn 0 parts)).map Found.expression = sole? parts := by
  cases hcut with
  | rest => rfl
  | @template lead expr after parts _ _ hafter =>
      cases hafter with
      | template => rfl
      | rest =>
          have hlead : byteLength lead = leadOf (lead ++ (opening ++ expr ++ closing ++ after)) ↔
              lead.all isBlank = true := by
            refine leadOf_append_eq_iff fun c hc => ?_
            obtain rfl : '{' = c := Option.some.inj hc
            rfl
          have htrail : byteLength (lead ++ opening ++ expr ++ closing) =
              trailOf (lead ++ opening ++ expr ++ closing ++ after) ↔ after.all isBlank = true := by
            refine trailOf_append_eq_iff fun c hc => ?_
            rw [List.getLast?_append] at hc
            obtain rfl : '}' = c := Option.some.inj hc
            rfl
          have hbytes := byteLength_template [] lead expr
          rw [List.nil_append, byteLength_nil] at hbytes
          rw [foundIn, foundIn, foundIn, foundIn, hbytes, Nat.zero_add, sole?, List.all_append]
          unfold soleAt?
          simp only [List.append_assoc] at hlead htrail ⊢
          simp only [hlead, htrail, Bool.and_eq_true]
          split <;> rfl

theorem resolveAt?_eq (s : Session) (text : String) :
    resolveAt? s text = some (resolve s text) := by
  have hcut := cut_pieces text.toList
  have hfound : spansFrom? text.toList (byteLength []) =
      some (foundIn 0 (pieces text.toList)) := spansFrom?_eq rfl
  have hwritten : writeOutAt? s text.toList (byteLength []) (foundIn 0 (pieces text.toList)) =
      some (writeOut s (pieces text.toList)) := writeOutAt?_eq s hcut rfl
  rw [byteLength_nil] at hfound hwritten
  unfold resolveAt? resolve
  rw [hfound, Option.bind_some]
  dsimp only
  rw [← soleAt?_eq hcut]
  split
  · next hempty =>
    have hempty := List.isEmpty_iff.1 hempty
    rw [hempty, eq_literal_of_foundIn hcut hempty, writeOut_literal]
    exact congrArg (some <| Except.ok <| Value.str ·) String.ofList_toList.symm
  · cases soleAt? text.toList (foundIn 0 (pieces text.toList)) with
    | none =>
        dsimp only [Option.map_none]
        rw [hwritten]
        rfl
    | some only => rfl

end Template

/-- The last stage of a chain, by its number. -/
theorem Chain.exists_last (chain : Chain) :
    ∃ stage, chain.stages[chain.stages.length - 1]? = some stage := by
  have hlength := List.length_pos_iff.2 chain.stages_ne_nil
  exact ⟨_, List.getElem?_eq_getElem (Nat.sub_lt hlength Nat.one_pos)⟩

open Token in
/-- A text has a slice exactly from one place between its characters to another that is not in front
of it. Whatever the text, its tokens, whether it is unfinished, the path it stands for and what it
resolves to are found without a slice that is not there; blanks are left out up to and from places
between characters; at every number there is a token that comes next, of which the reader of lines
sees the first of what is left however far it goes; and no chain is without a last stage. -/
theorem slices_between_characters (source : String) :
    (∀ (text : List Char) (start stop : Nat), (slice? text start stop).isSome = true ↔
      Boundary text start ∧ Boundary text stop ∧ start ≤ stop) ∧
    tokenizeAt? source = some (tokenize source) ∧
    needsMoreAt? source = some (needsMore source) ∧
    (∀ ts, tokenize source = .ok ts →
      (∀ pos, ∃ t ∈ ts, Cursor.peek? ⟨ts, pos⟩ = some t) ∧
      ∀ n, ∃ c t behind, Cursor.advances? ⟨ts, 0⟩ n = some c ∧ c.tokens = ts ∧
        c.peek? = some t ∧ c.left = t :: behind) ∧
    (∀ chain : Chain, ∃ stage, chain.stages[chain.stages.length - 1]? = some stage) ∧
    Path.readAt? source = some (Path.read source) ∧
    Boundary source.toList (leadOf source.toList) ∧
    Boundary source.toList (trailOf source.toList) ∧
    ∀ s, Template.resolveAt? s source = some (Template.resolve s source) := by
  refine ⟨fun text start stop => slice?_isSome_iff, tokenizeAt?_eq source, needsMoreAt?_eq source,
    fun ts hts => ⟨fun pos => ?_, Cursor.exists_advances? hts⟩, Chain.exists_last,
    Path.readAt?_eq source, boundary_leadOf _, boundary_trailOf _,
    fun s => Template.resolveAt?_eq s source⟩
  obtain ⟨us, e, rfl, -, -⟩ := exists_marked hts
  exact @Cursor.exists_peek? ⟨us ++ [e], pos⟩ (by simp)

end Sluice
