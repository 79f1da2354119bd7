import Sluice.History
import Sluice.Proofs.Calendar.Moments
import Sluice.Proofs.Text.Pieces

/-!
# Records as text

A record of the history is one line, with four fields between tabs. Neither the line that was run nor
the detail can spoil that, whatever they hold: their tabs and line ends are replaced. So a history is
taken apart into its records, and each of them into its fields.

* `LineRun.fields` : the fields that are recorded of a line;
* `LineRun.split_record` : a record is taken apart into them;
* `Text.split_unlines` : lines are found again in a text that is made of them.
-/

namespace Sluice

/-! ## Texts of lines -/

namespace Text

def unlines (lines : List String) : String :=
  String.join (lines.map fun line => line ++ "\n")

theorem unlines_append (lines : List String) (line : String) :
    unlines (lines ++ [line]) = unlines lines ++ (line ++ "\n") := by
  rw [unlines, List.map_append, String.join_append]
  simp [unlines, String.join_cons]

/-- Lines are found again by splitting at line ends. -/
theorem split_unlines {lines : List String} (h : ∀ line ∈ lines, '\n' ∉ line.toList) :
    split '\n' (unlines lines) = lines ++ [""] := by
  induction lines with
  | nil => rfl
  | cons line lines ih =>
      obtain ⟨hline, hlines⟩ := List.forall_mem_cons.1 h
      have hcons : (unlines (line :: lines)).toList =
          line.toList ++ '\n' :: (unlines lines).toList := by
        simp [unlines, String.join_cons]
      have hplain : ∀ c ∈ line.toList, (c == '\n') = false := by
        intro c hc
        simpa using fun heq : c = '\n' => hline (heq ▸ hc)
      have hsplit : splitAll '\n' (unlines (line :: lines)).toList =
          line.toList :: splitAll '\n' (unlines lines).toList := by
        rw [hcons, splitAll_eq_splitOn, splitAll_eq_splitOn]
        exact List.splitOnP_append_cons_of_forall_mem hplain '\n' (by simp) _
      rw [split, hsplit, List.map_cons, String.ofList_toList]
      exact congrArg (line :: ·) (ih hlines)

end Text

/-! ## Fields -/

/-- A text that can stand between tabs on a line of its own. -/
structure IsField (s : String) : Prop where
  noTab : '\t' ∉ s.toList
  noLineEnd : '\n' ∉ s.toList

instance (s : String) : Decidable (IsField s) :=
  decidable_of_iff ('\t' ∉ s.toList ∧ '\n' ∉ s.toList)
    ⟨fun ⟨htab, hend⟩ => ⟨htab, hend⟩, fun h => ⟨h.noTab, h.noLineEnd⟩⟩

theorem isField_timestamp (seconds : Nat) : IsField (timestamp seconds) := by
  have hdigits : ∀ {width n : Nat} {cs : List Char}, Numeral width n cs →
      '\t' ∉ cs ∧ '\n' ∉ cs := by
    intro width n cs h
    exact ⟨fun hc => absurd (h.digits _ hc) (by decide), fun hc => absurd (h.digits _ hc) (by decide)⟩
  have hspells := DateTime.spells_display (DateTime.ofSeconds seconds)
  unfold timestamp
  generalize (DateTime.ofSeconds seconds).display = s at hspells
  generalize hcs : s.toList = cs at hspells
  cases hspells with
  | intro hyear hmonth hday hhour hminute hsecond =>
      constructor
      · rw [hcs]
        simp [hdigits hyear, hdigits hmonth, hdigits hday, hdigits hhour, hdigits hminute,
          hdigits hsecond]
      · rw [hcs]
        simp [hdigits hyear, hdigits hmonth, hdigits hday, hdigits hhour, hdigits hminute,
          hdigits hsecond]

theorem Failure.isField_kind (failure : Failure) : IsField failure.kind := by
  cases failure with
  | badSyntax => exact (by decide : IsField "SyntaxError")
  | unknownCommand => exact (by decide : IsField "UnknownCommand")
  | invalidArguments => exact (by decide : IsField "InvalidArguments")
  | undefinedVariable => exact (by decide : IsField "UndefinedVariable")
  | invalidPath => exact (by decide : IsField "InvalidPath")
  | commandFailed => exact (by decide : IsField "HandlerFailure")
  | formatting => exact (by decide : IsField "FormattingError")
  | interrupted => exact (by decide : IsField "Interrupted")

/-- A text with spaces for its tabs and another text for its line ends. -/
def flattened (lineEnd s : String) : String :=
  Text.replace '\t' " " (Text.replace '\n' lineEnd s)

theorem toList_flattened {lineEnd : String} (h : IsField lineEnd) (s : String) :
    (flattened lineEnd s).toList = s.toList.flatMap fun c =>
      if c = '\n' then lineEnd.toList else if c = '\t' then [' '] else [c] := by
  rw [flattened, Text.toList_replace, Text.toList_replace, List.flatMap_assoc]
  refine congrArg (List.flatMap · s.toList) (funext fun c => ?_)
  split
  · -- the text for line ends has no tab
    have hnone : ∀ d ∈ lineEnd.toList, (if d = '\t' then " ".toList else [d]) = [d] := by
      intro d hd
      exact if_neg fun htab : d = '\t' => h.noTab (htab ▸ hd)
    exact (List.flatMap_congr hnone).trans (List.flatMap_singleton' _)
  · rw [List.flatMap_singleton]
    rfl

theorem isField_flattened {lineEnd : String} (h : IsField lineEnd) (s : String) :
    IsField (flattened lineEnd s) := by
  have hkept : ∀ c ∈ (flattened lineEnd s).toList, c ∈ lineEnd.toList ∨ c = ' ' ∨
      (c ≠ '\n' ∧ c ≠ '\t') := by
    intro c hc
    rw [toList_flattened h] at hc
    obtain ⟨d, -, hc⟩ := List.mem_flatMap.1 hc
    split at hc
    · exact .inl hc
    · next hend =>
      split at hc
      · exact .inr (.inl (List.mem_singleton.1 hc))
      · next htab =>
        obtain rfl := List.mem_singleton.1 hc
        exact .inr (.inr ⟨hend, htab⟩)
  constructor
  · intro hc
    rcases hkept _ hc with hc | hc | ⟨-, hc⟩
    · exact h.noTab hc
    · cases hc
    · exact hc rfl
  · intro hc
    rcases hkept _ hc with hc | hc | ⟨hc, -⟩
    · exact h.noLineEnd hc
    · cases hc
    · exact hc rfl

theorem IsField.take {s : String} (h : IsField s) (n : Nat) :
    IsField (String.ofList (s.toList.take n)) := by
  constructor
  · rw [String.toList_ofList]
    exact fun hc => h.noTab (List.mem_of_mem_take hc)
  · rw [String.toList_ofList]
    exact fun hc => h.noLineEnd (List.mem_of_mem_take hc)

/-! ## Records -/

namespace Record

theorem lineField_eq (line : String) :
    lineField line = (flattened " " line).toList.take lineLimit := by
  have hspace : ∀ c : Char, [if c == '\n' || c == '\t' then ' ' else c] =
      if c = '\n' then " ".toList else if c = '\t' then [' '] else [c] := by
    intro c
    by_cases hend : c = '\n'
    · simp [hend]
    · by_cases htab : c = '\t' <;> simp [hend, htab]
  rw [lineField, toList_flattened (by decide), List.map_eq_flatMap]
  exact congrArg (fun f => (line.toList.flatMap f).take lineLimit) (funext hspace)

theorem detailField_eq (detail : String) : detailField detail = (flattened "; " detail).toList := by
  have hspell : ∀ c : Char,
      (if c == '\n' then [';', ' '] else if c == '\t' then [' '] else [c]) =
        if c = '\n' then "; ".toList else if c = '\t' then [' '] else [c] := by
    intro c
    by_cases hend : c = '\n'
    · simp [hend]
    · by_cases htab : c = '\t' <;> simp [hend, htab]
  rw [detailField, toList_flattened (by decide)]
  exact congrArg (detail.toList.flatMap ·) (funext hspell)

end Record

/-- A line that has been run: what it came to, and the time at which that was recorded. -/
structure LineRun where
  line : String
  result : Except PipelineFailure Outcome
  seconds : Nat

namespace LineRun

def word (r : LineRun) : String :=
  match r.result with
  | .ok (.bound _) => "bound"
  | .ok (.shown _ _ (some _)) => "warning"
  | .ok _ => "ok"
  | .error failure => failure.failure.kind

/-- What there is to say about it. -/
def detail (r : LineRun) : String :=
  match r.result with
  | .ok (.bound name) => name
  | .ok (.shown _ _ (some warning)) => warning
  | .ok _ => ""
  | .error failure => failure.message

/-- What is recorded: the time, how it went, the first 200 characters of the line, and the detail. -/
def fields (r : LineRun) : List String :=
  [timestamp r.seconds, r.word, String.ofList ((flattened " " r.line).toList.take 200),
    flattened "; " r.detail]

/-- The fields with tabs between them. -/
def record (r : LineRun) : String :=
  "\t".intercalate r.fields

/-- A blank line asks for nothing. -/
def asked (r : LineRun) : Bool :=
  match r.result with
  | .ok .empty => false
  | _ => true

theorem isField_word (r : LineRun) : IsField r.word := by
  unfold word
  split
  · decide
  · decide
  · decide
  · next failure _ => exact failure.failure.isField_kind

theorem isField_of_mem_fields {r : LineRun} : ∀ field ∈ r.fields, IsField field := by
  have hline : IsField (flattened " " r.line) := isField_flattened (by decide) r.line
  have hdetail : IsField (flattened "; " r.detail) := isField_flattened (by decide) r.detail
  intro field hfield
  simp only [fields, List.mem_cons, List.not_mem_nil, or_false] at hfield
  rcases hfield with rfl | rfl | rfl | rfl
  · exact isField_timestamp r.seconds
  · exact r.isField_word
  · exact hline.take 200
  · exact hdetail

/-- A record is taken apart into its fields. -/
theorem split_record (r : LineRun) : Text.split '\t' r.record = r.fields := by
  have hlist : r.record.toList = ['\t'].intercalate (r.fields.map String.toList) :=
    String.toList_intercalate
  have hnoTab : ∀ cs ∈ r.fields.map String.toList, '\t' ∉ cs :=
    List.forall_mem_map.2 fun field hfield => (isField_of_mem_fields field hfield).noTab
  have hsome : r.fields.map String.toList ≠ [] := List.cons_ne_nil _ _
  rw [Text.split, hlist, Text.splitAll_eq_splitOn, List.splitOn_intercalate '\t' hnoTab hsome]
  simp

example : (LineRun.mk "a |\n b" (.ok (.bound "two\nlines")) 0).record =
    "1970-01-01T00:00:00Z\tbound\ta |  b\ttwo; lines" := by decide +kernel

/-- A record is one line. -/
theorem newline_not_mem_record (r : LineRun) : '\n' ∉ r.record.toList := by
  rw [record, String.toList_intercalate]
  intro hc
  rcases Text.mem_intercalate hc with htab | ⟨cs, hcs, hc⟩
  · exact absurd htab (by decide)
  · obtain ⟨field, hfield, rfl⟩ := List.mem_map.1 hcs
    exact (isField_of_mem_fields field hfield).noLineEnd hc

/-- What is written for a line that has been run. -/
theorem text_ofOutcome? (r : LineRun) :
    (Record.ofOutcome? (timestamp r.seconds) r.line r.result).map Record.text =
      if r.asked then some (r.record ++ "\n") else none := by
  obtain ⟨line, result, seconds⟩ := r
  have htext : ∀ outcome detail : String, (Record.mk (timestamp seconds) outcome line detail).text =
      "\t".intercalate [timestamp seconds, outcome,
        String.ofList ((flattened " " line).toList.take 200), flattened "; " detail] ++ "\n" := by
    intro outcome detail
    rw [Record.text, Record.lineField_eq, Record.detailField_eq]
    simp [← String.toList_inj, Record.lineLimit]
  rcases result with failure | _ | name | ⟨value, text, _ | warning⟩
  · exact congrArg some (htext _ _)
  · rfl
  · exact congrArg some (htext _ _)
  · exact congrArg some (htext _ _)
  · exact congrArg some (htext _ _)

end LineRun

end Sluice
