import Sluice.Proofs.Prompt.Lines
import Sluice.Proofs.Text.Pieces
import Sluice.Proofs.Token.Cutting
import Sluice.Proofs.Tree.Parens
import Sluice.Proofs.Tree.Recognition
import Sluice.Sandbox.World

/-!
# Statements over several lines

A statement that has a tree, typed in line by line, is taken up to the first line end at which none
of its strings and none of its parentheses is open (`Prompt.run_readStatement`).

* `needsMore_firstLines` : the tokens of the whole say for each of its line ends whether the lines
  so far are unfinished;
* `Prompt.run_firstLines` : lines are read while what has been read is unfinished.
-/

namespace Sluice

open Token

/-! ## Lines of a text -/

namespace Text

theorem split_ne_nil (sep : Char) (source : String) : split sep source ≠ [] := by
  rw [split, splitAll_eq_splitOn]
  simp

theorem intercalate_split (source : String) : "\n".intercalate (split '\n' source) = source := by
  have htoList : String.toList ∘ String.ofList = id := funext fun _ => String.toList_ofList
  apply String.toList_inj.1
  rw [String.toList_intercalate, split, List.map_map, htoList, List.map_id, splitAll_eq_splitOn]
  exact List.intercalate_splitOn '\n'

/-- A text up to the end of one of its lines. -/
def firstLines (source : String) (count : Nat) : String :=
  "\n".intercalate ((split '\n' source).take count)

theorem firstLines_all (source : String) :
    firstLines source (split '\n' source).length = source := by
  rw [firstLines, List.take_length, intercalate_split]

/-- Behind the first lines of a text there is a line end. -/
theorem firstLines_cut {source : String} {count : Nat} (hpos : 0 < count)
    (hlt : count < (split '\n' source).length) :
    ∃ rest, source.toList = (firstLines source count).toList ++ '\n' :: rest := by
  have htake : (split '\n' source).take count ≠ [] := by
    simp [List.take_eq_nil_iff, split_ne_nil, Nat.pos_iff_ne_zero.1 hpos]
  have hdrop : (split '\n' source).drop count ≠ [] := by
    simpa [List.drop_eq_nil_iff] using hlt
  have hjoin := String.intercalate_append_of_ne_nil htake hdrop (s := "\n")
  rw [List.take_append_drop, intercalate_split] at hjoin
  refine ⟨("\n".intercalate ((split '\n' source).drop count)).toList, ?_⟩
  exact (congrArg String.toList hjoin).trans (by simp [firstLines])

end Text

/-! ## Unfinished lines -/

/-- The byte behind the first lines of a text. -/
def Text.lineEnd (source : String) (count : Nat) : Nat :=
  Text.byteLength (Text.firstLines source count).toList

/-- A text that has a tree has tokens, which leave nothing open, and its first lines are unfinished
if and only if a string or a parenthesis is open behind them. -/
theorem needsMore_firstLines {source : String} {tree : Line} (h : parse source = .ok tree) :
    ∃ ts, tokenize source = .ok ts ∧ needsMore source = false ∧
      ∀ count, 0 < count → count ≤ (Text.split '\n' source).length →
        (needsMore (Text.firstLines source count) = true ↔
          OpenAt ts (Text.lineEnd source count)) := by
  obtain ⟨ts, htokens, hline⟩ := parse_eq_ok h
  obtain ⟨us, q, stop, hreads, hends, rfl⟩ :=
    (Place.tokens_eq_ok_iff (p := .start source.toList)).1 htokens
  have hbody : Grammar.NoFinish us := fun t ht =>
    ((hreads.lies (Place.in_start source.toList)).2.1 t ht).1.kind
  have hnested := (Tree.line_sound rfl hbody hline).nested
  have hunjoined : Unjoined us := hnested.unjoined.prefix (List.prefix_append us _)
  refine ⟨_, htokens, ?_, fun count hpos hle => ?_⟩
  · have hbalanced := hnested.balanced 0
    rw [openCount_append] at hbalanced
    have hcount : ¬ 0 < openCount 0 us := Nat.not_lt.2 (Nat.le_of_eq hbalanced)
    exact Bool.eq_false_iff.2 fun hmore => hcount ((isOpen_of_ends hreads hends hunjoined).1 hmore)
  · rw [openAt_finish rfl, Text.lineEnd]
    rcases Nat.lt_or_eq_of_le hle with hlt | rfl
    · obtain ⟨rest, hcut⟩ := Text.firstLines_cut hpos hlt
      exact isOpen_cut hcut hreads hends hunjoined
    · rw [Text.firstLines_all]
      exact isOpen_whole hreads hends hunjoined

/-! ## Reading lines -/

namespace Prompt

open Host

/-- The operator's lines wait in order: a request for a line takes the first one, and no text that
is printed takes any. -/
structure Feeds {ω : Type} (world : (q : HostRequest) → ω → Option q.Answer × ω)
    (waiting : ω → List String) : Prop where
  print : ∀ text w, waiting (world (.print text) w).2 = waiting w
  readLine : ∀ line lines w, waiting w = line :: lines →
    ∃ w', world .readLine w = (some (some line), w') ∧ waiting w' = lines

section Reading

variable {ω : Type} {world : (q : HostRequest) → ω → Option q.Answer × ω}
  {waiting : ω → List String}

/-- Behind an invitation the first of the waiting lines is read. -/
theorem Feeds.line (hfeeds : Feeds world waiting) {line : String} {lines : List String} {w : ω}
    (hw : waiting w = line :: lines) (text : String) :
    ∃ w', world .readLine (world (.print text) w).2 = (some (some line), w') ∧
      waiting w' = lines :=
  hfeeds.readLine _ _ _ ((hfeeds.print text w).trans hw)

theorem run_line {text line : String} {w w' : ω}
    (h : world .readLine (world (.print text) w).2 = (some (some line), w')) {α : Type}
    (next : Option String → Act host α) :
    ((tell (.print text)).bind fun _ => (ask .readLine).bind next).run (I := host) world w =
      (next (some line)).run (I := host) world w' := by
  rw [Host.run_tell]
  refine (Host.run_ask world .readLine next _).trans ?_
  rw [h]

/-- Lines are read while what has been read is unfinished. -/
theorem run_readMore (hfeeds : Feeds world waiting) {lines more : List String} {limit : Nat}
    {text : String} {w : ω} (hlimit : lines.length ≤ limit) (hw : waiting w = lines ++ more)
    (hend : needsMore ("\n".intercalate (text :: lines)) = false) :
    ∃ count w', count ≤ lines.length ∧
      (readMore limit text).run (I := host) world w =
        (some ("\n".intercalate (text :: lines.take count)), w') ∧
      waiting w' = lines.drop count ++ more ∧
      needsMore ("\n".intercalate (text :: lines.take count)) = false ∧
      ∀ fewer < count, needsMore ("\n".intercalate (text :: lines.take fewer)) = true := by
  induction lines generalizing limit text w with
  | nil =>
      have hdone : needsMore text = false := by simpa using hend
      rw [readMore_finished hdone]
      exact ⟨0, w, Nat.le_refl 0, by simp [Act.run], hw, by simpa using hdone, nofun⟩
  | cons line lines ih =>
      cases hmore : needsMore text with
      | false =>
          rw [readMore_finished hmore]
          exact ⟨0, w, Nat.zero_le _, by simp [Act.run], hw, by simpa using hmore, nofun⟩
      | true =>
          obtain ⟨limit, rfl⟩ : ∃ left, limit = left + 1 :=
            Nat.exists_eq_add_one_of_ne_zero (Nat.ne_zero_of_lt hlimit)
          -- the next line becomes part of the text, which leaves the whole as it is
          have hjoin : ∀ lines, "\n".intercalate ((text ++ "\n" ++ line) :: lines) =
              "\n".intercalate (text :: line :: lines) := joined_cons text line
          obtain ⟨w₁, hline, hw₁⟩ := hfeeds.line hw continuation
          obtain ⟨count, w', hle, hrun, hw', hdone, hopen⟩ :=
            ih (Nat.le_of_succ_le_succ hlimit) hw₁ (by rwa [hjoin])
          rw [hjoin] at hrun hdone
          refine ⟨count + 1, w', Nat.succ_le_succ hle, ?_, hw', hdone, fun fewer hlt => ?_⟩
          · rw [readMore_unfinished hmore]
            exact (run_line hline _).trans hrun
          · cases fewer with
            | zero => simpa using hmore
            | succ fewer =>
                have hopen := hopen fewer (Nat.lt_of_succ_lt_succ hlt)
                rwa [hjoin] at hopen

/-- Of a text that is not unfinished, the shortest first lines that are not unfinished are read. -/
theorem run_firstLines (hfeeds : Feeds world waiting) {source : String}
    (hdone : needsMore source = false) {limit : Nat}
    (hlimit : (Text.split '\n' source).length ≤ limit + 1) {more : List String} {w : ω}
    (hw : waiting w = Text.split '\n' source ++ more) :
    ∃ count w', 0 < count ∧ count ≤ (Text.split '\n' source).length ∧
      (readStatement limit).run (I := host) world w =
        (some (some (Text.firstLines source count)), w') ∧
      waiting w' = (Text.split '\n' source).drop count ++ more ∧
      needsMore (Text.firstLines source count) = false ∧
      ∀ fewer, 0 < fewer → fewer < count → needsMore (Text.firstLines source fewer) = true := by
  obtain ⟨line, lines, hlines⟩ := List.exists_cons_of_ne_nil (Text.split_ne_nil '\n' source)
  have hjoin : ∀ count, Text.firstLines source (count + 1) =
      "\n".intercalate (line :: lines.take count) := by
    intro count
    rw [Text.firstLines, hlines]
    rfl
  have hend : needsMore ("\n".intercalate (line :: lines)) = false := by
    rw [← hlines, Text.intercalate_split]
    exact hdone
  rw [hlines] at hlimit hw ⊢
  obtain ⟨w₁, hline, hw₁⟩ := hfeeds.line hw invitation
  obtain ⟨count, w', hle, hrun, hw', hfinished, hopen⟩ :=
    run_readMore hfeeds (Nat.le_of_succ_le_succ hlimit) hw₁ hend
  refine ⟨count + 1, w', Nat.succ_pos count, Nat.succ_le_succ hle, ?_, hw', ?_, ?_⟩
  · refine (run_line hline _).trans ((Host.run_bind world (readMore limit line) _ w₁).trans ?_)
    rw [hrun, hjoin]
    rfl
  · rw [hjoin]
    exact hfinished
  · intro fewer hpos hlt
    obtain ⟨fewer, rfl⟩ := Nat.exists_eq_add_one_of_ne_zero (Nat.ne_zero_of_lt hpos)
    rw [hjoin]
    exact hopen fewer (Nat.lt_of_succ_lt_succ hlt)

/-- A statement is what has been typed up to the first of its line ends at which no string and no
parenthesis of the whole is open; where one is open at every line end, it is the whole. -/
theorem run_readStatement (hfeeds : Feeds world waiting) {source : String} {tree : Line}
    (hparse : parse source = .ok tree) {limit : Nat}
    (hlimit : (Text.split '\n' source).length ≤ limit + 1) {more : List String} {w : ω}
    (hw : waiting w = Text.split '\n' source ++ more) :
    ∃ ts count w', tokenize source = .ok ts ∧
      0 < count ∧ count ≤ (Text.split '\n' source).length ∧
      (readStatement limit).run (I := host) world w =
        (some (some (Text.firstLines source count)), w') ∧
      waiting w' = (Text.split '\n' source).drop count ++ more ∧
      ¬ OpenAt ts (Text.lineEnd source count) ∧
      (∀ fewer, 0 < fewer → fewer < count → OpenAt ts (Text.lineEnd source fewer)) ∧
      ((∀ before after, source.toList = before ++ '\n' :: after →
          OpenAt ts (Text.byteLength before)) →
        Text.firstLines source count = source ∧ waiting w' = more) := by
  obtain ⟨ts, htokens, hdone, hfirst⟩ := needsMore_firstLines hparse
  obtain ⟨count, w', hpos, hle, hrun, hw', hfinished, hopen⟩ :=
    run_firstLines hfeeds hdone hlimit hw
  have hclosed : ¬ OpenAt ts (Text.lineEnd source count) := by
    rw [← hfirst count hpos hle, hfinished]
    exact Bool.false_ne_true
  have hopenAt : ∀ fewer, 0 < fewer → fewer < count → OpenAt ts (Text.lineEnd source fewer) :=
    fun fewer hpos hlt =>
      (hfirst fewer hpos (Nat.le_trans (Nat.le_of_lt hlt) hle)).1 (hopen fewer hpos hlt)
  refine ⟨ts, count, w', htokens, hpos, hle, hrun, hw', hclosed, hopenAt, fun hall => ?_⟩
  -- the statement cannot end at a line end, so that it ends with the text
  have hlast : count = (Text.split '\n' source).length := by
    refine Nat.le_antisymm hle (Nat.not_lt.1 fun hlt => hclosed ?_)
    obtain ⟨rest, hcut⟩ := Text.firstLines_cut hpos hlt
    exact hall _ _ hcut
  rw [hlast, Text.firstLines_all, hw', hlast, List.drop_length]
  exact ⟨rfl, rfl⟩

end Reading

theorem feeds_sandbox : Feeds Sandbox.World.host Sandbox.World.lines where
  print _ _ := rfl
  readLine line lines w h := by
    have hnext : w.nextLine = (some line, { w with lines := lines }) := by
      unfold Sandbox.World.nextLine
      rw [h]
    exact ⟨_, congrArg (fun answer => (some answer.1, answer.2)) hnext, rfl⟩

/-- A call with a line end in a string, and with a comment behind a comma. -/
def callOverLines : String := "f('(\n', 1,# a\n2)"

def callTokens : List Token :=
  [⟨.word "f", "f", ⟨0, 1⟩⟩, ⟨.openParen, "(", ⟨1, 2⟩⟩, ⟨.quoted "(\n", "'(\n'", ⟨2, 6⟩⟩,
    ⟨.comma, ",", ⟨6, 7⟩⟩, ⟨.number (.ofNat 1), "1", ⟨8, 9⟩⟩, ⟨.comma, ",", ⟨9, 10⟩⟩,
    ⟨.number (.ofNat 2), "2", ⟨14, 15⟩⟩, ⟨.closeParen, ")", ⟨15, 16⟩⟩]

theorem parse_callOverLines : ∃ tree, parse callOverLines = .ok tree := by
  have htokens : tokenize callOverLines = .ok (callTokens ++ [⟨.finish, "", ⟨16, 16⟩⟩]) :=
    eq_ok_of_toOption (by decide +kernel)
  have hquoted := Grammar.ReadsOperand.quoted (t := callTokens[2]) rfl
  have hone := Grammar.ReadsOperand.number (t := callTokens[4]) rfl
  have htwo := Grammar.ReadsOperand.number (t := callTokens[6]) rfl
  have hitems := Grammar.ReadsItems.more (c := callTokens[3]) (.operand hquoted) rfl
    (.more (c := callTokens[5]) (.operand hone) rfl (.one (.operand htwo)))
  have hlist : Grammar.ReadsList 1 _ _ _ :=
    .items (p := callTokens[1]) (q := callTokens[7]) rfl rfl hitems rfl
  have hcall := @Grammar.ReadsCall.call true callTokens[0] _ _ _ _ _ _ _ rfl hlist .nil
  exact ⟨_, parse_of_reads htokens (.chain (.stage (.call hcall)) rfl)⟩

/-- A machine on which that call and a further line are typed. -/
def typed : Sandbox.World :=
  ⟨0, [], ⟨[], []⟩, ["f('(", "', 1,# a", "2)", "exit"], "", ""⟩

theorem run_readStatement_callOverLines :
    Feeds Sandbox.World.host Sandbox.World.lines ∧ (∃ tree, parse callOverLines = .ok tree) ∧
    (Text.split '\n' callOverLines).length ≤ 2 + 1 ∧
    typed.lines = Text.split '\n' callOverLines ++ ["exit"] ∧
    ∃ w', (readStatement 2).run (I := host) Sandbox.World.host typed =
      (some (some callOverLines), w') ∧ w'.lines = ["exit"] := by
  have hlines : Text.split '\n' callOverLines = ["f('(", "', 1,# a", "2)"] := by decide +kernel
  have hlimit : (Text.split '\n' callOverLines).length ≤ 2 + 1 := by rw [hlines]; decide
  have htyped : typed.lines = Text.split '\n' callOverLines ++ ["exit"] := by rw [hlines]; rfl
  obtain ⟨tree, hparse⟩ := parse_callOverLines
  refine ⟨feeds_sandbox, ⟨tree, hparse⟩, hlimit, htyped, ?_⟩
  obtain ⟨ts, count, w', htokens, hpos, hle, hrun, hw', hclosed, -⟩ :=
    run_readStatement feeds_sandbox hparse hlimit htyped
  have hopen : ∀ fewer < 3, 0 < fewer → (tokenize callOverLines).toOption.all fun ts =>
      OpenAt ts (Text.lineEnd callOverLines fewer) := by
    decide +kernel
  have hall : count = (Text.split '\n' callOverLines).length := by
    refine Nat.le_antisymm hle (Nat.not_lt.1 fun hlt => hclosed ?_)
    rw [hlines] at hlt
    have hopen := hopen count hlt hpos
    rw [htokens] at hopen
    exact of_decide_eq_true hopen
  rw [hall, Text.firstLines_all] at hrun
  rw [hall, List.drop_length] at hw'
  exact ⟨w', hrun, hw'⟩

end Prompt

end Sluice
