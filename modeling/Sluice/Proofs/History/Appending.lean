import Sluice.Proofs.History.Records
import Sluice.Proofs.History.Services
import Sluice.Proofs.Prompt.Conversation

/-!
# A history of lines

Lines that are run one after another leave a history that can be read: split at line ends and then at
tabs, it has the fields of every line that asked for something, in the order in which the lines were
run, whatever stands in the lines, in their results and in their failures (`Station.history_splits`).

* `Station.Runs` : lines that are run, with what each came to;
* `Station.run_runLine` : one line that is run adds its record;
* `Station.run_runLines` : hence so do all of them.
-/

namespace Sluice

variable {ω σ : Type}

namespace LineRun

/-- What a line that has been run leaves in the history: its record, if it asked for something. -/
def records (r : LineRun) : List String :=
  if r.asked then [r.record] else []

theorem flatMap_records (rs : List LineRun) :
    rs.flatMap records = (rs.filter asked).map record := by
  induction rs with
  | nil => rfl
  | cons r rs ih =>
      rw [List.flatMap_cons, ih, records, List.filter_cons]
      split
      · rfl
      · rfl

end LineRun

namespace Station

def runLines (station : Station σ) : List String → Standing σ → Act host (Standing σ)
  | [], now => return now
  | line :: lines, now => do
    let (_, now) ← station.runLine line now
    station.runLines lines now

section

variable (station : Station σ) (world : (q : HostRequest) → ω → Option q.Answer × ω)

/-- A line is run: it is executed, and the clock is looked at when that has been reported. -/
structure RunsLine (now : Standing σ) (w : ω) (r : LineRun) (now' : Standing σ) (w' : ω) : Prop where
  run : (station.runLine r.line now).run (I := host) world w = (some (r.result.isOk, now'), w')
  executed : ∃ w₁, (station.executeOrCancel r.line now).run (I := host) world w =
      (some (r.result, now'), w₁) ∧
    r.seconds = (world .clock ((report r.result).run (I := host) world w₁).2).1.getD (0 : Nat)

/-- Line after line is run. -/
inductive Runs : Standing σ → ω → List LineRun → Standing σ → ω → Prop where
  | nil {now : Standing σ} {w : ω} : Runs now w [] now w
  | cons {now now₁ now' : Standing σ} {w w₁ w' : ω} {r : LineRun} {rs : List LineRun} :
      station.RunsLine world now w r now₁ w₁ → Runs now₁ w₁ rs now' w' →
        Runs now w (r :: rs) now' w'

end

variable {station : Station σ} {world : (q : HostRequest) → ω → Option q.Answer × ω}
  {home : String} {shows : ω → String → Prop}

/-! ## One line -/

/-- A line is executed and leaves the history as it is. -/
theorem run_execute_spares (hspares : station.SparesHistory world shows) (line : String)
    (now : Standing σ) {w : ω} {text : String} (h : shows w text) :
    ∃ result now' w', (station.execute line now).run (I := host) world w =
      (some (result, now'), w') ∧ shows w' text := by
  obtain ⟨r, services, w', hrun, hw'⟩ :=
    Host.run_through_keeps world (fun _ w => shows w text)
      (fun q services w hw => hspares w text q services hw)
      (station.shell.execute line now.session) h
  rcases r with _ | ⟨result, session⟩
  · exact ⟨_, _, w', Host.run_bind_of_eq world hrun _, hw'⟩
  · exact ⟨_, _, w', Host.run_bind_of_eq world hrun _, hw'⟩

theorem run_executeOrCancel_spares (hworld : KeepsHistory world home shows)
    (hspares : station.SparesHistory world shows) (line : String) (now : Standing σ) {w : ω}
    {text : String} (h : shows w text) :
    ∃ result now' w', (station.executeOrCancel line now).run (I := host) world w =
      (some (result, now'), w') ∧ shows w' text := by
  have hlisten := hworld.spared .listen trivial h
  obtain ⟨result, now', w₁, hrun, h₁⟩ := run_execute_spares hspares line now hlisten
  exact ⟨result, now', _, Host.run_interruptible world hrun,
    hworld.spared .stopListening trivial h₁⟩

/-- What a line came to is reported, which leaves the history as it is. -/
theorem run_report (hworld : KeepsHistory world home shows)
    (result : Except PipelineFailure Outcome) {w : ω} {text : String} (h : shows w text) :
    ∃ w', (report result).run (I := host) world w = (some (), w') ∧ shows w' text := by
  rcases result with failure | _ | name | ⟨value, shown, _ | warning⟩
  · exact ⟨_, rfl, hworld.spared (.complain _) trivial h⟩
  · exact ⟨w, rfl, h⟩
  · exact ⟨w, rfl, h⟩
  · exact ⟨_, rfl, hworld.spared (.print _) trivial h⟩
  · have hwarned := hworld.spared (.complain (s!"warning: {warning}" ++ "\n")) trivial h
    exact ⟨_, rfl, hworld.spared (.print _) trivial hwarned⟩

theorem addOutcome_eq (home line : String) (result : Except PipelineFailure Outcome) :
    History.addOutcome home line result = Host.time.bind fun seconds =>
      (Record.ofOutcome? (timestamp seconds) line result).elim (.done ()) (History.add home) := by
  refine congrArg (Act.bind _) (funext fun seconds => ?_)
  dsimp only
  cases Record.ofOutcome? (timestamp seconds) line result with
  | none => rfl
  | some record => rfl

/-- The record of a line is added to the history. -/
theorem run_addOutcome (hworld : KeepsHistory world home shows) (r : LineRun) {w : ω}
    (hclock : r.seconds = (world .clock w).1.getD (0 : Nat)) {lines : List String}
    (h : shows w (Text.unlines lines)) :
    ∃ w', (History.addOutcome home r.line r.result).run (I := host) world w = (some (), w') ∧
      shows w' (Text.unlines (lines ++ r.records)) := by
  have htime : Host.time.run (I := host) world w = (some r.seconds, (world .clock w).2) := by
    rw [hclock]
    rfl
  have htimed := hworld.spared .clock trivial h
  have htext := r.text_ofOutcome?
  rw [addOutcome_eq, Host.run_bind_of_eq world htime]
  unfold LineRun.records
  split at htext
  · next hasked =>
    obtain ⟨record, hrecord, hwritten⟩ := Option.map_eq_some_iff.1 htext
    rw [if_pos hasked, Text.unlines_append, ← hwritten, hrecord]
    exact ⟨_, rfl, hworld.add record.text htimed⟩
  · next hblank =>
    rw [if_neg hblank, List.append_nil, Option.map_eq_none_iff.1 htext]
    exact ⟨_, rfl, htimed⟩

/-- One line that is run adds its record, if it asked for something. -/
theorem run_runLine (hworld : KeepsHistory world home shows)
    (hspares : station.SparesHistory world shows) (hhome : station.history = some home)
    (line : String) (now : Standing σ) {w : ω} {lines : List String}
    (h : shows w (Text.unlines lines)) :
    ∃ r now' w', r.line = line ∧ station.RunsLine world now w r now' w' ∧
      shows w' (Text.unlines (lines ++ r.records)) := by
  obtain ⟨result, now', w₁, hexecute, h₁⟩ := run_executeOrCancel_spares hworld hspares line now h
  obtain ⟨w₂, hreport, h₂⟩ := run_report hworld result h₁
  let r : LineRun := ⟨line, result, (world .clock w₂).1.getD (0 : Nat)⟩
  obtain ⟨w₃, hadd, h₃⟩ := run_addOutcome hworld r rfl h₂
  have hwrap : (station.wrapUp line result).run (I := host) world w₁ = (some (), w₃) := by
    unfold wrapUp
    rw [hhome]
    exact (Host.run_bind_of_eq world hreport _).trans hadd
  refine ⟨r, now', w₃, rfl, ⟨?_, w₁, hexecute, ?_⟩, h₃⟩
  · rw [runLine_eq_wrapUp, Host.run_bind_of_eq world hexecute, Host.run_bind_of_eq world hwrap]
    rfl
  · rw [hreport]

/-! ## All lines -/

/-- Lines that are run add the records of those that asked for something, in order. -/
theorem run_runLines (hworld : KeepsHistory world home shows)
    (hspares : station.SparesHistory world shows) (hhome : station.history = some home)
    (lines : List String) (now : Standing σ) {w : ω} {before : List String}
    (h : shows w (Text.unlines before)) :
    ∃ rs now' w', (station.runLines lines now).run (I := host) world w = (some now', w') ∧
      rs.map LineRun.line = lines ∧ station.Runs world now w rs now' w' ∧
      shows w' (Text.unlines (before ++ rs.flatMap LineRun.records)) := by
  induction lines generalizing now w before with
  | nil => exact ⟨[], now, w, rfl, rfl, .nil, by rwa [List.flatMap_nil, List.append_nil]⟩
  | cons line lines ih =>
      obtain ⟨r, now₁, w₁, rfl, hruns, h₁⟩ := run_runLine hworld hspares hhome line now h
      obtain ⟨rs, now', w', hrun, rfl, hrest, h'⟩ := ih now₁ h₁
      refine ⟨r :: rs, now', w', ?_, rfl, .cons hruns hrest, ?_⟩
      · exact (Host.run_bind_of_eq world hruns.run _).trans hrun
      · rwa [List.flatMap_cons, ← List.append_assoc]

/-- Whatever lines are run one after another, the history that they leave is read again: split at
line ends, it has behind the lines that it had before one record for each line that asked for
something, in the order in which they were run, and a record split at tabs has its four fields. -/
theorem history_splits (hworld : KeepsHistory world home shows)
    (hspares : station.SparesHistory world shows) (hhome : station.history = some home)
    (lines : List String) (now : Standing σ) {w : ω} {before : List String}
    (hbefore : ∀ line ∈ before, '\n' ∉ line.toList) (h : shows w (Text.unlines before)) :
    ∃ rs now' w' text records,
      (station.runLines lines now).run (I := host) world w = (some now', w') ∧
      rs.map LineRun.line = lines ∧ station.Runs world now w rs now' w' ∧
      shows w' text ∧ Text.split '\n' text = before ++ records ++ [""] ∧
      records.map (Text.split '\t') = (rs.filter LineRun.asked).map LineRun.fields := by
  obtain ⟨rs, now', w', hrun, hlines, hruns, h'⟩ := run_runLines hworld hspares hhome lines now h
  rw [LineRun.flatMap_records] at h'
  have hlineEnds : ∀ line ∈ before ++ (rs.filter LineRun.asked).map LineRun.record,
      '\n' ∉ line.toList := by
    intro line hline
    rcases List.mem_append.1 hline with hline | hline
    · exact hbefore line hline
    · obtain ⟨r, -, rfl⟩ := List.mem_map.1 hline
      exact r.newline_not_mem_record
  have hfields : ((rs.filter LineRun.asked).map LineRun.record).map (Text.split '\t') =
      (rs.filter LineRun.asked).map LineRun.fields := by
    simp only [List.map_map, Function.comp_def, LineRun.split_record]
  exact ⟨rs, now', w', _, _, hrun, hlines, hruns, h', Text.split_unlines hlineEnds, hfields⟩

/-! ## A history in memory -/

/-- A station with the services of the local machine that keeps a history. -/
def recording : Station (List Root) :=
  ⟨⟨.builtin [], ⟨"table", 40⟩⟩, (Local.mk [] ⟨"home/sessions"⟩ .never).meet, some "home"⟩

/-- A machine with a clock and the text of the history, where nothing else can be asked for. -/
def historyInMemory : (q : HostRequest) → String → Option q.Answer × String
  | .clock, text => (some (1709210096 : Nat), text)
  | .appendFile path more, text =>
    (some (Except.ok () : Except FileFault Unit),
      if path = History.file "home" then text ++ more else text)
  | _, text => (none, text)

theorem keepsHistory_inMemory : KeepsHistory historyInMemory "home" (· = ·) where
  add {w text} more h := by
    obtain rfl : w = text := h
    simp [historyInMemory]
  spared {w text} q hq h := by
    obtain rfl : w = text := h
    cases q with
    | appendFile path more => exact if_neg hq
    | _ => rfl

/-- A quoted text with a tab, a remark, a variable over two lines, and a command that there is not. -/
def brokenLines : List String :=
  ["echo 'a\tb'", "# remark", "x =\necho 1", "nope\t1"]

theorem history_splits_brokenLines :
    KeepsHistory historyInMemory "home" (· = ·) ∧
    recording.SparesHistory historyInMemory (· = ·) ∧ recording.history = some "home" ∧
    (∀ line ∈ ["old"], '\n' ∉ line.toList) ∧ "old\n" = Text.unlines ["old"] ∧
    ∃ rs now' w' text records,
      (recording.runLines brokenLines ⟨.empty, []⟩).run (I := host) historyInMemory "old\n" =
        (some now', w') ∧
      rs.map LineRun.line = brokenLines ∧
      recording.Runs historyInMemory ⟨.empty, []⟩ "old\n" rs now' w' ∧
      w' = text ∧ Text.split '\n' text = ["old"] ++ records ++ [""] ∧
      records.map (Text.split '\t') = (rs.filter LineRun.asked).map LineRun.fields := by
  have hspares : recording.SparesHistory historyInMemory (· = ·) :=
    Local.sparesHistory _ keepsHistory_inMemory _ _
  have hbefore : ∀ line ∈ ["old"], '\n' ∉ line.toList := by decide
  have hold : "old\n" = Text.unlines ["old"] := by decide
  exact ⟨keepsHistory_inMemory, hspares, rfl, hbefore, hold,
    history_splits keepsHistory_inMemory hspares rfl brokenLines ⟨.empty, []⟩ hbefore hold⟩

end Station

end Sluice
