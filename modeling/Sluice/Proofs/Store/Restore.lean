import Sluice.Local
import Sluice.Proofs.Running
import Sluice.Proofs.Session.Reload
import Sluice.Proofs.Shell.Reachable
import Sluice.Proofs.Store.Lines
import Sluice.Repl

/-!
# Loading what was saved

`session save` writes the session as JSON into a file, and `session load` puts what it reads there
into the place of the running session. On files that keep what is written, a session comes back as
it was exactly when none of its values is more than 124 levels deep and all of its doubles are read
as they are written (`Station.load_restores_iff`).

* The reader takes 127 levels, and the document has three of its own around the value of a variable;
* the reader rounds more than once where a numeral has many digits, so that the shortest numeral of
  a double may be read as one next to it.
-/

namespace Sluice

/-! ## Files -/

/-- Files keep what is written: `content` says what stands in each. -/
structure KeepsFiles {ω : Type} (world : (q : HostRequest) → ω → Option q.Answer × ω)
    (content : ω → String → Option String) : Prop where
  write : ∀ path text w w', world (.writeFile path text) w = (some (.ok ()), w') →
    content w' path = some text
  read : ∀ path text w, content w path = some text →
    ∃ w', world (.readFile path) w = (some (.ok text), w')

namespace Store

variable {ω : Type} {world : (q : HostRequest) → ω → Option q.Answer × ω}

/-- A document that was saved has been written last of all. -/
theorem write_of_save {store : Store} {name : String} {document : Value} {w w' : ω}
    (h : (store.save name document).run (I := host) world w = (some (.ok ()), w')) :
    ∃ path w₁, store.file name = .ok path ∧
      world (.writeFile path document.pretty) w₁ = (some (.ok ()), w') := by
  unfold save at h
  cases hfile : store.file name with
  | error fault =>
      rw [hfile] at h
      cases h
  | ok path =>
      rw [hfile] at h
      have h := (Host.run_ask world (.makeDirectory store.directory) _ w).symm.trans h
      generalize world (.makeDirectory store.directory) w = made at h
      rcases made with ⟨_ | _ | _, w₁⟩
      · cases h
      · cases h
      · have h := (Host.run_ask world (.writeFile path document.pretty) _ w₁).symm.trans h
        refine ⟨path, w₁, rfl, ?_⟩
        generalize world (.writeFile path document.pretty) w₁ = written at h ⊢
        rcases written with ⟨_ | _ | _, w₂⟩
        · cases h
        · cases h
        · cases h
          rfl

/-- A file that holds a text is loaded as the document in it. -/
theorem run_load {store : Store} {name path text : String} {w w' : ω}
    (hfile : store.file name = .ok path)
    (hread : world (.readFile path) w = (some (.ok text), w')) :
    (store.load name).run (I := host) world w =
      (some ((Value.read text).mapError .badJson), w') := by
  unfold load
  rw [hfile]
  refine (Host.run_ask world (.readFile path) _ w).trans ?_
  rw [hread]
  rfl

end Store

/-! ## Stations -/

/-- The services of a station keep saved sessions in a store. -/
structure Station.FilesSessions {σ : Type} (station : Station σ) (store : Store) : Prop where
  save : ∀ name document services, station.meet (.saveSession name document) services =
    (store.save name document).attempt.bind fun answer => .done (answer, services)
  load : ∀ name services, station.meet (.loadSession name) services =
    (store.load name).attempt.bind fun answer => .done (answer, services)

/-- The services of the local machine do. -/
theorem Local.filesSessions (shell : Shell) (services : Local) (history : Option String) :
    Station.FilesSessions ⟨shell, services.meet, history⟩ services.store where
  save _ _ _ := meet_of_serve rfl
  load _ _ := meet_of_serve rfl

namespace Station

variable {σ ω : Type} {station : Station σ} {store : Store} {name : String}
  {world : (q : HostRequest) → ω → Option q.Answer × ω}

/-- A line that makes one request of services that keep no account of it ends as the answer says. -/
theorem run_execute {line : String} (now : Standing σ) {q : ServiceRequest} {m : Act host q.Answer}
    {next : Option q.Answer → Except PipelineFailure Outcome × Session}
    (hline : station.shell.execute line now.session =
      Act.ask (I := service) q fun answer => .done (next answer))
    (hmeet : station.meet q now.services =
      m.attempt.bind fun answer => .done (answer, now.services)) {answer : Option q.Answer} {w w' : ω}
    (hm : m.run (I := host) world w = (answer, w')) :
    (station.execute line now).run (I := host) world w =
      (some ((next answer).1, ⟨(next answer).2, now.services⟩), w') := by
  have hthrough : (station.shell.execute line now.session).through station.meet now.services =
      m.attempt.bind fun answer => .done (some (next answer), now.services) := by
    rw [hline]
    change (station.meet q now.services).bind _ = _
    rw [hmeet]
    exact Act.bind_assoc m.attempt _ _
  unfold execute
  rw [hthrough]
  refine (Host.run_bind world _ _ w).trans ?_
  rw [Host.run_bind, Host.run_attempt, hm]
  rfl

/-- A line that saves the session has saved it if it succeeds. -/
theorem save_of_execute (hstore : station.FilesSessions store)
    (hsession : station.shell.registry.get? "session" = some .session)
    (hname : Text.isIdentifier name = true) {now after : Standing σ} {outcome : Outcome} {w w' : ω}
    (h : (station.execute s!"session save {name}" now).run (I := host) world w =
      (some (.ok outcome, after), w')) :
    (store.save name now.session.snapshot).run (I := host) world w = (some (.ok ()), w') := by
  rcases hsave : (store.save name now.session.snapshot).run (I := host) world w with ⟨answer, w₁⟩
  have hrun := run_execute now (Shell.execute_save hsession hname now.session)
    (hstore.save name now.session.snapshot now.services) hsave
  rw [hrun] at h
  rcases answer with _ | _ | _
  · cases h
  · cases h
  · cases h
    rfl

end Station

/-! ## Sessions that can be loaded -/

theorem Session.Valid.distinct_snapshot {s : Session} (h : s.Valid) : s.snapshot.Distinct := by
  have hvariables : (Value.seq (s.bindings.map Variable.record)).Distinct := by
    refine Value.distinctList_iff.2 fun x hx => ?_
    obtain ⟨v, hv, rfl⟩ := List.mem_map.1 hx
    simp [Variable.record, h.distinct v hv]
  have hconnections : (Value.seq (s.connections.map Connection.record)).Distinct :=
    Value.distinct_seq_map (fun c => by simp [Connection.record]) s.connections
  simp [Session.snapshot, hvariables, hconnections]

/-- The world in which one document is saved under every name. -/
def Session.savedAs (document : Value) : (q : ServiceRequest) → Unit → Option q.Answer × Unit
  | .loadSession _, w => (some (Except.ok document : Except ServiceFault Value), w)
  | _, w => (none, w)

/-- Any session in order can be loaded, so that nothing more holds of all sessions that lines lead
to. -/
theorem Session.reachable_iff_valid {s : Session} : s.Reachable ↔ s.Valid := by
  refine ⟨Reachable.valid, fun h => ?_⟩
  have hfair : ServiceRequest.Fair (savedAs s.snapshot) := by
    intro q w a ha
    cases q with
    | loadSession name =>
        cases ha
        rintro _ ⟨⟩
        exact h.distinct_snapshot
    | _ => cases ha
  obtain ⟨shell, hsession⟩ : ∃ shell : Shell, shell.registry.get? "session" = some .session :=
    ⟨⟨.builtin [], ⟨"json", 0⟩⟩, by decide⟩
  obtain ⟨outcome, hloaded⟩ := shell.loaded_of_ok "s" (ofSnapshot_snapshot h.toOrdered) .empty
  have hname : Text.isIdentifier "s" = true := by decide
  have hexecute : shell.execute "session load s" .empty = _ :=
    Shell.execute_load hsession hname .empty
  have hrun : (shell.executeOrCancel false "session load s" .empty).run (I := service)
      (savedAs s.snapshot) () = (some (.ok outcome, s), ()) := by
    change (shell.execute "session load s" .empty).run (I := service) _ () = _
    rw [hexecute, ← hloaded]
    rfl
  exact .line .start hfair hrun

/-! ## What comes back -/

/-- Loading the text of a session gives the session that it reads as, or changes nothing. -/
theorem Shell.loaded_pretty (shell : Shell) (name : String) {s : Session} (h : s.Ordered)
    (now : Session) :
    (∃ outcome t, s.reread = some t ∧
        shell.loaded name now (some ((Value.read s.snapshot.pretty).mapError .badJson)) =
          (.ok outcome, t)) ∨
      ∃ failure, s.reread = none ∧
        shell.loaded name now (some ((Value.read s.snapshot.pretty).mapError .badJson)) =
          (.error failure, now) := by
  have hreread := Session.load_pretty h
  rw [← Value.toOption_read] at hreread
  cases hread : Value.read s.snapshot.pretty with
  | error fault =>
      rw [hread] at hreread
      exact .inr ⟨singleFailure "session load" (.service (.badJson fault)), hreread.symm, rfl⟩
  | ok document =>
      rw [hread] at hreread
      change (Session.ofSnapshot document).toOption = s.reread at hreread
      cases ht : Session.ofSnapshot document with
      | error fault =>
          rw [ht] at hreread
          obtain ⟨failure, hloaded⟩ := shell.loaded_of_error name ht now
          exact .inr ⟨failure, hreread.symm, hloaded⟩
      | ok t =>
          rw [ht] at hreread
          obtain ⟨outcome, hloaded⟩ := shell.loaded_of_ok name ht now
          exact .inl ⟨outcome, t, hreread.symm, hloaded⟩

/-- A saved session, its file left alone, is loaded by the line for it whatever the session is by
then: as it was exactly when each of its values is at most 124 levels deep and all their doubles are
read as they are written. Otherwise what comes is the session that the text reads as, and if it
reads as none the line fails and changes nothing. -/
theorem Station.load_restores_iff {σ ω : Type} {station : Station σ} {store : Store}
    (hstore : station.FilesSessions store)
    (hsession : station.shell.registry.get? "session" = some .session)
    {world : (q : HostRequest) → ω → Option q.Answer × ω} {content : ω → String → Option String}
    (hfiles : KeepsFiles world content) {s : Session} (hs : s.Reachable) {name : String}
    (hname : Text.isIdentifier name = true) {services : σ} {after : Standing σ} {outcome : Outcome}
    {w w₁ w₂ : ω}
    (hsave : (station.execute s!"session save {name}" ⟨s, services⟩).run (I := host) world w =
      (some (.ok outcome, after), w₁))
    (hleft : ∀ path, store.file name = .ok path → content w₂ path = content w₁ path)
    (later : Standing σ) :
    ∃ result t w₃,
      (station.execute s!"session load {name}" later).run (I := host) world w₂ =
        (some (result, ⟨t, later.services⟩), w₃) ∧
      ((∃ outcome, result = .ok outcome) ∧ t = s ↔
        ∀ v ∈ s.bindings, v.value.depth ≤ 124 ∧ v.value.DoublesLast) ∧
      (∀ outcome, result = .ok outcome → s.reread = some t) ∧
      (∀ failure, result = .error failure → s.reread = none ∧ t = later.session) := by
  obtain ⟨path, w₀, hfile, hwrite⟩ :=
    Store.write_of_save (save_of_execute hstore hsession hname hsave)
  have hcontent : content w₂ path = some s.snapshot.pretty :=
    (hleft path hfile).trans (hfiles.write path s.snapshot.pretty w₀ w₁ hwrite)
  obtain ⟨w₃, hread⟩ := hfiles.read path s.snapshot.pretty w₂ hcontent
  have hrun := run_execute later (Shell.execute_load hsession hname later.session)
    (hstore.load name later.services) (Store.run_load hfile hread)
  rw [← Session.reread_eq_some_self_iff hs.valid]
  rcases station.shell.loaded_pretty name hs.valid.toOrdered later.session with
    ⟨o, t, ht, hloaded⟩ | ⟨failure, hnone, hloaded⟩
  · rw [hloaded] at hrun
    refine ⟨.ok o, t, w₃, hrun, ?_, ?_, ?_⟩
    · rw [ht]
      exact ⟨fun h => congrArg some h.2, fun h => ⟨⟨o, rfl⟩, Option.some.inj h⟩⟩
    · rintro _ ⟨⟩
      exact ht
    · rintro _ ⟨⟩
  · rw [hloaded] at hrun
    refine ⟨.error failure, later.session, w₃, hrun, ?_, ?_, fun _ _ => ⟨hnone, rfl⟩⟩
    · rw [hnone]
      constructor
      · rintro ⟨⟨_, ⟨⟩⟩, _⟩
      · intro h
        cases h
    · rintro _ ⟨⟩

/-! ## A double that is read as another -/

/-- 2088009638252.2578, which the reader takes for the double below it. -/
def Double.elusive : Double := ⟨4791375291745748000⟩

theorem Double.isFinite_elusive : elusive.isFinite = true := by decide

theorem Value.not_doublesLast_elusive :
    ¬ (num (.double .elusive Double.isFinite_elusive)).DoublesLast := by
  have hchars : prettyChars 0 (num (.double .elusive Double.isFinite_elusive)) =
      ['2', '0', '8', '8', '0', '0', '9', '6', '3', '8', '2', '5', '2', '.', '2', '5', '7', '8'] := by
    decide +kernel
  rw [DoublesLast, read?, pretty, String.toList_ofList, hchars]
  decide +kernel

/-- Files in memory, where nothing but files can be asked for. -/
def inMemory : (q : HostRequest) → (String → Option String) →
    Option q.Answer × (String → Option String)
  | .makeDirectory _, files => (some (Except.ok () : Except FileFault Unit), files)
  | .writeFile path text, files =>
    (some (Except.ok () : Except FileFault Unit), fun p => if p = path then some text else files p)
  | .readFile path, files =>
    (some (match files path with
      | some text => (Except.ok text : Except FileFault String)
      | none => .error .notFound), files)
  | _, files => (none, files)

theorem keepsFiles_inMemory : KeepsFiles inMemory fun files => files where
  write path text files files' h := by
    cases h
    exact if_pos rfl
  read path text files h := by
    refine ⟨files, ?_⟩
    unfold inMemory
    dsimp only
    rw [h]

def Station.plain : Station (List Root) :=
  ⟨⟨.builtin [], ⟨"table", 40⟩⟩, (Local.mk [] ⟨"sessions"⟩ .never).meet, none⟩

/-- A session with that double for its only variable. -/
def Session.elusive : Session :=
  ⟨[("x", ⟨"x", .num (.double .elusive Double.isFinite_elusive), "2024-01-01T00:00:00Z",
    "x = echo 2088009638252.2578"⟩)], [], none⟩

theorem Session.reachable_elusive : elusive.Reachable := by
  refine reachable_iff_valid.2 ⟨⟨List.pairwise_singleton _ _, .nil, ?_, nofun, nofun⟩, ?_⟩
  · simp [elusive]
  · simp [elusive, bindings]

/-- The double does not come back. -/
theorem Station.load_restores_iff_elusive :
    ∃ outcome after files,
      (plain.execute "session save s" ⟨.elusive, []⟩).run (I := host) inMemory (fun _ => none) =
        (some (.ok outcome, after), files) ∧
      ∃ result t files',
        (plain.execute "session load s" ⟨.empty, []⟩).run (I := host) inMemory files =
          (some (result, ⟨t, []⟩), files') ∧
        ¬ ((∃ outcome, result = .ok outcome) ∧ t = .elusive) := by
  have hstore : plain.FilesSessions ⟨"sessions"⟩ := Local.filesSessions _ _ _
  have hsession : plain.shell.registry.get? "session" = some .session := by decide
  have hname : Text.isIdentifier "s" = true := by decide
  have hstored : ((Store.mk "sessions").save "s" Session.elusive.snapshot).run (I := host) inMemory
      (fun _ => none) = (some (Except.ok ()), _) := rfl
  have hsave := run_execute ⟨Session.elusive, []⟩ (Shell.execute_save hsession hname .elusive)
    (hstore.save "s" Session.elusive.snapshot []) hstored
  obtain ⟨result, t, files', hload, hiff, -, -⟩ :=
    load_restores_iff hstore hsession keepsFiles_inMemory Session.reachable_elusive hname hsave
      (fun _ _ => rfl) ⟨.empty, []⟩
  refine ⟨_, _, _, hsave, result, t, files', hload, fun h => ?_⟩
  have hlasts := hiff.1 h
  exact Value.not_doublesLast_elusive (hlasts _ List.mem_cons_self).2

end Sluice
