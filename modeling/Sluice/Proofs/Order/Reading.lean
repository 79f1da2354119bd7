import Sluice.Order.Reading
import Sluice.Proofs.Results

/-!
# What arguments are read as

Each order comes from one command under one subcommand, and all it says it has from the arguments.
`Order.ReadsAs` lists the orders with where each of their parts was found, and
`Order.readsAs_of_read` says that nothing else is ever read.
-/

namespace Sluice

theorem Arguments.text?_of_needText {args : Arguments} {index : Nat} {what text : String}
    (h : args.needText index what = .ok text) : args.text? index = some text := by
  unfold needText at h
  split at h
  · next htext =>
    cases h
    exact htext
  · cases h

namespace Order

/-- An order that a command's arguments can be read as. -/
inductive ReadsAs (args : Arguments) : Command → Order → Prop where
  | connect {source name : String} :
      args.text? 0 = some source → args.flagText? "as" = some name →
        ReadsAs args .connect (.connect source name)
  | connections : ReadsAs args .connections .connections
  | disconnect {name : String} :
      args.text? 0 = some name → ReadsAs args .disconnect (.disconnect name)
  | listVariables : args.subcommand = some "list" → ReadsAs args .var .listVariables
  | getVariable {reference : String} :
      args.subcommand = some "get" → args.text? 0 = some reference →
        ReadsAs args .var (.getVariable reference)
  | removeVariable {name : String} :
      args.subcommand = some "rm" → args.text? 0 = some name →
        ReadsAs args .var (.removeVariable name)
  | clearVariables : args.subcommand = some "clear" → ReadsAs args .var .clearVariables
  | inspect {reference : String} :
      args.text? 0 = some reference → ReadsAs args .inspect (.inspect reference)
  | listSessions : args.subcommand = some "list" → ReadsAs args .session .listSessions
  | saveSession {name : String} :
      args.subcommand = some "save" → args.text? 0 = some name →
        ReadsAs args .session (.saveSession name)
  | loadSession {name : String} :
      args.subcommand = some "load" → args.text? 0 = some name →
        ReadsAs args .session (.loadSession name)
  | deleteSession {name : String} :
      args.subcommand = some "rm" → args.text? 0 = some name →
        ReadsAs args .session (.deleteSession name (args.isSet "yes"))
  | sessionStatus : args.subcommand = some "status" → ReadsAs args .session .sessionStatus
  | listAssets {kind : AssetKind} :
      args.subcommand = some "list" → ReadsAs args (.asset kind) (.listAssets kind)
  | runFlow {reference : String} :
      args.subcommand = some "run" →
        (args.text? 0 <|> args.flagText? "name") = some reference →
          ReadsAs args (.asset .flow) (.runFlow reference (args.parameters ["name"]))
  | runQuery {reference : String} :
      args.subcommand = some "run" →
        (args.text? 0 <|> args.flagText? "name") = some reference →
          ReadsAs args (.asset .query)
            (.runQuery reference (args.flagText? "on") (args.parameters ["name", "on"]))
  | runScript {reference : String} :
      args.subcommand = some "run" →
        (args.text? 0 <|> args.flagText? "name") = some reference →
          ReadsAs args (.asset .script) (.runScript reference (args.parameters ["name"]))
  | invoke {name action : String} :
      args.text? 0 = some name → args.text? 1 = some action →
        ReadsAs args .invoke (.invoke name action args.positional[2]? args.flags)
  | listRoots : args.subcommand = some "list" → ReadsAs args .workspace .listRoots
  | addRoot {path : String} :
      args.subcommand = some "add" → args.text? 0 = some path →
        ReadsAs args .workspace (.addRoot path)
  | removeRoot {reference : String} :
      args.subcommand = some "remove" → args.text? 0 = some reference →
        ReadsAs args .workspace (.removeRoot reference)
  | echo {value : Value} : args.positional.head? = some value → ReadsAs args .echo (.echo value)
  | format : ReadsAs args .format .format
  | help : ReadsAs args .help .help

variable {args : Arguments} {order : Order}

theorem eq_of_alone {order' : Order} (h : alone order args = .ok order') : order' = order := by
  obtain ⟨_, -, h⟩ := bind_eq_ok h
  cases h
  rfl

theorem eq_of_withText {what : String} {make : String → Order}
    (h : withText what make args = .ok order) :
    ∃ text, args.text? 0 = some text ∧ order = make text := by
  obtain ⟨_, -, h⟩ := bind_eq_ok h
  obtain ⟨text, htext, h⟩ := bind_eq_ok h
  cases h
  exact ⟨text, Arguments.text?_of_needText htext, rfl⟩

theorem text?_of_sessionName {name : String} (h : sessionName args = .ok name) :
    args.text? 0 = some name := by
  obtain ⟨text, htext, h⟩ := bind_eq_ok h
  split at h
  · cases h
    exact Arguments.text?_of_needText htext
  · cases h

theorem readsAs_of_readConnect (h : readConnect args = .ok order) :
    ReadsAs args .connect order := by
  obtain ⟨_, -, h⟩ := bind_eq_ok h
  obtain ⟨source, hsource, h⟩ := bind_eq_ok h
  split at h
  · cases h
  · next name hname =>
    split at h
    · cases h
      exact .connect (Arguments.text?_of_needText hsource) hname
    · cases h

theorem readsAs_of_readVar (h : readVar args = .ok order) : ReadsAs args .var order := by
  unfold readVar at h
  split at h
  · next hsub =>
    obtain rfl := eq_of_alone h
    exact .listVariables hsub
  · next hsub =>
    obtain ⟨reference, hreference, rfl⟩ := eq_of_withText h
    exact .getVariable hsub hreference
  · next hsub =>
    obtain ⟨name, hname, rfl⟩ := eq_of_withText h
    exact .removeVariable hsub hname
  · next hsub =>
    obtain rfl := eq_of_alone h
    exact .clearVariables hsub
  · cases h

theorem readsAs_of_readSession (h : readSession args = .ok order) :
    ReadsAs args .session order := by
  unfold readSession at h
  split at h
  · next hsub =>
    obtain rfl := eq_of_alone h
    exact .listSessions hsub
  · next hsub =>
    obtain ⟨_, -, h⟩ := bind_eq_ok h
    obtain ⟨name, hname, h⟩ := bind_eq_ok h
    cases h
    exact .saveSession hsub (text?_of_sessionName hname)
  · next hsub =>
    obtain ⟨_, -, h⟩ := bind_eq_ok h
    obtain ⟨name, hname, h⟩ := bind_eq_ok h
    cases h
    exact .loadSession hsub (text?_of_sessionName hname)
  · next hsub =>
    obtain ⟨_, -, h⟩ := bind_eq_ok h
    obtain ⟨name, hname, h⟩ := bind_eq_ok h
    cases h
    exact .deleteSession hsub (text?_of_sessionName hname)
  · next hsub =>
    obtain rfl := eq_of_alone h
    exact .sessionStatus hsub
  · cases h

theorem readsAs_of_readAsset {kind : AssetKind} (h : readAsset kind args = .ok order) :
    ReadsAs args (.asset kind) order := by
  unfold readAsset at h
  split at h
  · next hsub =>
    obtain rfl := eq_of_alone h
    exact .listAssets hsub
  · next hsub =>
    obtain ⟨_, -, h⟩ := bind_eq_ok h
    split at h
    · cases h
    · next reference hreference =>
      cases kind with
      | flow =>
          cases h
          exact .runFlow hsub hreference
      | query =>
          cases h
          exact .runQuery hsub hreference
      | script =>
          cases h
          exact .runScript hsub hreference
  · cases h

theorem readsAs_of_readInvoke (h : readInvoke args = .ok order) : ReadsAs args .invoke order := by
  obtain ⟨_, -, h⟩ := bind_eq_ok h
  obtain ⟨name, hname, h⟩ := bind_eq_ok h
  obtain ⟨action, haction, h⟩ := bind_eq_ok h
  cases h
  exact .invoke (Arguments.text?_of_needText hname) (Arguments.text?_of_needText haction)

theorem readsAs_of_readWorkspace (h : readWorkspace args = .ok order) :
    ReadsAs args .workspace order := by
  unfold readWorkspace at h
  split at h
  · next hsub =>
    obtain rfl := eq_of_alone h
    exact .listRoots hsub
  · next hsub =>
    obtain ⟨path, hpath, rfl⟩ := eq_of_withText h
    exact .addRoot hsub hpath
  · next hsub =>
    obtain ⟨reference, hreference, rfl⟩ := eq_of_withText h
    exact .removeRoot hsub hreference
  · cases h

theorem readsAs_of_readEcho (h : readEcho args = .ok order) : ReadsAs args .echo order := by
  obtain ⟨_, -, h⟩ := bind_eq_ok h
  split at h
  · next hpositional =>
    cases h
    exact .echo (by rw [hpositional, List.head?_cons])
  · cases h

/-- Whatever is read from the arguments of a command is an order of that command. -/
theorem readsAs_of_read {command : Command} (h : read command args = .ok order) :
    ReadsAs args command order := by
  cases command with
  | connect => exact readsAs_of_readConnect h
  | connections =>
      obtain rfl := eq_of_alone h
      exact .connections
  | disconnect =>
      obtain ⟨name, hname, rfl⟩ := eq_of_withText h
      exact .disconnect hname
  | var => exact readsAs_of_readVar h
  | inspect =>
      obtain ⟨reference, hreference, rfl⟩ := eq_of_withText h
      exact .inspect hreference
  | session => exact readsAs_of_readSession h
  | asset kind => exact readsAs_of_readAsset h
  | invoke => exact readsAs_of_readInvoke h
  | workspace => exact readsAs_of_readWorkspace h
  | echo => exact readsAs_of_readEcho h
  | format =>
      obtain rfl := eq_of_alone h
      exact .format
  | help =>
      obtain rfl := eq_of_alone h
      exact .help

end Order

end Sluice
