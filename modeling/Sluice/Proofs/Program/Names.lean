import Sluice.Proofs.Program.Building
import Sluice.Proofs.Program.Directives
import Sluice.Proofs.Token.Words

/-!
# Names of commands

Whether a call has a command is a matter of its name and the registry, and it is decided for every
call of a tree, however deep in groups, before there is a program.

* `Call.Known` : the calls that have a command;
* `Line.names_of_build` : a tree that builds has no other calls, and its commands are registered;
* `Line.exists_unknown_of_build` : a tree that fails for an unknown command has such a call.
-/

namespace Sluice

variable {registry : Registry}

/-! ## Names with a point -/

theorem dotted?_isSome_iff (written : String) :
    (dotted? written).isSome = true ↔
      ∃ name action, written.toList = name.toList ++ '.' :: action.toList ∧
        Text.isIdentifier name = true ∧ action ≠ "" := by
  unfold dotted? Text.splitOnce?
  constructor
  · intro h
    cases hcut : Text.cut? ['.'] written.toList with
    | none => simp [hcut] at h
    | some parts =>
        obtain ⟨before, after⟩ := parts
        have hsplit := Text.cut?_eq_append hcut
        rw [hcut, Option.map_some] at h
        dsimp only at h
        split at h
        · next hparts =>
          rw [Bool.and_eq_true, Bool.not_eq_true'] at hparts
          refine ⟨String.ofList before, String.ofList after, ?_, hparts.1, ?_⟩
          · rw [hsplit, String.toList_ofList, String.toList_ofList, List.append_assoc]
            rfl
          · rintro hempty
            rw [hempty] at hparts
            exact absurd hparts.2 (by decide)
        · cases h
  · rintro ⟨name, action, hsplit, hname, haction⟩
    have hpoint : '.' ∉ name.toList := by
      intro hmem
      have hchar := Token.isNameChar_of_isIdentifierChars hname '.' hmem
      cases hchar
    rw [hsplit, Text.cut?_append hpoint, Option.map_some]
    dsimp only
    rw [String.ofList_toList, String.ofList_toList, hname]
    simp [haction]

/-! ## Known calls -/

/-- The call has a command: its name is registered; or it is an alias and an action, and `invoke` is
registered; or it is an identifier without arguments, and `var` is registered. Directives are no
arguments. -/
def Call.Known (registry : Registry) (c : Call) : Prop :=
  registry.contains c.name = true ∨
    (registry.contains "invoke" = true ∧
      ∃ name action, c.name.toList = name.toList ++ '.' :: action.toList ∧
        Text.isIdentifier name = true ∧ action ≠ "") ∨
    (registry.contains "var" = true ∧ Text.isIdentifier c.name = true ∧ c.positional = [] ∧
      ∀ f ∈ c.flags, f.isDirective = true)

theorem Fields.put_ne_nil (fields : Fields) (key : String) (value : Value) :
    fields.put key value ≠ [] := by
  cases fields with
  | nil => exact List.cons_ne_nil _ _
  | cons f fs =>
      rw [put]
      split
      · exact List.cons_ne_nil _ _
      · exact List.cons_ne_nil _ _

/-- No flag is left over if all of them are directives. -/
theorem splitFlags_eq_nil_iff {fs : List FlagNode} {d : Directives} {fields : Fields} :
    (splitFlags fs d fields).2 = [] ↔ fields = [] ∧ ∀ f ∈ fs, f.isDirective = true := by
  induction fs generalizing d fields with
  | nil => simp [splitFlags]
  | cons f fs ih =>
      rw [splitFlags, List.forall_mem_cons]
      cases h : f.isDirective with
      | true =>
          obtain ⟨e, he⟩ := FlagNode.direct?_of_isDirective h d
          rw [he]
          dsimp only
          rw [ih]
          simp
      | false =>
          rw [FlagNode.direct?_eq_none h]
          dsimp only
          rw [ih]
          simp [Fields.put_ne_nil]

/-- A name that has a reading has a command, and any other name is refused as unknown. -/
theorem Reading.ofName_known (registry : Registry) (c : Call) (d : Directives) :
    let alone := c.positional.isEmpty && (splitFlags c.flags d []).2.isEmpty
    (c.Known registry ∧ ∃ reading, Reading.ofName registry c.name alone = .ok reading ∧
        registry.contains reading.command = true) ∨
      (¬ c.Known registry ∧ Reading.ofName registry c.name alone = .error (.unknownCommand c.name)) := by
  intro alone
  have halone : alone = true ↔ c.positional = [] ∧ ∀ f ∈ c.flags, f.isDirective = true := by
    rw [Bool.and_eq_true, List.isEmpty_iff, List.isEmpty_iff, splitFlags_eq_nil_iff]
    simp
  have hdotted := dotted?_isSome_iff c.name
  unfold Call.Known ofName
  rw [← hdotted]
  by_cases hname : registry.contains c.name = true
  · rw [if_pos hname]
    exact .inl ⟨.inl hname, _, rfl, hname⟩
  rw [if_neg hname]
  by_cases hinvoke : registry.contains "invoke" = true ∧ (dotted? c.name).isSome = true
  · obtain ⟨parts, hparts⟩ := Option.isSome_iff_exists.1 hinvoke.2
    rw [if_pos hinvoke.1, hparts]
    exact .inl ⟨.inr (.inl ⟨hinvoke.1, rfl⟩), _, rfl, hinvoke.1⟩
  have hnone : (if registry.contains "invoke" then dotted? c.name else none) = none := by
    split
    · next h => simpa using fun hsome => hinvoke ⟨h, hsome⟩
    · rfl
  rw [hnone]
  dsimp only
  by_cases hvar : (Text.isIdentifier c.name && alone && registry.contains "var") = true
  · rw [if_pos hvar]
    rw [Bool.and_eq_true, Bool.and_eq_true, halone] at hvar
    obtain ⟨⟨hidentifier, halone⟩, hvar⟩ := hvar
    exact .inl ⟨.inr (.inr ⟨hvar, hidentifier, halone⟩), _, rfl, hvar⟩
  · rw [if_neg hvar]
    rw [Bool.and_eq_true, Bool.and_eq_true, halone] at hvar
    refine .inr ⟨?_, rfl⟩
    rintro (h | h | ⟨h, hidentifier, halone⟩)
    · exact hname h
    · exact hinvoke h
    · exact hvar ⟨⟨hidentifier, halone⟩, h⟩

/-! ## Trees that build -/

theorem known_of_ofCall {piped : Bool} {c : Call} {i : Intent} {d : Directives}
    (h : Intent.ofCall registry piped c = .ok (i, d)) :
    c.Known registry ∧ registry.contains i.name = true := by
  unfold Intent.ofCall at h
  dsimp only at h
  rcases Reading.ofName_known registry c .none with ⟨hknown, reading, hreading, hcommand⟩ | ⟨-, hunknown⟩
  · rw [hreading] at h
    cases h
    exact ⟨hknown, hcommand⟩
  · rw [hunknown] at h
    cases h

theorem known_of_becomes {cs : List Call} {is : List Intent}
    (h : List.Forall₂ (Call.Becomes registry) cs is) :
    (∀ c ∈ cs, c.Known registry) ∧ ∀ i ∈ is, registry.contains i.name = true := by
  induction h with
  | nil => exact ⟨fun _ h => absurd h List.not_mem_nil, fun _ h => absurd h List.not_mem_nil⟩
  | cons hbecomes _ ih =>
      obtain ⟨-, d, hof⟩ := hbecomes
      obtain ⟨hknown, hregistered⟩ := known_of_ofCall hof
      exact ⟨List.forall_mem_cons.2 ⟨hknown, ih.1⟩, List.forall_mem_cons.2 ⟨hregistered, ih.2⟩⟩

/-- What builds has only known calls, and every command is registered under its name. -/
theorem Line.names_of_build {tree : Line} {program : Program}
    (h : tree.build registry = .ok program) :
    (∀ c ∈ tree.chain.calls, c.Known registry) ∧
      ∀ i ∈ program.pipeline.commands, registry.contains i.name = true := by
  obtain ⟨p, hp, rfl⟩ := map_eq_ok h
  exact known_of_becomes (Chain.commands_of_build hp).1

/-! ## Trees that fail for a name -/

theorem exists_unknown_of_ofCall {piped : Bool} {c : Call} {name : String}
    (h : Intent.ofCall registry piped c = .error (.unknownCommand name)) :
    c.name = name ∧ ¬ c.Known registry := by
  unfold Intent.ofCall at h
  dsimp only at h
  rcases Reading.ofName_known registry c .none with ⟨-, reading, hreading, -⟩ | ⟨hnot, hunknown⟩
  · rw [hreading] at h
    cases h
  · rw [hunknown] at h
    cases h
    exact ⟨rfl, hnot⟩

theorem groupDirectives_ne_unknown (fs : List FlagNode) (d : Directives) (name : String) :
    groupDirectives fs d ≠ .error (.unknownCommand name) := by
  induction fs generalizing d with
  | nil =>
      intro h
      cases h
  | cons f fs ih =>
      rw [groupDirectives]
      cases f.direct? d with
      | none =>
          intro h
          cases h
      | some e => exact ih e

mutual

theorem Stage.exists_unknown_of_build {name : String} : ∀ {stage : Stage} {piped : Bool},
    stage.build registry piped = .error (.unknownCommand name) →
      ∃ c ∈ stage.calls, c.name = name ∧ ¬ c.Known registry
  | .call c, _, h => by
    exact ⟨c, List.mem_singleton_self c, exists_unknown_of_ofCall (map_eq_error h)⟩
  | .group inner flags _, piped, h => by
    rw [Stage.build] at h
    rw [Stage.calls]
    cases hinner : inner.build registry piped with
    | error e =>
        rw [hinner] at h
        cases h
        exact Chain.exists_unknown_of_build hinner
    | ok p =>
        rw [hinner] at h
        exact absurd (map_eq_error h) (groupDirectives_ne_unknown flags p.directives name)

theorem Chain.exists_unknown_of_build {name : String} : ∀ {chain : Chain} {piped : Bool},
    chain.build registry piped = .error (.unknownCommand name) →
      ∃ c ∈ chain.calls, c.name = name ∧ ¬ c.Known registry
  | .stage _, _, h => Stage.exists_unknown_of_build (map_eq_error h)
  | .pipe left right, piped, h => by
    rw [Chain.build] at h
    rw [Chain.calls]
    cases hleft : left.build registry piped with
    | error e =>
        rw [hleft] at h
        cases h
        obtain ⟨c, hc, hunknown⟩ := Chain.exists_unknown_of_build hleft
        exact ⟨c, List.mem_append_left _ hc, hunknown⟩
    | ok p =>
        rw [hleft] at h
        obtain ⟨c, hc, hunknown⟩ := Stage.exists_unknown_of_build (map_eq_error h)
        exact ⟨c, List.mem_append_right _ hc, hunknown⟩

end

/-- A tree fails for an unknown command only if a call of that name has none. -/
theorem Line.exists_unknown_of_build {tree : Line} {name : String}
    (h : tree.build registry = .error (.unknownCommand name)) :
    ∃ c ∈ tree.chain.calls, c.name = name ∧ ¬ c.Known registry :=
  Chain.exists_unknown_of_build (map_eq_error h)

end Sluice
