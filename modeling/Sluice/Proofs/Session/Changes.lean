import Sluice.Proofs.Session.Valid

/-!
# Sessions after any changes

A session that starts empty and goes through changes, any number of them and in any order, keeps its
index: each variable and each connection is kept under its own name, a name leads to the variable of
that name and to no other, an alias to the connection of that alias, names and aliases ascend, and the active alias is that of a connection
(`Session.indexed_after`). Documents may be anything; one that is refused changes nothing, and
neither does any other change that is refused.

* `Session.Ordered.apply` : what one change keeps;
* `Session.ordered_after` : hence what changes one after the other keep;
* `Session.Ordered.indexed` : what order means for what is found.
-/

namespace Sluice

namespace Session

/-! ## Changes -/

inductive Change where
  | setVariable (now name : String) (value : Value) (source : String)
  | removeVariable (name : String)
  | clearVariables
  | addConnection (now name source : String)
  | removeConnection (name : String)
  | restore (document : Value)

namespace Change

def apply (s : Session) : Change → Session
  | setVariable now name value source => s.setVariable now name value source
  | removeVariable name => s.removeVariable name
  | clearVariables => s.clearVariables
  | addConnection now name source => s.addConnection now name source
  | removeConnection name => s.removeConnection name
  | restore document => (s.restore document).2

/-- The change is about an entry that is not there, or its document is no snapshot. -/
def Refused (s : Session) : Change → Prop
  | removeVariable name => s.entry? name = none
  | removeConnection name => s.connection? name = none
  | restore document => ∃ fault, (s.restore document).1 = .error fault
  | _ => False

end Change

/-- The session after changes one after the other, from the empty one on. A session read from a
document is one that a first change restores. -/
def after (changes : List Change) : Session :=
  changes.foldl Change.apply empty

/-! ## What a refused change does -/

theorem restore_of_error {s : Session} {document : Value} {fault : SnapshotFault}
    (h : (s.restore document).1 = .error fault) :
    ofSnapshot document = .error fault ∧ (s.restore document).2 = s := by
  unfold restore at h ⊢
  cases hread : ofSnapshot document with
  | error fault' =>
      rw [hread] at h
      cases h
      exact ⟨rfl, rfl⟩
  | ok t =>
      rw [hread] at h
      cases h

theorem removeVariable_of_entry?_eq_none {s : Session} {name : String}
    (h : s.entry? name = none) : s.removeVariable name = s := by
  unfold removeVariable
  rw [Keyed.erase_of_find?_eq_none (Option.map_eq_none_iff.1 h)]

theorem removeConnection_of_connection?_eq_none {s : Session} {name : String}
    (h : s.connection? name = none) : s.removeConnection name = s := by
  unfold removeConnection
  rw [h]

theorem Change.apply_of_refused {s : Session} {change : Change} (h : change.Refused s) :
    change.apply s = s := by
  cases change with
  | removeVariable name => exact removeVariable_of_entry?_eq_none h
  | removeConnection name => exact removeConnection_of_connection?_eq_none h
  | restore document =>
      obtain ⟨fault, hfault⟩ := h
      exact (restore_of_error hfault).2
  | _ => cases h

/-! ## What changes keep -/

theorem Ordered.restore {s : Session} (h : s.Ordered) (document : Value) :
    (s.restore document).2.Ordered := by
  unfold Session.restore
  cases hread : ofSnapshot document with
  | error fault => exact h
  | ok t => exact ordered_ofSnapshot hread

theorem Ordered.apply {s : Session} (h : s.Ordered) (change : Change) :
    (change.apply s).Ordered := by
  cases change with
  | setVariable now name value source => exact h.setVariable now name value source
  | removeVariable name => exact h.removeVariable name
  | clearVariables => exact h.clearVariables
  | addConnection now name source => exact h.addConnection now name source
  | removeConnection name => exact h.removeConnection name
  | restore document => exact h.restore document

theorem ordered_after (changes : List Change) : (after changes).Ordered := by
  -- the session that the changes start from is any one in order
  suffices hrun : ∀ s : Session, s.Ordered → (changes.foldl Change.apply s).Ordered from
    hrun empty ordered_empty
  induction changes with
  | nil => exact fun s hs => hs
  | cons change changes ih =>
      intro s hs
      rw [List.foldl_cons]
      exact ih _ (hs.apply change)

/-! ## What is found -/

/-- Everything is kept under its own name, every entry is found under its name and nothing else under
any name, names and aliases ascend, and the active alias is that of a connection. -/
structure Indexed (s : Session) : Prop where
  named : ∀ e ∈ s.byName, e.1 = e.2.name
  aliased : ∀ e ∈ s.byAlias, e.1 = e.2.name
  entry : ∀ name v, s.entry? name = some v ↔ v ∈ s.bindings ∧ v.name = name
  connection : ∀ name c, s.connection? name = some c ↔ c ∈ s.connections ∧ c.name = name
  names : (s.bindings.map Variable.name).Pairwise (· < ·)
  aliases : (s.connections.map Connection.name).Pairwise (· < ·)
  active : ∀ a ∈ s.active, ∃ c ∈ s.connections, c.name = a

theorem Ordered.indexed {s : Session} (h : s.Ordered) : s.Indexed where
  named := h.named
  aliased := h.aliased
  entry name v := Keyed.value?_eq_some_iff h.bindings h.named
  connection name c := Keyed.value?_eq_some_iff h.connections h.aliased
  names := Keyed.pairwise_names h.bindings h.named
  aliases := Keyed.pairwise_names h.connections h.aliased
  active a ha := by
    obtain ⟨c, hc⟩ := Option.isSome_iff_exists.1 (h.active a ha)
    exact ⟨c, (Keyed.value?_eq_some_iff h.connections h.aliased).1 hc⟩

/-- After any changes, with whatever documents among them, a session is indexed, and a change that is
then refused leaves it as it is. -/
theorem indexed_after (changes : List Change) :
    (after changes).Indexed ∧
      ∀ change : Change, change.Refused (after changes) → change.apply (after changes) = after changes :=
  ⟨(ordered_after changes).indexed, fun _ => Change.apply_of_refused⟩

end Session

end Sluice
