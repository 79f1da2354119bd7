import Sluice.Proofs.Session.Changes
import Sluice.Proofs.Session.Reload

/-!
# Sessions and their documents

The sessions that changes can lead to are exactly those that their own documents bring back as they
are. A document that is read as a session need not be that session's own: fields may be missing or
given by place, entries may stand in any order and under one name more than once, and the active
alias may be that of no connection. The document written for the session that it stands for is
canonical: it brings the same session back, and is written again for it
(`Session.snapshot_canonical`).

* `Keyed.find?_ofList` : of the entries with one name the last is found;
* `Session.ofSnapshot_eq_ok_iff` : what a document that is read stands for;
* `Session.reachable_iff` : the sessions that changes lead to.
-/

namespace Sluice

/-! ## Entries put in order -/

/-- Of the entries with a name, the one put into place last is found under it. -/
theorem Keyed.find?_foldl_insert {α : Type} (key : α → String) (name : String) (xs done : List α) :
    find? key name (xs.foldl (fun sorted x => insert key x sorted) done) =
      ((xs.filter fun x => key x == name).getLast?).or (find? key name done) := by
  induction xs generalizing done with
  | nil => simp
  | cons x xs ih =>
      rw [List.foldl_cons, ih, List.filter_cons]
      split
      · next hname =>
        obtain rfl : key x = name := by simpa using hname
        rw [find?_insert_self, List.getLast?_cons]
        cases (xs.filter fun y => key y == key x).getLast? <;> rfl
      · next hname =>
        rw [find?_insert_of_ne fun heq => hname (by simp [heq])]

/-- Among entries put into place one after another, the last one with a name is found under it. -/
theorem Keyed.find?_ofList {α : Type} (key : α → String) (name : String) (xs : List α) :
    find? key name (ofList key xs) = (xs.filter fun x => key x == name).getLast? := by
  simpa [ofList, find?] using find?_foldl_insert key name xs []

/-- So it is with values put into place under their own names. -/
theorem Keyed.value?_ofList_named {α : Type} (key : α → String) (name : String) (xs : List α) :
    value? name (ofList Prod.fst (named key xs)) =
      (xs.filter fun x => key x == name).getLast? := by
  rw [value?, find?_ofList, named, List.filter_map, List.getLast?_map, Option.map_map]
  exact Option.map_id_apply

/-- A list in order is determined by what is found in it. -/
theorem Keyed.eq_of_value?_eq {α : Type} {xs ys : List (String × α)} (hx : Sorted Prod.fst xs)
    (hy : Sorted Prod.fst ys) (h : ∀ name, value? name xs = value? name ys) : xs = ys := by
  refine hx.unique hy fun z => ⟨fun hz => ?_, fun hz => ?_⟩
  · exact value?_eq_some ((h _).symm.trans (value?_of_mem hx hz))
  · exact value?_eq_some ((h _).trans (value?_of_mem hy hz))

namespace Session

/-! ## What a document stands for -/

/-- A session in order is what the fields of a document stand for: of the entries with one name the
last counts, and the active alias only if there is a connection of that alias. -/
structure StandsFor (d : Snapshot) (s : Session) : Prop extends Ordered s where
  version : d.version = snapshotVersion
  entry : ∀ name, s.entry? name = (d.bindings.filter (·.name == name)).getLast?
  connection : ∀ name, s.connection? name = (d.connections.filter (·.name == name)).getLast?
  stated : ∀ a, s.active = some a ↔ d.active = some a ∧ ∃ c ∈ d.connections, c.name = a

/-- Fields stand for one session at most. -/
theorem StandsFor.unique {d : Snapshot} {s t : Session} (hs : StandsFor d s) (ht : StandsFor d t) :
    s = t := by
  have hvariables : s.byName = t.byName :=
    Keyed.eq_of_value?_eq hs.bindings ht.bindings fun name =>
      (hs.entry name).trans (ht.entry name).symm
  have hconnections : s.byAlias = t.byAlias :=
    Keyed.eq_of_value?_eq hs.connections ht.connections fun name =>
      (hs.connection name).trans (ht.connection name).symm
  have hactive : s.active = t.active :=
    Option.ext fun a => (hs.stated a).trans (ht.stated a).symm
  cases s
  cases t
  simp_all

theorem standsFor_fields {d : Snapshot} (hversion : d.version = snapshotVersion) :
    StandsFor d ⟨Keyed.ofList Prod.fst (Keyed.named Variable.name d.bindings),
      Keyed.ofList Prod.fst (Keyed.named Connection.name d.connections),
      d.active.filter fun a => (Keyed.value? a
        (Keyed.ofList Prod.fst (Keyed.named Connection.name d.connections))).isSome⟩ where
  bindings := Keyed.sorted_ofList ..
  connections := Keyed.sorted_ofList ..
  named := Keyed.own_ofList_named _
  aliased := Keyed.own_ofList_named _
  active a ha := (Option.filter_eq_some_iff.1 ha).2
  version := hversion
  entry name := Keyed.value?_ofList_named ..
  connection name := Keyed.value?_ofList_named ..
  stated a := by
    have hisSome : (Keyed.value? a (Keyed.ofList Prod.fst
        (Keyed.named Connection.name d.connections))).isSome = true ↔
          ∃ c ∈ d.connections, c.name = a := by
      rw [Keyed.value?_ofList_named, List.getLast?_isSome]
      simp
    exact Option.filter_eq_some_iff.trans (and_congr_right fun _ => hisSome)

/-- A document is read as a session exactly if its fields can be read and stand for that session. -/
theorem ofSnapshot_eq_ok_iff {document : Value} {s : Session} :
    ofSnapshot document = .ok s ↔ ∃ d, Snapshot.ofRecord document = .ok d ∧ StandsFor d s := by
  unfold ofSnapshot
  constructor
  · intro h
    split at h
    · cases h
    · next d hd =>
      split at h
      · cases h
      · next hversion =>
        cases h
        exact ⟨d, hd, standsFor_fields (Decidable.not_not.1 hversion)⟩
  · rintro ⟨d, hd, hs⟩
    rw [hd]
    dsimp only
    rw [if_neg (not_not_intro hs.version), (standsFor_fields hs.version).unique hs]

/-! ## Canonical documents -/

/-- The sessions that changes lead to are those that their own documents bring back. -/
theorem reachable_iff (s : Session) :
    (∃ changes, after changes = s) ↔ ofSnapshot s.snapshot = .ok s := by
  constructor
  · rintro ⟨changes, rfl⟩
    exact ofSnapshot_snapshot (ordered_after changes)
  · intro h
    refine ⟨[.restore s.snapshot], ?_⟩
    change (restore empty s.snapshot).2 = s
    rw [restore, h]

/-- A session that changes lead to is brought back by its document as it is, and only such sessions
are. A document that is read stands for a session whose own document brings back the same session,
for which it is written again. -/
theorem snapshot_canonical :
    (∀ s : Session, (∃ changes, after changes = s) ↔ ofSnapshot s.snapshot = .ok s) ∧
    ∀ (document : Value) (s : Session),
      (ofSnapshot document = .ok s ↔ ∃ d, Snapshot.ofRecord document = .ok d ∧ StandsFor d s) ∧
      (ofSnapshot document = .ok s → ofSnapshot s.snapshot = .ok s ∧
        ∀ t, ofSnapshot s.snapshot = .ok t → t.snapshot = s.snapshot) := by
  refine ⟨reachable_iff, fun document s => ⟨ofSnapshot_eq_ok_iff, fun h => ?_⟩⟩
  have hback : ofSnapshot s.snapshot = .ok s := ofSnapshot_snapshot (ordered_ofSnapshot h)
  refine ⟨hback, fun t ht => ?_⟩
  rw [hback] at ht
  cases ht
  rfl

/-- A document by place, with its variables out of order, one of them twice, and an active alias
without a connection. -/
def disordered : Value :=
  .seq [.ofNat 1,
    .seq [Variable.record ⟨"y", .null, "", ""⟩, Variable.record ⟨"x", .null, "", ""⟩,
      Variable.record ⟨"x", .bool true, "", "x = true"⟩],
    .seq [], .str "gone"]

def reordered : Session :=
  ⟨[("x", ⟨"x", .bool true, "", "x = true"⟩), ("y", ⟨"y", .null, "", ""⟩)], [], none⟩

theorem snapshot_canonical_disordered :
    ofSnapshot disordered = .ok reordered ∧ ofSnapshot reordered.snapshot = .ok reordered := by
  have hread : ofSnapshot disordered = .ok reordered := eq_ok_of_toOption (by decide +kernel)
  exact ⟨hread, ((snapshot_canonical.2 _ _).2 hread).1⟩

end Session

end Sluice
