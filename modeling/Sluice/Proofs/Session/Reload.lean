import Sluice.Proofs.Session.Valid
import Sluice.Proofs.Value.Reread

/-!
# Sessions read back from their documents

The text of a session's document reads as a session with the same names, times, sources and
connections, in which every value is replaced by what its own text reads as with room for 124 levels:
the document itself takes three (`Session.load_pretty`). A session comes back as it is exactly when
its values do (`Session.reread_eq_some_self_iff`).
-/

namespace Sluice

/-! ## Documents and records -/

theorem Variable.ofRecord_record (v : Variable) : Variable.ofRecord v.record = .ok v := rfl

theorem Connection.ofRecord_record (c : Connection) : Connection.ofRecord c.record = .ok c := rfl

theorem Value.mapM_map {ε α : Type} {record : α → Value} {ofRecord : Value → Except ε α}
    (h : ∀ a, ofRecord (record a) = .ok a) (xs : List α) :
    (xs.map record).mapM ofRecord = .ok xs := by
  induction xs with
  | nil => rfl
  | cons x xs ih =>
      rw [List.map_cons, List.mapM_cons, h, ih]
      rfl

namespace Session

/-- A session in order is what its document stands for. -/
theorem ofSnapshot_snapshot {s : Session} (h : s.Ordered) : ofSnapshot s.snapshot = .ok s := by
  have hrecord : Snapshot.ofRecord s.snapshot =
      .ok ⟨snapshotVersion, s.bindings, s.connections, s.active⟩ := by
    have hvs := Value.mapM_map Variable.ofRecord_record s.bindings
    have hcs := Value.mapM_map Connection.ofRecord_record s.connections
    have hactive : (Value.ofText? s.active).asText? = .ok s.active := by
      cases s.active <;> rfl
    have hversion : (Value.ofNat snapshotVersion).asCount = .ok snapshotVersion := rfl
    simp [Snapshot.ofRecord, snapshot, Value.readRecord, Value.readFields, Value.asItems, hversion,
      hvs, hcs, hactive, Except.map, Except.bind, bind, Fields.keys]
  have hactive : s.active.filter (fun a => (Keyed.value? a s.byAlias).isSome) = s.active := by
    cases ha : s.active with
    | none => rfl
    | some a => exact Option.filter_some_pos (h.active a ha)
  rw [ofSnapshot, hrecord]
  dsimp only
  rw [if_neg (fun hne => hne rfl), bindings, Keyed.named_map_snd h.named, connections,
    Keyed.named_map_snd h.aliased, Keyed.ofList_of_sorted h.bindings,
    Keyed.ofList_of_sorted h.connections, hactive]

end Session

/-! ## What is read back -/

/-- The variable that a variable's record reads as in a saved session. -/
def Variable.reread (v : Variable) : Option Variable :=
  (v.value.reread 124).map fun value => { v with value := value }

def Session.withVariables (s : Session) (vs : List Variable) : Session :=
  { s with byName := Keyed.named Variable.name vs }

@[simp] theorem Session.bindings_withVariables (s : Session) (vs : List Variable) :
    (s.withVariables vs).bindings = vs :=
  Keyed.map_snd_named vs

@[simp] theorem Session.connections_withVariables (s : Session) (vs : List Variable) :
    (s.withVariables vs).connections = s.connections := rfl

@[simp] theorem Session.active_withVariables (s : Session) (vs : List Variable) :
    (s.withVariables vs).active = s.active := rfl

/-- The session that a saved session's text reads as. -/
def Session.reread (s : Session) : Option Session :=
  (s.bindings.mapM Variable.reread).map s.withVariables

namespace Value

theorem reread_map {room : Nat} {fs fs' : Fields} (hfs : rereadFields room fs = some fs')
    (h : (Fields.keys fs).Nodup) : reread (room + 1) (map fs) = some (map fs') := by
  rw [reread, if_neg (Nat.succ_ne_zero room), Nat.add_sub_cancel, hfs, Option.map_some,
    ofPairs_of_nodup (keys_of_rereadFields hfs ▸ h)]

theorem reread_record (v : Variable) : reread 125 v.record = v.reread.map Variable.record := by
  rw [Variable.reread, Option.map_map]
  cases hw : reread 124 v.value with
  | none => simp [Variable.record, reread, rereadFields, hw]
  | some w =>
      refine reread_map ?_ (by simp [Fields.keys])
      simp [rereadFields, reread, hw]

theorem reread_connection (c : Connection) : reread 125 c.record = some c.record :=
  reread_map (by simp [rereadFields, reread]) (by simp [Fields.keys])

theorem rereadItems_records (vs : List Variable) :
    rereadItems 125 (vs.map Variable.record) =
      (vs.mapM Variable.reread).map fun ws => ws.map Variable.record := by
  induction vs with
  | nil => rfl
  | cons v vs ih =>
      rw [List.map_cons, rereadItems, reread_record, ih, List.mapM_cons]
      cases v.reread with
      | none => rfl
      | some w => cases vs.mapM Variable.reread <;> rfl

theorem rereadItems_connections (cs : List Connection) :
    rereadItems 125 (cs.map Connection.record) = some (cs.map Connection.record) := by
  induction cs with
  | nil => rfl
  | cons c cs ih =>
      rw [List.map_cons, rereadItems, reread_connection, ih]
      rfl

theorem reread_snapshot (s : Session) : reread 127 s.snapshot = s.reread.map Session.snapshot := by
  have hversion : reread 126 (.ofNat snapshotVersion) = some (.ofNat snapshotVersion) := by
    rw [Value.ofNat, Number.ofNat, reread, rereadNumber?_int]
    rfl
  have hactive : reread 126 (.ofText? s.active) = some (.ofText? s.active) := by
    cases s.active <;> rfl
  have hvs : reread 126 (seq (s.bindings.map Variable.record)) =
      (s.bindings.mapM Variable.reread).map fun ws => seq (ws.map Variable.record) := by
    rw [reread, if_neg (by decide), rereadItems_records, Option.map_map]
    rfl
  have hcs : reread 126 (seq (s.connections.map Connection.record)) =
      some (seq (s.connections.map Connection.record)) := by
    rw [reread, if_neg (by decide), rereadItems_connections]
    rfl
  rw [Session.reread, Option.map_map]
  cases hb : s.bindings.mapM Variable.reread with
  | none =>
      have hnone : rereadItems 125 (s.bindings.map Variable.record) = none := by
        rw [rereadItems_records, hb]
        rfl
      simp [Session.snapshot, reread, rereadFields, hversion, hnone]
  | some ws =>
      rw [hb] at hvs
      refine reread_map ?_ (by simp [Fields.keys])
      simp [rereadFields, hversion, hvs, hcs, hactive]

end Value

namespace Session

theorem mapM_reread_cons (v : Variable) (vs : List Variable) :
    (v :: vs).mapM Variable.reread =
      v.reread.bind fun w => (vs.mapM Variable.reread).map (w :: ·) := by
  rw [List.mapM_cons]
  cases v.reread with
  | none => rfl
  | some w => cases vs.mapM Variable.reread <;> rfl

theorem names_of_mapM_reread {vs ws : List Variable} (h : vs.mapM Variable.reread = some ws) :
    ws.map Variable.name = vs.map Variable.name := by
  induction vs generalizing ws with
  | nil =>
      cases h
      rfl
  | cons v vs ih =>
      rw [mapM_reread_cons] at h
      obtain ⟨w, hw, h⟩ := Option.bind_eq_some_iff.1 h
      obtain ⟨us, hus, rfl⟩ := Option.map_eq_some_iff.1 h
      obtain ⟨value, -, rfl⟩ := Option.map_eq_some_iff.1 hw
      exact congrArg (v.name :: ·) (ih hus)

theorem withVariables_bindings {s : Session} (h : s.Ordered) : s.withVariables s.bindings = s := by
  rw [withVariables, bindings, Keyed.named_map_snd h.named]

theorem Ordered.reread {s t : Session} (h : s.Ordered) (ht : s.reread = some t) : t.Ordered := by
  obtain ⟨ws, hws, rfl⟩ := Option.map_eq_some_iff.1 ht
  refine ⟨?_, h.connections, ?_, h.aliased, h.active⟩
  · have hnames : (ws.map Variable.name).Pairwise (· < ·) :=
      names_of_mapM_reread hws ▸ Keyed.pairwise_names h.bindings h.named
    exact List.pairwise_map.2 (List.pairwise_map.1 hnames)
  · exact Keyed.own_named ws

/-- The text of a session's document is refused, or reads as the session that is left of it. -/
theorem load_pretty {s : Session} (h : s.Ordered) :
    (Value.read? s.snapshot.pretty).bind (fun document => (ofSnapshot document).toOption) =
      s.reread := by
  rw [Value.read?_pretty, Value.reread_snapshot]
  cases hs : s.reread with
  | none => rfl
  | some t =>
      rw [Option.map_some, Option.bind_some, ofSnapshot_snapshot (h.reread hs)]
      rfl

/-- A session comes back as it is exactly when each value has room and its doubles last. -/
theorem reread_eq_some_self_iff {s : Session} (h : s.Valid) :
    s.reread = some s ↔ ∀ v ∈ s.bindings, v.value.depth ≤ 124 ∧ v.value.DoublesLast := by
  have hself : s.reread = some s ↔ s.bindings.mapM Variable.reread = some s.bindings := by
    rw [reread, Option.map_eq_some_iff]
    constructor
    · rintro ⟨ws, hws, heq⟩
      have hws' : ws = s.bindings := (s.bindings_withVariables ws).symm.trans (congrArg bindings heq)
      rwa [hws'] at hws
    · exact fun hws => ⟨s.bindings, hws, withVariables_bindings h.toOrdered⟩
  have hvariable : ∀ v : Variable, v.value.Distinct →
      (v.reread = some v ↔ v.value.depth ≤ 124 ∧ v.value.DoublesLast) := by
    intro v hv
    rw [← Value.reread_eq_some_self_iff 124 hv, Variable.reread, Option.map_eq_some_iff]
    constructor
    · rintro ⟨value, hvalue, heq⟩
      rwa [show value = v.value from congrArg Variable.value heq] at hvalue
    · exact fun hvalue => ⟨v.value, hvalue, rfl⟩
  have hlist : ∀ vs : List Variable, (∀ v ∈ vs, v.value.Distinct) →
      (vs.mapM Variable.reread = some vs ↔
        ∀ v ∈ vs, v.value.depth ≤ 124 ∧ v.value.DoublesLast) := by
    intro vs hvs
    induction vs with
    | nil => simp
    | cons v vs ih =>
        have hcons : (v :: vs).mapM Variable.reread = some (v :: vs) ↔
            v.reread = some v ∧ vs.mapM Variable.reread = some vs := by
          simp [Option.bind_eq_some_iff]
        rw [hcons, hvariable v (hvs v List.mem_cons_self),
          ih fun w hw => hvs w (List.mem_cons_of_mem v hw), List.forall_mem_cons]
  rw [hself, hlist s.bindings h.distinct]

end Session

end Sluice
