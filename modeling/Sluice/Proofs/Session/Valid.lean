import Sluice.Proofs.Results
import Sluice.Session.Snapshot

/-!
# Sessions in order

What holds of every session: its lists are sorted, all is kept under its own name, the active alias
is that of a connection (`Session.Ordered`), and no mapping in a variable's value has a key twice (`Session.Valid`).
Whatever changes a session keeps it so, and a session read from a document is in order from the
start (`Session.valid_ofSnapshot`).
-/

namespace Sluice

/-! ## Well-formed values -/

namespace Value

@[simp] theorem distinct_null : null.Distinct := trivial

@[simp] theorem distinct_bool (b : Bool) : (bool b).Distinct := trivial

@[simp] theorem distinct_num (n : Number) : (num n).Distinct := trivial

@[simp] theorem distinct_str (s : String) : (str s).Distinct := trivial

@[simp] theorem distinct_map {fs : Fields} :
    (map fs).Distinct ↔ (fs.map Prod.fst).Nodup ∧ DistinctFields fs := Iff.rfl

@[simp] theorem distinctFields_nil : DistinctFields [] := trivial

@[simp] theorem distinctFields_cons {k : String} {v : Value} {fs : Fields} :
    DistinctFields ((k, v) :: fs) ↔ v.Distinct ∧ DistinctFields fs := Iff.rfl

theorem distinctList_iff {xs : List Value} : DistinctList xs ↔ ∀ x ∈ xs, x.Distinct := by
  induction xs with
  | nil => simp [DistinctList]
  | cons x xs ih => simp [DistinctList, ih]

end Value

/-! ## Sessions -/

namespace Session

/-- The lists are sorted, each variable and each connection is kept under its own name, and the
active alias is that of a connection. -/
structure Ordered (s : Session) : Prop where
  bindings : Keyed.Sorted Prod.fst s.byName
  connections : Keyed.Sorted Prod.fst s.byAlias
  named : ∀ e ∈ s.byName, e.1 = e.2.name
  aliased : ∀ e ∈ s.byAlias, e.1 = e.2.name
  active : ∀ a ∈ s.active, (s.connection? a).isSome = true

/-- The session is in order, and so are the values of its variables. -/
structure Valid (s : Session) : Prop extends Ordered s where
  distinct : ∀ v ∈ s.bindings, v.value.Distinct

theorem connection?_addConnection (s : Session) (now name source : String) :
    (s.addConnection now name source).connection? name = some ⟨name, source, now⟩ :=
  Keyed.value?_insert_self ..

theorem ordered_empty : Ordered empty :=
  ⟨.nil, .nil, nofun, nofun, nofun⟩

theorem valid_empty : Valid empty :=
  ⟨ordered_empty, nofun⟩

namespace Ordered

variable {s : Session}

theorem setVariable (h : s.Ordered) (now name : String) (value : Value) (source : String) :
    (s.setVariable now name value source).Ordered where
  bindings := Keyed.sorted_insert h.bindings
  connections := h.connections
  named := Keyed.own_insert (x := (⟨name, value, now, source⟩ : Variable)) h.named
  aliased := h.aliased
  active := h.active

theorem removeVariable (h : s.Ordered) (name : String) : (s.removeVariable name).Ordered where
  bindings := Keyed.sorted_erase name h.bindings
  connections := h.connections
  named := Keyed.own_erase h.named
  aliased := h.aliased
  active := h.active

theorem clearVariables (h : s.Ordered) : s.clearVariables.Ordered where
  bindings := .nil
  connections := h.connections
  named := nofun
  aliased := h.aliased
  active := h.active

theorem addConnection (h : s.Ordered) (now name source : String) :
    (s.addConnection now name source).Ordered where
  bindings := h.bindings
  connections := Keyed.sorted_insert h.connections
  named := h.named
  aliased := Keyed.own_insert (x := (⟨name, source, now⟩ : Connection)) h.aliased
  active a ha := by
    cases ha
    rw [connection?_addConnection]
    rfl

theorem removeConnection (h : s.Ordered) (name : String) : (s.removeConnection name).Ordered := by
  unfold Session.removeConnection
  split
  · exact h
  · refine ⟨h.bindings, Keyed.sorted_erase name h.connections, h.named, Keyed.own_erase h.aliased,
      fun a ha => ?_⟩
    have ha : a ∈ (if s.active = some name then none else s.active) := ha
    split at ha
    · cases ha
    · next hne =>
      have hname : a ≠ name := fun he => hne (he ▸ ha)
      rw [connection?, Keyed.value?_erase_of_ne hname]
      exact h.active a ha

end Ordered

/-- A document that is read as a session is read as the fields of a snapshot, and the session is put
together from them. -/
theorem ofSnapshot_eq_ok {document : Value} {s : Session} (h : ofSnapshot document = .ok s) :
    ∃ d, Snapshot.ofRecord document = .ok d ∧
      s = ⟨Keyed.ofList Prod.fst (Keyed.named Variable.name d.bindings),
        Keyed.ofList Prod.fst (Keyed.named Connection.name d.connections),
        d.active.filter fun a => (Keyed.value? a
          (Keyed.ofList Prod.fst (Keyed.named Connection.name d.connections))).isSome⟩ := by
  unfold ofSnapshot at h
  split at h
  · cases h
  · next d hd =>
    split at h
    · cases h
    · cases h
      exact ⟨d, hd, rfl⟩

/-- A session read from a document is in order, whatever the document is. -/
theorem ordered_ofSnapshot {document : Value} {s : Session} (h : ofSnapshot document = .ok s) :
    s.Ordered := by
  obtain ⟨d, -, rfl⟩ := ofSnapshot_eq_ok h
  refine ⟨Keyed.sorted_ofList .., Keyed.sorted_ofList .., Keyed.own_ofList_named _,
    Keyed.own_ofList_named _, fun a ha => ?_⟩
  exact (Option.filter_eq_some_iff.1 ha).2

theorem restore_eq_ok {s t : Session} {document : Value} (h : s.restore document = (.ok (), t)) :
    ofSnapshot document = .ok t := by
  unfold restore at h
  split at h
  · cases h
  · next hok =>
    cases h
    exact hok

namespace Valid

variable {s : Session}

theorem setVariable (h : s.Valid) (now name source : String) {value : Value}
    (hvalue : value.Distinct) : (s.setVariable now name value source).Valid where
  toOrdered := h.toOrdered.setVariable now name value source
  distinct v hv := by
    obtain ⟨e, he, rfl⟩ := List.mem_map.1 hv
    rcases Keyed.mem_insert he with rfl | he
    · exact hvalue
    · exact h.distinct e.2 (List.mem_map_of_mem he)

theorem removeVariable (h : s.Valid) (name : String) : (s.removeVariable name).Valid where
  toOrdered := h.toOrdered.removeVariable name
  distinct v hv := by
    obtain ⟨e, he, rfl⟩ := List.mem_map.1 hv
    exact h.distinct e.2 (List.mem_map_of_mem (List.mem_filter.1 he).1)

theorem clearVariables (h : s.Valid) : s.clearVariables.Valid where
  toOrdered := h.toOrdered.clearVariables
  distinct := nofun

theorem addConnection (h : s.Valid) (now name source : String) :
    (s.addConnection now name source).Valid where
  toOrdered := h.toOrdered.addConnection now name source
  distinct := h.distinct

theorem removeConnection (h : s.Valid) (name : String) : (s.removeConnection name).Valid where
  toOrdered := h.toOrdered.removeConnection name
  distinct := by
    unfold Session.removeConnection
    split
    · exact h.distinct
    · exact h.distinct

/-! ### What is read from a session -/

theorem value? (h : s.Valid) {name : String} {v : Value} (hv : s.value? name = some v) :
    v.Distinct := by
  obtain ⟨x, hx, rfl⟩ := Option.map_eq_some_iff.1 hv
  exact h.distinct x (List.mem_map.2 ⟨(name, x), Keyed.value?_eq_some hx, rfl⟩)

end Valid

end Session

/-! ## Records -/

namespace Value

variable {σ : Type} {P : σ → Prop} {rules : List (FieldRule σ)}

theorem readPositional_keeps {expected : String}
    (hread : ∀ r ∈ rules, ∀ x s s', x.Distinct → P s → r.read x s = .ok s' → P s')
    {index : Nat} {xs : List Value} (hxs : DistinctList xs) {s s' : σ} (hs : P s)
    (h : readPositional expected index rules xs s = .ok s') : P s' := by
  induction rules generalizing index xs s with
  | nil =>
      cases h
      exact hs
  | cons r rs ih =>
      have hrest := fun q hq => hread q (List.mem_cons_of_mem r hq)
      cases xs with
      | nil =>
          rw [readPositional] at h
          split at h
          · cases h
          · exact ih hrest hxs hs h
      | cons x xs =>
          obtain ⟨t, ht, h⟩ := bind_eq_ok h
          exact ih hrest hxs.2 (hread r List.mem_cons_self x s t hxs.1 hs ht) h

theorem readFields_keeps
    (hread : ∀ r ∈ rules, ∀ x s s', x.Distinct → P s → r.read x s = .ok s' → P s')
    {fs : Fields} (hfs : DistinctFields fs) {s s' : σ} (hs : P s)
    (h : readFields rules fs s = .ok s') : P s' := by
  induction fs generalizing s with
  | nil =>
      cases h
      exact hs
  | cons f fs ih =>
      obtain ⟨k, x⟩ := f
      rw [readFields] at h
      split at h
      · next r hr =>
        obtain ⟨t, ht, h⟩ := bind_eq_ok h
        exact ih hfs.2 (hread r (List.mem_of_find?_eq_some hr) x s t hfs.1 hs ht) h
      · exact ih hfs.2 hs h

/-- What every field keeps, a record read from a well-formed value has. -/
theorem readRecord_keeps {type : String} {start : σ}
    (hread : ∀ r ∈ rules, ∀ x s s', x.Distinct → P s → r.read x s = .ok s' → P s')
    {v : Value} (hv : v.Distinct) (hstart : P start) {s : σ}
    (h : readRecord type rules start v = .ok s) : P s := by
  cases v with
  | map fs =>
      obtain ⟨t, ht, h⟩ := bind_eq_ok h
      split at h
      · cases h
      · cases h
        exact readFields_keeps hread hv.2 hstart ht
  | seq xs =>
      obtain ⟨t, ht, h⟩ := bind_eq_ok h
      split at h
      · cases h
      · cases h
        exact readPositional_keeps hread hv hstart ht
  | _ => cases h

theorem mem_of_mapM {α : Type} {f : Value → Except DecodeFault α} {xs : List Value} {ys : List α}
    (h : xs.mapM f = .ok ys) {y : α} (hy : y ∈ ys) : ∃ x ∈ xs, f x = .ok y := by
  induction xs generalizing ys with
  | nil =>
      cases h
      cases hy
  | cons x xs ih =>
      rw [List.mapM_cons] at h
      obtain ⟨z, hz, h⟩ := bind_eq_ok h
      obtain ⟨zs, hzs, h⟩ := bind_eq_ok h
      cases h
      rcases List.mem_cons.1 hy with rfl | hy
      · exact ⟨x, List.mem_cons_self, hz⟩
      · obtain ⟨w, hw, hfw⟩ := ih hzs hy
        exact ⟨w, List.mem_cons_of_mem x hw, hfw⟩

theorem mem_of_asItems {α : Type} {f : Value → Except DecodeFault α} {v : Value} {ys : List α}
    (hv : v.Distinct) (h : v.asItems f = .ok ys) {y : α} (hy : y ∈ ys) :
    ∃ x, x.Distinct ∧ f x = .ok y := by
  cases v with
  | seq xs =>
      obtain ⟨x, hx, hf⟩ := mem_of_mapM h hy
      exact ⟨x, distinctList_iff.1 hv x hx, hf⟩
  | _ => cases h

end Value

theorem Variable.distinct_ofRecord {x : Value} (hx : x.Distinct) {v : Variable}
    (h : Variable.ofRecord x = .ok v) : v.value.Distinct := by
  refine Value.readRecord_keeps (P := fun v : Variable => v.value.Distinct) ?_ hx
    Value.distinct_null h
  intro r hr y s s' hy hs hread
  simp only [List.mem_cons, List.not_mem_nil, or_false] at hr
  rcases hr with rfl | rfl | rfl | rfl
  · obtain ⟨t, -, rfl⟩ := map_eq_ok hread
    exact hs
  · cases hread
    exact hy
  · obtain ⟨t, -, rfl⟩ := map_eq_ok hread
    exact hs
  · obtain ⟨t, -, rfl⟩ := map_eq_ok hread
    exact hs

theorem Snapshot.distinct_ofRecord {x : Value} (hx : x.Distinct) {d : Snapshot}
    (h : Snapshot.ofRecord x = .ok d) : ∀ v ∈ d.bindings, v.value.Distinct := by
  refine Value.readRecord_keeps (P := fun d : Snapshot => ∀ v ∈ d.bindings, v.value.Distinct) ?_ hx
    (fun v hv => by cases hv) h
  intro r hr y s s' hy hs hread
  simp only [List.mem_cons, List.not_mem_nil, or_false] at hr
  rcases hr with rfl | rfl | rfl | rfl
  · obtain ⟨n, -, rfl⟩ := map_eq_ok hread
    exact hs
  · obtain ⟨vs, hvs, rfl⟩ := map_eq_ok hread
    intro v hv
    obtain ⟨z, hz, hzv⟩ := Value.mem_of_asItems hy hvs hv
    exact Variable.distinct_ofRecord hz hzv
  · obtain ⟨cs, -, rfl⟩ := map_eq_ok hread
    exact hs
  · obtain ⟨a, -, rfl⟩ := map_eq_ok hread
    exact hs

/-- A session read from a document is in order, and the values in it are those of the document. -/
theorem Session.valid_ofSnapshot {x : Value} (hx : x.Distinct) {s : Session}
    (h : Session.ofSnapshot x = .ok s) : s.Valid := by
  refine ⟨ordered_ofSnapshot h, fun v hv => ?_⟩
  obtain ⟨d, hd, rfl⟩ := ofSnapshot_eq_ok h
  obtain ⟨e, he, rfl⟩ := List.mem_map.1 hv
  obtain ⟨w, hw, rfl⟩ := List.mem_map.1 (Keyed.mem_ofList he)
  exact Snapshot.distinct_ofRecord hx hd w hw

end Sluice
