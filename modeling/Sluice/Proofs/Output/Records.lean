import Mathlib.Data.List.Forall2
import Mathlib.Data.List.Nodup
import Sluice.Output.Render

/-!
# What a table shows of a value

The table of a value has a row for each item of a sequence, and one row for anything else. Under a
header stands what the row has there: the value under that key, where a row that is no mapping has
itself under the key `value`. Headers are the columns that were asked for or, if none were, the keys
of all rows in the order in which they are first seen (`FirstSeen`).

* `firstSeen_columnNames` : the headers of all rows;
* `Value.tabulates_iff` : what is drawn is the table of the value, and there is none exactly if a
  column was asked for that no row has.
-/

namespace Sluice

/-! ## The order in which names are seen -/

/-- All names that were seen, each once and in the order in which it was first seen. -/
structure FirstSeen (seen names : List String) : Prop where
  once : names.Nodup
  mem_iff : ∀ name, name ∈ names ↔ name ∈ seen
  order : names.Pairwise fun a b => seen.idxOf a < seen.idxOf b

theorem FirstSeen.unique {seen names names' : List String} (h : FirstSeen seen names)
    (h' : FirstSeen seen names') : names = names' := by
  have hperm : names.Perm names' := by
    rw [List.perm_ext_iff_of_nodup h.once h'.once]
    intro name
    rw [h.mem_iff, h'.mem_iff]
  refine hperm.eq_of_pairwise (fun a b _ _ hab hba => ?_) h.order h'.order
  exact absurd hba (Nat.lt_asymm hab)

/-- A name that is seen is added at the end unless it was seen before. -/
theorem FirstSeen.add {seen names : List String} (h : FirstSeen seen names) (k : String) :
    FirstSeen (seen ++ [k]) (if names.contains k then names else names ++ [k]) := by
  have hindex : ∀ name ∈ names, (seen ++ [k]).idxOf name = seen.idxOf name :=
    fun name hname => List.idxOf_append_of_mem ((h.mem_iff name).1 hname)
  have horder : names.Pairwise fun a b => (seen ++ [k]).idxOf a < (seen ++ [k]).idxOf b := by
    refine h.order.imp_of_mem fun {a b} ha hb hlt => ?_
    rwa [hindex a ha, hindex b hb]
  split
  · next hold =>
    have hk : k ∈ names := by simpa using hold
    refine ⟨h.once, fun name => ?_, horder⟩
    rw [List.mem_append, List.mem_singleton, ← h.mem_iff]
    exact ⟨.inl, fun hname => hname.elim id fun hname => hname ▸ hk⟩
  · next hnew =>
    have hk : k ∉ names := by simpa using hnew
    refine ⟨?_, fun name => ?_, ?_⟩
    · rw [List.nodup_append]
      exact ⟨h.once, List.nodup_singleton k, fun a ha b hb hab =>
        hk (List.mem_singleton.1 hb ▸ hab ▸ ha)⟩
    · rw [List.mem_append, List.mem_append, h.mem_iff]
    · refine List.pairwise_append.2 ⟨horder, List.pairwise_singleton _ _, fun a ha b hb => ?_⟩
      rw [List.mem_singleton.1 hb, hindex a ha,
        List.idxOf_append_of_notMem (mt (h.mem_iff k).2 hk)]
      exact Nat.lt_of_lt_of_le (List.idxOf_lt_length_of_mem ((h.mem_iff a).1 ha))
        (Nat.le_add_right _ _)

theorem FirstSeen.addNew {seen names : List String} (h : FirstSeen seen names) (ks : List String) :
    FirstSeen (seen ++ ks) (addNew names ks) := by
  induction ks generalizing seen names with
  | nil =>
      rw [List.append_nil]
      exact h
  | cons k ks ih =>
      have hstep := ih (h.add k)
      rwa [List.append_assoc] at hstep

/-- The headers of rows are all their keys. -/
theorem firstSeen_columnNames (records : List Fields) :
    FirstSeen (records.flatMap Fields.keys) (columnNames records) := by
  suffices ∀ seen names, FirstSeen seen names →
      FirstSeen (seen ++ records.flatMap Fields.keys)
        (records.foldl (fun names r => Sluice.addNew names r.keys) names) from
    this [] [] ⟨.nil, fun _ => Iff.rfl, .nil⟩
  induction records with
  | nil =>
      intro seen names h
      rwa [List.flatMap_nil, List.append_nil]
  | cons r records ih =>
      intro seen names h
      have hstep := ih _ _ (h.addNew r.keys)
      rwa [List.append_assoc, ← List.flatMap_cons] at hstep

namespace Value

/-! ## Rows -/

/-- The rows that a value is shown in. -/
def rows : Value → List Value
  | .seq items => items
  | v => [v]

/-- What a row has under a key. -/
inductive Has : Value → String → Value → Prop where
  | field {fields : Fields} {key : String} {held : Value} (h : fields.get? key = some held) :
      Has (.map fields) key held
  | whole {row : Value} (h : ∀ fields, row ≠ .map fields) : Has row "value" row

/-- The text for what a row has under a key: texts as they are, and other values as compact JSON. It
is empty for null, and if there is nothing. -/
inductive Shown (row : Value) (key : String) : String → Prop where
  | text {s : String} (h : row.Has key (.str s)) : Shown row key s
  | json {held : Value} (h : row.Has key held) (hnull : held ≠ .null) (htext : ∀ s, held ≠ .str s) :
      Shown row key held.compact
  | null (h : row.Has key .null) : Shown row key ""
  | absent (h : ∀ held, ¬ row.Has key held) : Shown row key ""

def rowKeys : Value → List String
  | .map fields => Fields.keys fields
  | _ => ["value"]

def HasColumn (v : Value) (key : String) : Prop :=
  ∃ row ∈ v.rows, ∃ held, row.Has key held

/-- The table of a value: its headers are the columns that were asked for or else the keys of all
rows, and it has a line of cells for each row, with a cell for each header. -/
structure Tabulates (v : Value) (columns : Option (List String)) (t : Table) : Prop where
  selected : ∀ names, columns = some names → t.headers = names
  unselected : columns = none → FirstSeen (v.rows.flatMap rowKeys) t.headers
  rows : List.Forall₂ (fun row cells => List.Forall₂ row.Shown t.headers cells) v.rows t.rows

theorem asRecord_eq {row : Value} (h : ∀ fields, row ≠ .map fields) :
    row.asRecord = [("value", row)] := by
  cases row with
  | map fields => exact absurd rfl (h fields)
  | _ => rfl

theorem keys_asRecord (row : Value) : row.asRecord.keys = row.rowKeys := by
  cases row <;> rfl

theorem get?_asRecord_iff {row held : Value} {key : String} :
    row.asRecord.get? key = some held ↔ row.Has key held := by
  constructor
  · intro h
    by_cases hmap : ∃ fields, row = .map fields
    · obtain ⟨fields, rfl⟩ := hmap
      exact .field h
    · rw [not_exists] at hmap
      rw [asRecord_eq hmap, Fields.get?] at h
      split at h
      · next hkey =>
        subst hkey
        cases h
        exact .whole hmap
      · cases h
  · intro h
    cases h with
    | field h => exact h
    | whole h =>
        rw [asRecord_eq h]
        exact if_pos rfl

theorem mem_keys_iff {fields : Fields} {key : String} :
    key ∈ fields.keys ↔ ∃ held, fields.get? key = some held := by
  induction fields with
  | nil => simp [Fields.keys, Fields.get?]
  | cons f fields ih =>
      obtain ⟨k, v⟩ := f
      show key ∈ k :: Fields.keys fields ↔ ∃ held, (if k = key then some v else _) = some held
      rw [List.mem_cons, ih]
      by_cases hk : k = key
      · simp [hk]
      · simp [hk, Ne.symm hk]

theorem mem_rowKeys_iff {row : Value} {key : String} :
    key ∈ row.rowKeys ↔ ∃ held, row.Has key held := by
  rw [← keys_asRecord, mem_keys_iff]
  exact exists_congr fun held => get?_asRecord_iff

/-- A cell shows what the row has. -/
theorem shown_iff {row : Value} {key text : String} :
    row.Shown key text ↔ text = cell (row.asRecord.get? key) := by
  constructor
  · intro h
    cases h with
    | text h =>
        rw [get?_asRecord_iff.2 h]
        rfl
    | @json held h hnull htext =>
        rw [get?_asRecord_iff.2 h]
        cases held with
        | null => exact absurd rfl hnull
        | str s => exact absurd rfl (htext s)
        | _ => rfl
    | null h =>
        rw [get?_asRecord_iff.2 h]
        rfl
    | absent h =>
        have hnone : row.asRecord.get? key = none :=
          Option.eq_none_iff_forall_ne_some.2 fun held hheld => h held (get?_asRecord_iff.1 hheld)
        rw [hnone]
        rfl
  · rintro rfl
    cases hheld : row.asRecord.get? key with
    | none =>
        refine .absent fun held hhas => ?_
        rw [get?_asRecord_iff.2 hhas] at hheld
        cases hheld
    | some held =>
        have hhas := get?_asRecord_iff.1 hheld
        cases held with
        | null => exact .null hhas
        | str s => exact .text hhas
        | _ => exact .json hhas nofun nofun

theorem forall₂_eq_map_iff {α β : Type} {f : α → β} {xs : List α} {ys : List β} :
    List.Forall₂ (fun x y => y = f x) xs ys ↔ ys = xs.map f := by
  have heq : (fun x y => y = f x) = fun x y => f x = y :=
    funext fun x => funext fun y => propext eq_comm
  rw [heq, ← List.forall₂_map_left_iff (R := Eq) (f := f), List.forall₂_eq_eq_eq, eq_comm]

/-- The lines of a table are the cells of all rows under its headers. -/
theorem forall₂_shown_iff {rows : List Value} {headers : List String} {lines : List (List String)} :
    List.Forall₂ (fun row cells => List.Forall₂ (Shown row) headers cells) rows lines ↔
      lines = (Table.ofRecords headers (rows.map asRecord)).rows := by
  have hcells : (fun row => List.Forall₂ (Shown row) headers) =
      fun row cells => cells = headers.map fun h => cell (row.asRecord.get? h) := by
    funext row cells
    have hcell : row.Shown = fun key text => text = cell (row.asRecord.get? key) :=
      funext fun key => funext fun text => propext shown_iff
    rw [hcell]
    exact propext forall₂_eq_map_iff
  rw [hcells, forall₂_eq_map_iff]
  show _ ↔ lines = (rows.map asRecord).map _
  rw [List.map_map]
  rfl

/-! ## Columns -/

theorem records?_eq {v : Value} (h : v ≠ .seq []) : v.records? = some (v.rows.map asRecord) := by
  cases v with
  | seq items =>
      cases items with
      | nil => exact absurd rfl h
      | cons item items => rfl
  | _ => rfl

theorem firstSeen_rows (v : Value) :
    FirstSeen (v.rows.flatMap rowKeys) (columnNames (v.rows.map asRecord)) := by
  have h := firstSeen_columnNames (v.rows.map asRecord)
  rw [List.flatMap_map] at h
  rwa [show (fun row : Value => Fields.keys row.asRecord) = rowKeys from funext keys_asRecord] at h

theorem mem_columnNames_iff {v : Value} {key : String} :
    key ∈ columnNames (v.rows.map asRecord) ↔ v.HasColumn key := by
  rw [(firstSeen_rows v).mem_iff, List.mem_flatMap]
  exact exists_congr fun row => and_congr_right fun _ => mem_rowKeys_iff

/-- The table of rows under some headers is the value's. -/
theorem tabulates_iff_ofRecords {v : Value} {columns : Option (List String)} {t : Table} :
    v.Tabulates columns t ↔
      t = Table.ofRecords (columns.getD (columnNames (v.rows.map asRecord)))
        (v.rows.map asRecord) := by
  constructor
  · rintro ⟨hselected, hunselected, hrows⟩
    have hheaders : t.headers = columns.getD (columnNames (v.rows.map asRecord)) := by
      cases columns with
      | none => exact (hunselected rfl).unique (firstSeen_rows v)
      | some names => exact hselected names rfl
    have hlines := forall₂_shown_iff.1 hrows
    obtain ⟨headers, lines⟩ := t
    dsimp only at hheaders hlines
    rw [hlines, hheaders]
    rfl
  · rintro rfl
    refine ⟨?_, ?_, forall₂_shown_iff.2 rfl⟩
    · rintro names rfl
      rfl
    · rintro rfl
      exact firstSeen_rows v

/-- The first of some names that no row has. -/
def FirstMissing (v : Value) (names : List String) (missing : String) : Prop :=
  ∃ before after, names = before ++ missing :: after ∧ (∀ name ∈ before, v.HasColumn name) ∧
    ¬ v.HasColumn missing

/-- Tables of rows fail over the first name that no row has. -/
theorem tabulate_cases {v : Value} (columns : Option (List String)) :
    ((∀ names, columns = some names → ∀ name ∈ names, v.HasColumn name) ∧
      tabulate (v.rows.map asRecord) columns =
        .ok (Table.ofRecords (columns.getD (columnNames (v.rows.map asRecord)))
          (v.rows.map asRecord))) ∨
    ∃ names missing, columns = some names ∧ v.FirstMissing names missing ∧
      tabulate (v.rows.map asRecord) columns =
        .error (.unknownColumn missing (columnNames (v.rows.map asRecord))) := by
  have hcontains : ∀ name, (columnNames (v.rows.map asRecord)).contains name = true ↔
      v.HasColumn name := by
    intro name
    rw [List.contains_iff_mem, mem_columnNames_iff]
  cases columns with
  | none => exact .inl ⟨nofun, rfl⟩
  | some names =>
      unfold tabulate
      dsimp only
      split
      · next missing hfind =>
        obtain ⟨hmissing, before, after, heq, hbefore⟩ := List.find?_eq_some_iff_append.1 hfind
        refine .inr ⟨names, missing, rfl, ⟨before, after, heq, fun name hname => ?_, ?_⟩, rfl⟩
        · exact (hcontains name).1 (by simpa using hbefore name hname)
        · rw [← hcontains]
          simpa using hmissing
      · next hfind =>
        refine .inl ⟨fun names' hnames name hname => ?_, rfl⟩
        cases hnames
        exact (hcontains name).1 (by simpa using List.find?_eq_none.1 hfind name hname)

/-- What is drawn is the table of the value. Where columns were asked for, each has to be one that
some row has; the first that none has is named, with all that there are. -/
theorem tabulates_iff {v : Value} (h : v ≠ .seq []) (columns : Option (List String)) :
    ∃ records, v.records? = some records ∧
      (∀ maxWidth, v.renderTable columns maxWidth =
        (tabulate records columns).map fun t => t.draw maxWidth) ∧
      (∀ t, tabulate records columns = .ok t ↔
        (∀ names, columns = some names → ∀ name ∈ names, v.HasColumn name) ∧
          v.Tabulates columns t) ∧
      ((∃ fault, tabulate records columns = .error fault) ↔
        ∃ names, columns = some names ∧ ∃ name ∈ names, ¬ v.HasColumn name) ∧
      ∀ fault, tabulate records columns = .error fault →
        ∃ names missing available, columns = some names ∧ v.FirstMissing names missing ∧
          FirstSeen (v.rows.flatMap rowKeys) available ∧
          fault = .unknownColumn missing available := by
  refine ⟨v.rows.map asRecord, records?_eq h, fun maxWidth => ?_, ?_⟩
  · unfold renderTable
    rw [records?_eq h]
  · rcases v.tabulate_cases columns with ⟨hknown, heq⟩ | ⟨names, missing, rfl, hmissing, heq⟩
    · rw [heq]
      refine ⟨fun t => ?_, ?_, nofun⟩
      · rw [tabulates_iff_ofRecords, Except.ok.injEq]
        exact ⟨fun ht => ⟨hknown, ht.symm⟩, fun ht => ht.2.symm⟩
      · refine ⟨nofun, ?_⟩
        rintro ⟨names, hnames, name, hname, hno⟩
        exact absurd (hknown names hnames name hname) hno
    · rw [heq]
      obtain ⟨before, after, rfl, -, hno⟩ := id hmissing
      have hmem : missing ∈ before ++ missing :: after := by simp
      refine ⟨fun t => ⟨nofun, ?_⟩, ?_, ?_⟩
      · rintro ⟨hknown, -⟩
        exact absurd (hknown _ rfl missing hmem) hno
      · exact ⟨fun _ => ⟨_, rfl, missing, hmem, hno⟩, fun _ => ⟨_, rfl⟩⟩
      · rintro fault hfault
        cases hfault
        exact ⟨_, missing, _, rfl, hmissing, firstSeen_rows v, rfl⟩

/-- Two mappings with a number between them. -/
def mixedRows : Value :=
  .seq [.map [("a", .ofNat 1), ("b", .str "x")], .ofNat 2, .map [("b", .null), ("c", .bool true)]]

theorem tabulates_iff_mixedRows :
    mixedRows ≠ .seq [] ∧
      mixedRows.Tabulates none
        ⟨["a", "b", "value", "c"], [["1", "x", "", ""], ["", "", "2", ""], ["", "", "", "true"]]⟩ ∧
      ∃ fault, tabulate (mixedRows.rows.map asRecord) (some ["c", "z", "b"]) = .error fault := by
  have hne : mixedRows ≠ .seq [] := by simp [mixedRows]
  obtain ⟨records, hrecords, -, hok, -⟩ := tabulates_iff hne none
  obtain ⟨records', hrecords', -, -, hfails, -⟩ := tabulates_iff hne (some ["c", "z", "b"])
  rw [records?_eq hne, Option.some.injEq] at hrecords hrecords'
  subst hrecords hrecords'
  refine ⟨hne, ((hok _).1 (by rfl)).2, hfails.2 ⟨_, rfl, "z", by decide, ?_⟩⟩
  rw [← mem_columnNames_iff]
  decide

end Value

end Sluice
