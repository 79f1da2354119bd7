import Sluice.Config.Load
import Sluice.Proofs.Output.Records
import Sluice.Proofs.Running
import Sluice.Proofs.Session.Canonical
import Sluice.Proofs.Store.Shelf

/-!
# Settings under an overlay

What an overlay says of a single setting counts instead of the default. Lists are merged: what is
left of the defaults comes first, in its order, and what is new follows in the order in which it is
first named, unless the overlay drops the defaults. Interpreters are merged ending by ending. No
section of an overlay has a say in another (`Config.overlay_merges`).

* `ListChange.apply_merges`, `ListChange.applyKeyed_merges` : lists and interpreters;
* `Config.overlay_agree` : a section is a matter of that section only;
* `Config.inOrder_load` : interpreters are in order by their endings in all settings that are loaded.
-/

namespace Sluice

/-! ## Lists -/

theorem appendNew_append (base fresh add : List String) :
    appendNew (base ++ fresh) add =
      base ++ addNew fresh (add.filter fun item => !base.contains item) := by
  induction add generalizing fresh with
  | nil => rfl
  | cons item add ih =>
      rw [appendNew, List.foldl_cons, List.filter_cons]
      by_cases hold : item ∈ base
      · rw [if_pos (by simp [hold]), if_neg (by simp [hold])]
        exact ih fresh
      · rw [if_pos (show (!base.contains item) = true by simp [hold]), addNew]
        by_cases hnamed : item ∈ fresh
        · rw [if_pos (by simp [hnamed]), if_pos (by simp [hnamed])]
          exact ih fresh
        · rw [if_neg (by simp [hold, hnamed]), if_neg (by simp [hnamed]), List.append_assoc]
          exact ih (fresh ++ [item])

namespace ListChange

/-- What is left of the defaults. -/
def left (change : ListChange String) (base : List String) : List String :=
  base.filter fun item => item ∉ change.remove

/-- A list is extended: it has what is added, and of the defaults what is not removed. What is left
of the defaults comes first, in its order, and what is new follows, each item once and in the order
in which it is first named. -/
structure Extends (change : ListChange String) (base result : List String) : Prop where
  mem_iff : ∀ item, item ∈ result ↔ item ∈ change.add ∨ item ∈ base ∧ item ∉ change.remove
  order : ∃ fresh, result = change.left base ++ fresh ∧
    FirstSeen (change.add.filter fun item => item ∉ change.left base) fresh
  nodup : base.Nodup → result.Nodup

/-- A list is changed: that of the change takes its place as it stands, or it is extended. -/
inductive Merges (change : ListChange String) (base : List String) : List String → Prop where
  | replaced : change.replace = true → Merges change base change.add
  | extended {result : List String} :
      change.replace = false → change.Extends base result → Merges change base result

theorem mem_left {change : ListChange String} {base : List String} {item : String} :
    item ∈ change.left base ↔ item ∈ base ∧ item ∉ change.remove := by
  simp [left]

theorem extends_of_order {change : ListChange String} {base fresh : List String}
    (h : FirstSeen (change.add.filter fun item => item ∉ change.left base) fresh) :
    change.Extends base (change.left base ++ fresh) where
  mem_iff item := by
    rw [List.mem_append, h.mem_iff, List.mem_filter, ← mem_left]
    by_cases hleft : item ∈ change.left base
    · simp [hleft]
    · simp [hleft]
  order := ⟨fresh, rfl, h⟩
  nodup hbase := by
    refine List.nodup_append.2 ⟨hbase.filter _, h.once, fun a ha b hb hab => ?_⟩
    have hnew := (List.mem_filter.1 ((h.mem_iff b).1 hb)).2
    exact absurd (hab ▸ ha) (by simpa using hnew)

/-- A list after a change is merged. -/
theorem apply_merges (change : ListChange String) (base : List String) :
    change.Merges base (change.apply base) := by
  unfold apply
  split
  · next hreplace => exact .replaced hreplace
  · next hreplace =>
    have hleft : base.filter (fun item => !change.remove.contains item) = change.left base := by
      simp [left]
    have happend := appendNew_append (change.left base) [] change.add
    rw [List.append_nil] at happend
    have hfirst := FirstSeen.addNew ⟨.nil, fun _ => Iff.rfl, .nil⟩
      (change.add.filter fun item => !(change.left base).contains item)
    rw [hleft, happend]
    refine .extended (Bool.eq_false_iff.2 hreplace) (extends_of_order ?_)
    simpa using hfirst

/-! ## Interpreters -/

/-- Interpreters are changed: for an ending that the change names, its command line counts, and
otherwise the default unless it is removed. -/
inductive MergesKeyed (change : ListChange (String × String)) (base : Script.Interpreters) :
    Script.Interpreters → Prop where
  | replaced : change.replace = true → MergesKeyed change base change.add
  | extended {result : Script.Interpreters} : change.replace = false →
      Keyed.Sorted Prod.fst result →
      (∀ ending, Keyed.value? ending result = (Keyed.value? ending change.add).or
        (if ending ∈ change.remove then .none else Keyed.value? ending base)) →
      MergesKeyed change base result

end ListChange

namespace Keyed

variable {α : Type} {key : α → String}

instance (xs : List α) : Decidable (Sorted key xs) :=
  inferInstanceAs (Decidable (xs.Pairwise fun x y => key x < key y))

/-- Of the entries put into place, and of those that were there, the former count. -/
theorem find?_foldl_insert_of_sorted {xs : List α} (h : Sorted key xs) (name : String)
    (done : List α) :
    find? key name (xs.foldl (fun sorted x => insert key x sorted) done) =
      (find? key name xs).or (find? key name done) := by
  rw [find?_foldl_insert, ← find?_ofList, ofList_of_sorted h]

theorem find?_filter (p : String → Bool) (name : String) (xs : List α) :
    find? key name (xs.filter fun x => p (key x)) = if p name then find? key name xs else none := by
  induction xs with
  | nil => simp [find?]
  | cons x xs ih =>
      by_cases hname : key x = name
      · subst hname
        cases hp : p (key x) with
        | true => simp [hp, find?_cons]
        | false => simpa [hp] using ih
      · cases hp : p (key x) with
        | true => simpa [hp, find?_cons, hname] using ih
        | false => simpa [hp, find?_cons, hname] using ih

end Keyed

/-- Interpreters after a change are merged. -/
theorem ListChange.applyKeyed_merges {change : ListChange (String × String)}
    {base : Script.Interpreters} (hadd : Keyed.Sorted Prod.fst change.add)
    (hbase : Keyed.Sorted Prod.fst base) : change.MergesKeyed base (change.applyKeyed base) := by
  unfold applyKeyed
  split
  · next hreplace => exact .replaced hreplace
  · next hreplace =>
    refine .extended (Bool.eq_false_iff.2 hreplace) ?_ fun ending => ?_
    · exact Keyed.sorted_foldl_insert _ (hbase.sublist List.filter_sublist)
    · rw [Keyed.value?, Keyed.find?_foldl_insert_of_sorted hadd, Option.map_or,
        Keyed.find?_filter fun ending => !change.remove.contains ending]
      by_cases hremoved : ending ∈ change.remove
      · simp [hremoved, Keyed.value?]
      · simp [hremoved, Keyed.value?]

/-! ## Single settings -/

/-- What an overlay says counts, and otherwise the default. -/
inductive Overrides {α : Type} : Option α → α → α → Prop where
  | given (value base : α) : Overrides (some value) base value
  | kept (base : α) : Overrides none base base

theorem overrides_getD {α : Type} (said : Option α) (base : α) :
    Overrides said base (said.getD base) := by
  cases said with
  | none => exact .kept base
  | some value => exact .given value base

/-! ## All settings -/

/-- Interpreters are in order by their endings. -/
def Config.InOrder (c : Config) : Prop :=
  Keyed.Sorted Prod.fst c.interpreters

instance (c : Config) : Decidable c.InOrder :=
  inferInstanceAs (Decidable (Keyed.Sorted Prod.fst c.interpreters))

/-- The interpreters that an overlay adds are in order by their endings. -/
def Overlay.InOrder (o : Overlay) : Prop :=
  Keyed.Sorted Prod.fst o.interpreters.add

instance (o : Overlay) : Decidable o.InOrder :=
  inferInstanceAs (Decidable (Keyed.Sorted Prod.fst o.interpreters.add))

/-- Settings are those under an overlay. -/
structure Overlay.Merges (o : Overlay) (c result : Config) : Prop where
  logLevel : Overrides o.logLevel c.logLevel result.logLevel
  assumeYes : Overrides o.assumeYes c.assumeYes result.assumeYes
  history : Overrides o.history c.history result.history
  home : Overrides o.home c.home result.home
  roots : o.roots.Merges c.roots result.roots
  outputMode : Overrides o.outputMode c.output.mode result.output.mode
  maxColumnWidth : Overrides o.maxColumnWidth c.output.maxColumnWidth result.output.maxColumnWidth
  interpreters : o.interpreters.MergesKeyed c.interpreters result.interpreters
  disabled : o.disabled.Merges c.disabled result.disabled

inductive Section where
  | settings
  | paths
  | workspace
  | output
  | scripts
  | commands
deriving DecidableEq

/-- Two configurations are the same in a section. -/
def Config.Agree : Section → Config → Config → Prop
  | .settings, c, c' =>
    c.logLevel = c'.logLevel ∧ c.assumeYes = c'.assumeYes ∧ c.history = c'.history
  | .paths, c, c' => c.home = c'.home
  | .workspace, c, c' => c.roots = c'.roots
  | .output, c, c' => c.output = c'.output
  | .scripts, c, c' => c.interpreters = c'.interpreters
  | .commands, c, c' => c.disabled = c'.disabled

def Overlay.Agree : Section → Overlay → Overlay → Prop
  | .settings, o, o' =>
    o.logLevel = o'.logLevel ∧ o.assumeYes = o'.assumeYes ∧ o.history = o'.history
  | .paths, o, o' => o.home = o'.home
  | .workspace, o, o' => o.roots = o'.roots
  | .output, o, o' => o.outputMode = o'.outputMode ∧ o.maxColumnWidth = o'.maxColumnWidth
  | .scripts, o, o' => o.interpreters = o'.interpreters
  | .commands, o, o' => o.disabled = o'.disabled

namespace Config

variable {c c' : Config} {o o' : Overlay}

/-- What holds in a section is a matter of that section. -/
theorem overlay_agree {s : Section} (hc : c.Agree s c') (ho : o.Agree s o') :
    (c.overlay o).Agree s (c'.overlay o') := by
  cases s with
  | settings =>
      obtain ⟨hlevel, hyes, hhistory⟩ := hc
      obtain ⟨hlevel', hyes', hhistory'⟩ := ho
      simp only [Agree, overlay, hlevel, hyes, hhistory, hlevel', hyes', hhistory', and_self]
  | paths => exact congrArg₂ (fun said base => said.getD base) ho hc
  | workspace => exact congrArg₂ ListChange.apply ho hc
  | output =>
      obtain ⟨hmode, hwidth⟩ := ho
      have houtput : c.output = c'.output := hc
      simp only [Agree, overlay, hmode, hwidth, houtput]
  | scripts => exact congrArg₂ ListChange.applyKeyed ho hc
  | commands => exact congrArg₂ ListChange.apply ho hc

/-- An overlay that says nothing changes nothing. -/
theorem overlay_none (c : Config) : c.overlay .none = c := by
  simp [overlay, Overlay.none, ListChange.none, ListChange.apply, ListChange.applyKeyed, appendNew]

/-- A section of which an overlay says nothing stays as it is. -/
theorem overlay_agree_of_none {s : Section} (ho : o.Agree s .none) : (c.overlay o).Agree s c := by
  have hself : c.Agree s c := by cases s <;> simp [Agree]
  have hagree := overlay_agree hself ho
  rwa [overlay_none] at hagree

/-- Whatever an overlay says of any settings: each single setting is what the overlay says or the
default, lists and interpreters are merged, and what holds in a section under the overlay is decided
by what the settings and the overlay have in that section. -/
theorem overlay_merges (hc : c.InOrder) (ho : o.InOrder) :
    o.Merges c (c.overlay o) ∧
    ∀ s c' o', c.Agree s c' → o.Agree s o' → (c.overlay o).Agree s (c'.overlay o') := by
  refine ⟨?_, fun s c' o' => overlay_agree⟩
  exact {
    logLevel := overrides_getD _ _
    assumeYes := overrides_getD _ _
    history := overrides_getD _ _
    home := overrides_getD _ _
    roots := o.roots.apply_merges c.roots
    outputMode := overrides_getD _ _
    maxColumnWidth := overrides_getD _ _
    interpreters := ListChange.applyKeyed_merges ho hc
    disabled := o.disabled.apply_merges c.disabled }

def crowded : Config :=
  { default with roots := ["a", "b", "c"], disabled := ["flow"] }

/-- An overlay that names directories twice and removes what it adds. -/
def crowding : Overlay where
  logLevel := some "debug"
  assumeYes := none
  history := some false
  home := none
  roots := ⟨false, ["b", "d", "a", "d"], ["a", "c"]⟩
  outputMode := none
  maxColumnWidth := some 20
  interpreters := ⟨false, [("lua", "lua"), ("py", "pypy3"), ("rb", "jruby")], ["rb", "sh"]⟩
  disabled := ⟨true, ["session"], []⟩

theorem overlay_merges_crowding :
    crowded.InOrder ∧ crowding.InOrder ∧ crowding.Merges crowded (crowded.overlay crowding) ∧
    ∀ s c' o', crowded.Agree s c' → crowding.Agree s o' →
      (crowded.overlay crowding).Agree s (c'.overlay o') := by
  have hcrowded : crowded.InOrder := by decide
  have hcrowding : crowding.InOrder := by decide
  exact ⟨hcrowded, hcrowding, overlay_merges hcrowded hcrowding⟩

example : crowded.overlay crowding =
    ⟨"debug", false, false, "~/.cx", ["b", "d", "a"], ⟨"auto", 20⟩,
      [("js", "node"), ("lua", "lua"), ("py", "pypy3"), ("rb", "jruby")], ["session"]⟩ := by
  decide

end Config

/-! ## Settings that are loaded -/

namespace Toml

variable {σ : Type} {P : σ → Prop}

/-- A setting that is read keeps a property of what it is read into. -/
def Setting.Keeps (P : σ → Prop) (setting : Setting σ) : Prop :=
  ∀ v s s', P s → setting.read v s = some s' → P s'

theorem Setting.keeps_map {α : Type} {name : String} {optional : Bool} {get : Toml → Option α}
    {set : α → σ → σ} (h : ∀ v a s, get v = some a → P s → P (set a s)) :
    (Setting.mk name optional fun v s => (get v).map fun a => set a s).Keeps P := by
  intro v s s' hs hread
  obtain ⟨a, ha, rfl⟩ := Option.map_eq_some_iff.1 hread
  exact h v a s ha hs

theorem readInOrder_keeps {settings : List (Setting σ)} (h : ∀ x ∈ settings, x.Keeps P)
    {vs : List Toml} {s s' : σ} (hs : P s) (hread : readInOrder settings vs s = some s') :
    P s' := by
  induction settings generalizing vs s with
  | nil =>
      cases hread
      exact hs
  | cons setting settings ih =>
      obtain ⟨hsetting, hsettings⟩ := List.forall_mem_cons.1 h
      cases vs with
      | nil =>
          rw [readInOrder] at hread
          split at hread
          · exact ih hsettings hs hread
          · cases hread
      | cons v vs =>
          obtain ⟨s₁, hfirst, hrest⟩ := Option.bind_eq_some_iff.1 hread
          exact ih hsettings (hsetting v s s₁ hs hfirst) hrest

theorem readEntries_keeps {settings : List (Setting σ)} (h : ∀ x ∈ settings, x.Keeps P)
    {entries : Entries} {s s' : σ} (hs : P s) (hread : readEntries settings entries s = some s') :
    P s' := by
  induction entries generalizing s with
  | nil =>
      cases hread
      exact hs
  | cons entry entries ih =>
      rw [readEntries, List.foldlM_cons] at hread
      obtain ⟨s₁, hfirst, hrest⟩ := Option.bind_eq_some_iff.1 hread
      refine ih ?_ hrest
      dsimp only at hfirst
      split at hfirst
      · next setting hfound =>
        exact h setting (List.mem_of_find?_eq_some hfound) entry.2 s s₁ hs hfirst
      · cases hfirst
        exact hs

/-- A section keeps what its settings keep. -/
theorem readSection_keeps {settings : List (Setting σ)} (h : ∀ x ∈ settings, x.Keeps P)
    {v : Toml} {s s' : σ} (hs : P s) (hread : readSection settings v s = some s') : P s' := by
  unfold readSection at hread
  split at hread
  · exact readEntries_keeps h hs hread
  · exact readEntries_keeps h hs hread
  · exact readInOrder_keeps h hs hread
  · exact readInOrder_keeps h hs hread
  · cases hread

theorem keeps_section {settings : List (Setting σ)} (h : ∀ x ∈ settings, x.Keeps P)
    (name : String) (optional : Bool) :
    (Setting.mk name optional (readSection settings)).Keeps P :=
  fun _ _ _ => readSection_keeps h

theorem keeps_listSettings {α : Type} {field : String} {items? : Toml → Option (List α)}
    {change : (ListChange α → ListChange α) → σ → σ}
    (hadd : ∀ v xs s, items? v = some xs → P s → P (change (fun c => { c with add := xs }) s))
    (hreplace : ∀ b s, P s → P (change (fun c => { c with replace := b }) s))
    (hremove : ∀ xs s, P s → P (change (fun c => { c with remove := xs }) s)) :
    ∀ x ∈ listSettings field items? change, x.Keeps P := by
  intro x hx
  simp only [listSettings, List.mem_cons, List.not_mem_nil, or_false] at hx
  rcases hx with rfl | rfl | rfl
  · exact Setting.keeps_map fun _ b s _ => hreplace b s
  · exact Setting.keeps_map fun v xs s => hadd v xs s
  · exact Setting.keeps_map fun _ xs s _ => hremove xs s

theorem sorted_asTextTable? {v : Toml} {entries : List (String × String)}
    (h : asTextTable? v = some entries) : Keyed.Sorted Prod.fst entries := by
  cases v with
  | table _ given =>
      obtain ⟨texts, -, rfl⟩ := Option.map_eq_some_iff.1 h
      exact Keyed.sorted_ofList Prod.fst texts
  | moment written =>
      cases h
      exact List.pairwise_singleton _ _
  | _ => cases h

end Toml

/-- What a document says of interpreters is in order. -/
theorem Overlay.inOrder_read? {document : String} {o : Overlay} (h : read? document = some o) :
    o.InOrder := by
  obtain ⟨entries, -, hread⟩ := Option.bind_eq_some_iff.1 h
  have hnone : Overlay.none.InOrder := .nil
  refine Toml.readSection_keeps (fun x hx => ?_) hnone hread
  simp only [sections, List.mem_cons, List.not_mem_nil, or_false] at hx
  -- only one section has to do with interpreters
  rcases hx with rfl | rfl | rfl | rfl | rfl | rfl
  · refine Toml.keeps_section (fun x hx => ?_) _ _
    simp only [List.mem_cons, List.not_mem_nil, or_false] at hx
    rcases hx with rfl | rfl | rfl
    all_goals exact Toml.Setting.keeps_map fun _ _ _ _ ho => ho
  · refine Toml.keeps_section (fun x hx => ?_) _ _
    obtain rfl := List.mem_singleton.1 hx
    exact Toml.Setting.keeps_map fun _ _ _ _ ho => ho
  · exact Toml.keeps_section
      (Toml.keeps_listSettings (fun _ _ _ _ ho => ho) (fun _ _ ho => ho) fun _ _ ho => ho) _ _
  · refine Toml.keeps_section (fun x hx => ?_) _ _
    simp only [List.mem_cons, List.not_mem_nil, or_false] at hx
    rcases hx with rfl | rfl
    all_goals exact Toml.Setting.keeps_map fun _ _ _ _ ho => ho
  · refine Toml.keeps_section (Toml.keeps_listSettings ?_ ?_ ?_) _ _
    · exact fun _ _ _ hentries _ => Toml.sorted_asTextTable? hentries
    · exact fun _ _ ho => ho
    · exact fun _ _ ho => ho
  · exact Toml.keeps_section
      (Toml.keeps_listSettings (fun _ _ _ _ ho => ho) (fun _ _ ho => ho) fun _ _ ho => ho) _ _

namespace Config

theorem inOrder_default : default.InOrder := by decide

theorem inOrder_overlay {c : Config} {o : Overlay} (hc : c.InOrder) (ho : o.InOrder) :
    (c.overlay o).InOrder := by
  have hmerges : o.interpreters.MergesKeyed c.interpreters (c.overlay o).interpreters :=
    ListChange.applyKeyed_merges ho hc
  unfold InOrder
  generalize (c.overlay o).interpreters = result at hmerges ⊢
  cases hmerges with
  | replaced => exact ho
  | extended _ hsorted _ => exact hsorted

/-- In all settings that are loaded interpreters are in order. -/
theorem inOrder_load {ω : Type} {world : (q : HostRequest) → ω → Option q.Answer × ω}
    {path : Option String} {c : Config} {w w' : ω}
    (h : (load path).run (I := host) world w = (some c, w')) : c.InOrder := by
  obtain ⟨found, w₁, -, hfound⟩ := Host.run_bind_eq_some world h
  rcases found with _ | ⟨path, text⟩
  · cases hfound
    exact inOrder_default
  · dsimp only at hfound
    split at hfound
    · next o ho =>
      cases hfound
      exact inOrder_overlay inOrder_default (Overlay.inOrder_read? ho)
    · obtain ⟨_, _, -, hcomplained⟩ := Host.run_bind_eq_some world hfound
      cases hcomplained
      exact inOrder_default

end Config

end Sluice
