import Sluice.Proofs.Workspace.Finding

/-!
# What is listed

Under each root the files of a kind are listed whose names end as the kind says and are not hidden,
each once and in the order of the assets' names, however the directory is enumerated. The list has
one file more where there is one whose name is the ending and nothing else: it is hidden, but what
is left of its name is not (`Workspace.assets_lists`).

* `Disk.Holds` : an asset stands for a file of the kind under a root;
* `Lists` : the list of exactly those assets that have a property; there is only one.
-/

namespace Sluice

/-- A file is hidden if its name begins with a point. -/
def IsHidden (file : String) : Prop :=
  file.toList.head? = some '.'

instance (file : String) : Decidable (IsHidden file) :=
  inferInstanceAs (Decidable (file.toList.head? = some '.'))

/-- A name is hidden with the ending of its kind if it is so by itself, or if the ending is all of
it. -/
theorem isHidden_append_suffix {kind : AssetKind} {name : String}
    (h : IsFileName (name ++ kind.suffix)) :
    IsHidden (name ++ kind.suffix) ↔ name.toList.head? = some '.' ∨ name = "" := by
  unfold IsHidden
  rw [String.toList_append]
  cases hname : name.toList with
  | cons c cs =>
      have hne : name ≠ "" := by
        rintro rfl
        cases hname
      simp [hne]
  | nil =>
      obtain rfl : name = "" := String.toList_injective hname
      cases kind with
      | flow => decide
      | query => decide
      | script => exact absurd rfl h.ne_empty

/-! ## Lists of assets -/

/-- The assets in the list are exactly those that have a property, each once and in the order of
their names. -/
structure Lists (P : Asset → Prop) (listed : List Asset) : Prop where
  sorted : Keyed.Sorted Asset.name listed
  mem_iff : ∀ a, a ∈ listed ↔ P a

namespace Lists

variable {P Q : Asset → Prop} {listed listed' : List Asset}

/-- There is one such list. -/
theorem unique (h : Lists P listed) (h' : Lists P listed') : listed = listed' :=
  h.sorted.unique h'.sorted fun a => (h.mem_iff a).trans (h'.mem_iff a).symm

theorem congr (h : Lists P listed) (hiff : ∀ a, P a ↔ Q a) : Lists Q listed :=
  ⟨h.sorted, fun a => (h.mem_iff a).trans (hiff a)⟩

end Lists

namespace Disk

variable {disk disk' : Disk} {kind : AssetKind} {root : Root} {a : Asset}

/-- An asset stands for a regular file in the directory of a kind under a root. The file's name is
the asset's with the ending of the kind. -/
structure Holds (disk : Disk) (kind : AssetKind) (root : Root) (a : Asset) : Prop where
  space : a.space = root.space
  path : a.path = Location.join (Location.join root.path kind.directory) (a.name ++ kind.suffix)
  named : ∃ names, disk.names (Location.join root.path kind.directory) = .ok names ∧
    a.name ++ kind.suffix ∈ names
  regular : disk.kind a.path = .ok .file

theorem Holds.isFileName (hnamed : disk.Named) (h : disk.Holds kind root a) :
    IsFileName (a.name ++ kind.suffix) := by
  obtain ⟨names, hnames, hmem⟩ := h.named
  exact hnamed.fileName _ names hnames _ hmem

theorem mem_files {directory file : String} {names : List String} :
    file ∈ disk.files directory names ↔
      file ∈ names ∧ disk.kind (Location.join directory file) = .ok .file := by
  unfold files
  rw [List.mem_filter, beq_iff_eq]
  refine and_congr_right fun _ => ?_
  cases disk.kind (Location.join directory file) with
  | error fault => simp [Except.toOption]
  | ok found => simp [Except.toOption]

theorem mem_assetsUnder : a ∈ disk.assetsUnder kind root ↔
    disk.Holds kind root a ∧ a.name.toList.head? ≠ some '.' := by
  have hmem : ∀ names, disk.names (Location.join root.path kind.directory) = .ok names →
      (a ∈ disk.assetsUnder kind root ↔
        ∃ file ∈ disk.files (Location.join root.path kind.directory) names,
          root.asset? kind (Location.join root.path kind.directory) file = some a) := by
    intro names hnames
    unfold assetsUnder
    dsimp only
    rw [hnames]
    dsimp only
    rw [List.mem_mergeSort, List.mem_filterMap]
  cases hnames : disk.names (Location.join root.path kind.directory) with
  | error fault =>
      have hnone : disk.assetsUnder kind root = [] := by
        unfold assetsUnder
        dsimp only
        rw [hnames]
      rw [hnone]
      constructor
      · exact fun h => absurd h List.not_mem_nil
      · rintro ⟨hholds, -⟩
        obtain ⟨names, hok, -⟩ := hholds.named
        rw [hnames] at hok
        cases hok
  | ok names =>
      rw [hmem names hnames]
      constructor
      · rintro ⟨file, hfile, hasset⟩
        obtain ⟨hspace, rfl, hpath, hvisible⟩ := asset?_eq_some_iff.1 hasset
        obtain ⟨hmem, hkind⟩ := mem_files.1 hfile
        exact ⟨⟨hspace, hpath, ⟨names, hnames, hmem⟩, hpath ▸ hkind⟩, hvisible⟩
      · rintro ⟨hholds, hvisible⟩
        obtain ⟨names', hok, hmem⟩ := hholds.named
        rw [hnames] at hok
        cases hok
        have hkind := hholds.regular
        rw [hholds.path] at hkind
        exact ⟨_, mem_files.2 ⟨hmem, hkind⟩,
          asset?_eq_some_iff.2 ⟨hholds.space, rfl, hholds.path, hvisible⟩⟩

/-- Under a root those assets are listed whose files are not hidden, and the one whose file has only
the ending for a name. -/
theorem lists_assetsUnder (hnamed : disk.Named) (kind : AssetKind) (root : Root) :
    Lists (fun a => disk.Holds kind root a ∧ (¬ IsHidden (a.name ++ kind.suffix) ∨ a.name = ""))
      (disk.assetsUnder kind root) := by
  refine ⟨sorted_assetsUnder hnamed kind root, fun a => mem_assetsUnder.trans ?_⟩
  refine and_congr_right fun hholds => ?_
  rw [isHidden_append_suffix (hholds.isFileName hnamed)]
  by_cases hempty : a.name = ""
  · simp [hempty]
  · simp [hempty]

/-- The asset that a file with only the ending for a name is listed as. -/
def nameless (kind : AssetKind) (root : Root) : Asset :=
  ⟨root.space, "", Location.join (Location.join root.path kind.directory) kind.suffix⟩

theorem eq_nameless (h : disk.Holds kind root a) (hempty : a.name = "") :
    a = nameless kind root := by
  have hpath := h.path
  rw [hempty, String.empty_append] at hpath
  obtain ⟨space, name, path⟩ := a
  obtain rfl : name = "" := hempty
  obtain rfl : space = root.space := h.space
  exact congrArg (Asset.mk root.space "") hpath

/-- A list without the hidden files is that of the root if no file has only the ending for a
name. -/
theorem lists_visible_iff (hnamed : disk.Named) (kind : AssetKind) (root : Root) :
    Lists (fun a => disk.Holds kind root a ∧ ¬ IsHidden (a.name ++ kind.suffix))
        (disk.assetsUnder kind root) ↔
      ¬ disk.Holds kind root (nameless kind root) := by
  have hlists := lists_assetsUnder hnamed kind root
  constructor
  · intro hvisible hholds
    have hmem := (hlists.mem_iff _).2 ⟨hholds, .inr rfl⟩
    exact ((hvisible.mem_iff _).1 hmem).2
      ((isHidden_append_suffix (hholds.isFileName hnamed)).2 (.inr rfl))
  · refine fun hnone => hlists.congr fun a => and_congr_right fun hholds => ?_
    refine ⟨fun h => h.resolve_right fun hempty => hnone ?_, .inl⟩
    exact eq_nameless hholds hempty ▸ hholds

/-- The same files, whose directories may be enumerated in another order. -/
structure Reorders (disk disk' : Disk) : Prop where
  names : ∀ path, Option.Rel List.Perm (disk.names path).toOption (disk'.names path).toOption
  kind : disk'.kind = disk.kind

namespace Reorders

/-- A directory that is enumerated has the same names in some other order. -/
theorem exists_names (h : disk.Reorders disk') {path : String} {names' : List String}
    (hnames' : disk'.names path = .ok names') :
    ∃ names, disk.names path = .ok names ∧ names.Perm names' := by
  have hrel := h.names path
  rw [hnames'] at hrel
  rcases hnames : disk.names path with fault | names
  · rw [hnames] at hrel
    cases hrel
  · rw [hnames] at hrel
    cases hrel with
    | some hperm => exact ⟨names, rfl, hperm⟩

theorem symm (h : disk.Reorders disk') : disk'.Reorders disk where
  names path := by
    have hrel := h.names path
    revert hrel
    generalize (disk.names path).toOption = found
    generalize (disk'.names path).toOption = found'
    intro hrel
    cases hrel with
    | none => exact .none
    | some hperm => exact .some hperm.symm
  kind := h.kind.symm

theorem named (h : disk.Reorders disk') (hnamed : disk.Named) : disk'.Named where
  once path names' hnames' := by
    obtain ⟨names, hnames, hperm⟩ := h.exists_names hnames'
    exact hperm.nodup (hnamed.once path names hnames)
  fileName path names' hnames' name hname := by
    obtain ⟨names, hnames, hperm⟩ := h.exists_names hnames'
    exact hnamed.fileName path names hnames name (hperm.mem_iff.2 hname)

theorem holds (h : disk.Reorders disk') (hholds : disk'.Holds kind root a) :
    disk.Holds kind root a := by
  obtain ⟨names', hnames', hmem⟩ := hholds.named
  obtain ⟨names, hnames, hperm⟩ := h.exists_names hnames'
  exact ⟨hholds.space, hholds.path, ⟨names, hnames, hperm.mem_iff.2 hmem⟩,
    h.kind ▸ hholds.regular⟩

/-- The list of a root does not depend on the order. -/
theorem assetsUnder_eq (h : disk.Reorders disk') (hnamed : disk.Named) (kind : AssetKind)
    (root : Root) : disk'.assetsUnder kind root = disk.assetsUnder kind root := by
  have hlists' := lists_assetsUnder (h.named hnamed) kind root
  refine Lists.unique (hlists'.congr fun a => and_congr_left fun _ => ?_)
    (lists_assetsUnder hnamed kind root)
  exact ⟨h.holds, h.symm.holds⟩

end Reorders

end Disk

namespace Workspace

open Host

variable {ω : Type} {world : (q : HostRequest) → ω → Option q.Answer × ω} {w : ω} {disk : Disk}

/-- Root by root, the list has the assets for the regular files of a kind that are not hidden, each
once and in the order of their names, and one for a file that has only the kind's ending for a name.
So it has exactly those that are not hidden if no root has such a file. In whatever order the
directories are enumerated, the list is the same. -/
theorem assets_lists (hanswers : disk.Answers world w) (hnamed : disk.Named) (kind : AssetKind)
    (roots : List Root) :
    ∃ lists : List (List Asset),
      (assets kind roots).run (I := host) world w = (some lists.flatten, w) ∧
      List.Forall₂ (fun root listed => Lists (fun a => disk.Holds kind root a ∧
        (¬ IsHidden (a.name ++ kind.suffix) ∨ a.name = "")) listed) roots lists ∧
      (List.Forall₂ (fun root listed => Lists (fun a => disk.Holds kind root a ∧
          ¬ IsHidden (a.name ++ kind.suffix)) listed) roots lists ↔
        ∀ root ∈ roots, ¬ disk.Holds kind root (Disk.nameless kind root)) ∧
      ∀ (disk' : Disk), disk.Reorders disk' →
        ∀ (ω' : Type) (world' : (q : HostRequest) → ω' → Option q.Answer × ω') (w' : ω'),
          disk'.Answers world' w' →
            (assets kind roots).run (I := host) world' w' = (some lists.flatten, w') := by
  refine ⟨roots.map (disk.assetsUnder kind), ?_, ?_, ?_, ?_⟩
  · rw [run_assets hanswers, List.flatMap_def]
  · rw [List.forall₂_map_right_iff, List.forall₂_same]
    exact fun root _ => Disk.lists_assetsUnder hnamed kind root
  · rw [List.forall₂_map_right_iff, List.forall₂_same]
    exact forall₂_congr fun root _ => Disk.lists_visible_iff hnamed kind root
  · intro disk' hreorders ω' world' w' hanswers'
    rw [run_assets hanswers', List.flatMap_def]
    have heq : disk'.assetsUnder kind = disk.assetsUnder kind :=
      funext fun root => hreorders.assetsUnder_eq hnamed kind root
    rw [heq]

end Workspace

namespace Sandbox

/-- A home directory with queries: one is hidden, one is all ending, and one name is a directory. -/
def hiddenQueries : World where
  clock := 0
  environment := []
  files :=
    { entries :=
        [(["home"], .directory), (["home", "queries"], .directory),
          (["home", "queries", "b.sql"], .text "select 2"),
          (["home", "queries", ".sql"], .text "select 0"),
          (["home", "queries", ".old.sql"], .text "select 3"),
          (["home", "queries", "d.sql"], .directory),
          (["home", "queries", "a.sql"], .text "select 1")]
      here := [] }
  lines := []
  out := ""
  err := ""

end Sandbox

namespace Workspace

open Sandbox

/-- The query that is all ending is hidden and listed. -/
theorem assets_lists_hiddenQueries :
    ∃ lists : List (List Asset),
      (assets .query [⟨"system", "home"⟩]).run World.host hiddenQueries =
        (some lists.flatten, hiddenQueries) ∧
      ⟨"system", "", "home/queries/.sql"⟩ ∈ lists.flatten ∧
      ¬ List.Forall₂ (fun root listed => Lists (fun a =>
          hiddenQueries.files.disk.Holds .query root a ∧
            ¬ IsHidden (a.name ++ AssetKind.query.suffix)) listed)
        [⟨"system", "home"⟩] lists := by
  have htidy : hiddenQueries.files.Tidy := ⟨by decide, by decide⟩
  obtain ⟨lists, hrun, hlists, hvisible, -⟩ := assets_lists (Files.answers_disk hiddenQueries)
    (Files.named_disk htidy) .query [⟨"system", "home"⟩]
  have hholds : hiddenQueries.files.disk.Holds .query ⟨"system", "home"⟩
      (Disk.nameless .query ⟨"system", "home"⟩) := by
    refine ⟨rfl, rfl, ⟨["b.sql", ".sql", ".old.sql", "d.sql", "a.sql"], ?_, by decide⟩, ?_⟩
    · decide +kernel
    · decide +kernel
  refine ⟨lists, hrun, ?_, fun hclaim => hvisible.1 hclaim _ (List.mem_singleton_self _) hholds⟩
  cases hlists with
  | cons hlisted hnone =>
      refine List.mem_flatten.2 ⟨_, List.mem_cons_self, (hlisted.mem_iff _).2 ⟨hholds, .inr rfl⟩⟩

end Workspace

end Sluice
