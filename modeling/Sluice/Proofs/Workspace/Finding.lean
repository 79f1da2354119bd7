import Mathlib.Data.List.Nodup
import Sluice.Keyed
import Sluice.Proofs.Running
import Sluice.Proofs.Workspace.Names
import Sluice.Sandbox.World

/-!
# Finding what is listed

An asset is addressed by its space and its name. On files that nobody changes the address of a
listed asset leads to a listed asset: to the one that is meant, unless there is a flow that shadows
it (`Workspace.find_listed`). An asset that goes by a name without having it stands behind the asset
that has it, as names are in order; only flows also go by names that come behind their own.

* `Disk` : what can be seen of files;
* `Keyed.find?_of_least` : the first of those that have some property;
* `Workspace.run_search` : what a search comes to.
-/

namespace Sluice

/-- The first in a sorted list that has some property is the least that has it. -/
theorem Keyed.find?_of_least {α : Type} {key : α → String} {p : α → Bool} {x : α} {xs : List α}
    (h : Sorted key xs) (hx : x ∈ xs) (hp : p x = true)
    (hleast : ∀ y ∈ xs, p y = true → ¬ key y < key x) : xs.find? p = some x := by
  obtain ⟨before, after, rfl⟩ := List.append_of_mem hx
  rw [List.find?_eq_some_iff_append]
  refine ⟨hp, before, after, rfl, fun y hy => ?_⟩
  have hlt : key y < key x := (List.pairwise_append.1 h).2.2 y hy x List.mem_cons_self
  have hno : p y ≠ true := fun hpy => hleast y (List.mem_append_left _ hy) hpy hlt
  simpa using hno

/-- A flow shadows another in its space if the other's name is its own with an ending `.flow`, as
the stem of its file is. -/
def Asset.Shadows (b : Asset) (kind : AssetKind) (a : Asset) : Prop :=
  kind = .flow ∧ b.space = a.space ∧ a.name = b.name ++ ".flow"

/-! ## What can be seen of files -/

/-- The names in directories, and what stands at locations. -/
structure Disk where
  names : String → Except FileFault (List String)
  kind : String → Except FileFault FileKind

namespace Disk

/-- A machine on which the files are as they are seen, and stay so while they are looked at. -/
structure Answers {ω : Type} (disk : Disk) (world : (q : HostRequest) → ω → Option q.Answer × ω)
    (w : ω) : Prop where
  names : ∀ path, world (.listDirectory path) w = (some (disk.names path), w)
  kind : ∀ path, world (.kindOf path) w = (some (disk.kind path), w)

/-- A directory has names of files, each once. -/
structure Named (disk : Disk) : Prop where
  once : ∀ path names, disk.names path = .ok names → names.Nodup
  fileName : ∀ path names, disk.names path = .ok names → ∀ name ∈ names, IsFileName name

variable (disk : Disk)

def files (directory : String) (names : List String) : List String :=
  names.filter fun name => (disk.kind (Location.join directory name)).toOption == some .file

def assetsUnder (kind : AssetKind) (root : Root) : List Asset :=
  let directory := Location.join root.path kind.directory
  match disk.names directory with
  | .error _ => []
  | .ok names =>
    ((disk.files directory names).filterMap (root.asset? kind directory)).mergeSort
      fun a b => a.name ≤ b.name

/-- The first asset that goes by a name, in one space or in all. -/
def search (kind : AssetKind) (space : Option String) (name : String) (roots : List Root) :
    Option Asset :=
  roots.findSome? fun root =>
    if space.any (· != root.space) then none
    else (disk.assetsUnder kind root).find? (Asset.goesBy name)

end Disk

namespace Disk

variable {disk : Disk} {kind : AssetKind} {root : Root} {a : Asset}

theorem asset?_eq_some_iff {directory file : String} :
    root.asset? kind directory file = some a ↔
      a.space = root.space ∧ file = a.name ++ kind.suffix ∧ a.path = Location.join directory file ∧
        a.name.toList.head? ≠ some '.' := by
  unfold Root.asset?
  constructor
  · intro h
    split at h
    · cases h
    · next name hname =>
      split at h
      · cases h
      · next hvisible =>
        cases h
        exact ⟨rfl, AssetKind.nameOf?_iff.1 hname, rfl, by simpa using hvisible⟩
  · rintro ⟨hspace, hfile, hpath, hvisible⟩
    have hname : kind.nameOf? file = some a.name := AssetKind.nameOf?_iff.2 hfile
    rw [hname, ← hspace, ← hpath]
    dsimp only
    rw [if_neg (by simpa using hvisible)]

/-- Assets are files in the directory of their kind. -/
theorem filedIn_of_mem (hnamed : disk.Named) (h : a ∈ disk.assetsUnder kind root) :
    a.space = root.space ∧ a.FiledIn (Location.join root.path kind.directory) kind := by
  unfold assetsUnder at h
  dsimp only at h
  split at h
  · cases h
  · next names hnames =>
    rw [List.mem_mergeSort, List.mem_filterMap] at h
    obtain ⟨file, hfile, hasset⟩ := h
    obtain ⟨hspace, rfl, hpath, hvisible⟩ := asset?_eq_some_iff.1 hasset
    have hmem := (List.mem_filter.1 hfile).1
    exact ⟨hspace, hnamed.fileName _ names hnames _ hmem, hpath, hvisible⟩

/-- The assets under a root are in the order of their names, which are all different. -/
theorem sorted_assetsUnder (hnamed : disk.Named) (kind : AssetKind) (root : Root) :
    Keyed.Sorted Asset.name (disk.assetsUnder kind root) := by
  unfold assetsUnder
  dsimp only
  split
  · exact .nil
  · next names hnames =>
    generalize Location.join root.path kind.directory = directory at hnames
    have hdistinct : ((disk.files directory names).filterMap (root.asset? kind directory)).Pairwise
        fun a b => a.name ≠ b.name := by
      rw [List.pairwise_filterMap]
      have hfiles : (disk.files directory names).Pairwise (· ≠ ·) :=
        (hnamed.once directory names hnames).sublist List.filter_sublist
      refine hfiles.imp fun {file file'} hne a ha b hb hab => hne ?_
      rw [(asset?_eq_some_iff.1 ha).2.1, (asset?_eq_some_iff.1 hb).2.1, hab]
    exact Keyed.sorted_mergeSort hdistinct

/-- What goes by an asset's name does not stand before it, unless it shadows it. -/
theorem not_lt_or_shadows (hnamed : disk.Named) (h : a ∈ disk.assetsUnder kind root) {c : Asset}
    (hc : c ∈ disk.assetsUnder kind root) (hgoes : c.goesBy a.name = true) :
    ¬ c.name < a.name ∨ c.Shadows kind a := by
  obtain ⟨hspace, hfiled⟩ := filedIn_of_mem hnamed h
  obtain ⟨hspace', hfiled'⟩ := filedIn_of_mem hnamed hc
  rcases hfiled'.goesBy_cases hfiled.visible hgoes with hsame | hbehind | ⟨hflow, hname⟩
  · exact .inl (hsame ▸ String.lt_irrefl c.name)
  · exact .inl (String.lt_asymm hbehind)
  · exact .inr ⟨hflow, hspace'.trans hspace.symm, hname⟩

/-- What a name leads to under one root. -/
theorem find?_assetsUnder (hnamed : disk.Named) (h : a ∈ disk.assetsUnder kind root) :
    ∃ b ∈ disk.assetsUnder kind root,
      (disk.assetsUnder kind root).find? (Asset.goesBy a.name) = some b ∧
      (b.Shadows kind a ∨ b = a ∧ ∀ c ∈ disk.assetsUnder kind root, ¬ c.Shadows kind a) := by
  have hsorted := sorted_assetsUnder hnamed kind root
  by_cases hshadow : ∃ b ∈ disk.assetsUnder kind root, b.Shadows kind a
  · -- the flow that shadows comes before all others that go by the name
    obtain ⟨b, hb, hshadows⟩ := hshadow
    obtain ⟨rfl, hspace, hname⟩ := id hshadows
    have hgoes : b.goesBy a.name = true := hname ▸ (filedIn_of_mem hnamed hb).2.goesBy_flow
    have hlt : b.name < a.name := hname ▸ lt_append b.name (by decide)
    refine ⟨b, hb, Keyed.find?_of_least hsorted hb hgoes ?_, .inl hshadows⟩
    intro c hc hgoes hbefore
    rcases not_lt_or_shadows hnamed h hc hgoes with hnot | ⟨-, -, hname'⟩
    · exact hnot (String.lt_trans hbefore hlt)
    · have hsame : b.name = c.name := by simpa using hname.symm.trans hname'
      exact String.lt_irrefl _ (hsame ▸ hbefore)
  · have hnone : ∀ c ∈ disk.assetsUnder kind root, ¬ c.Shadows kind a :=
      fun c hc hshadows => hshadow ⟨c, hc, hshadows⟩
    have hgoes : a.goesBy a.name = true := (filedIn_of_mem hnamed h).2.goesBy_iff.2 (.inl rfl)
    refine ⟨a, h, Keyed.find?_of_least hsorted h hgoes ?_, .inr ⟨rfl, hnone⟩⟩
    intro c hc hgoes hbefore
    rcases not_lt_or_shadows hnamed h hc hgoes with hnot | hshadows
    · exact hnot hbefore
    · exact hnone c hc hshadows

/-- Where spaces are all different, a search in one of them is one under its root. -/
theorem search_space {roots : List Root} (hdistinct : roots.Pairwise fun r s => r.space ≠ s.space)
    (hroot : root ∈ roots) (kind : AssetKind) (name : String) :
    disk.search kind (some root.space) name roots =
      (disk.assetsUnder kind root).find? (Asset.goesBy name) := by
  induction roots with
  | nil => cases hroot
  | cons first roots ih =>
      obtain ⟨hfirst, hrest⟩ := List.pairwise_cons.1 hdistinct
      rw [search, List.findSome?_cons]
      rcases List.mem_cons.1 hroot with rfl | hroot
      · -- behind the root its space does not occur again
        have hnone : disk.search kind (some root.space) name roots = none := by
          rw [search, List.findSome?_eq_none_iff]
          intro other hother
          have hne : root.space ≠ other.space := hfirst other hother
          simp [hne]
        rw [if_neg (by simp)]
        cases (disk.assetsUnder kind root).find? (Asset.goesBy name) with
        | none => exact hnone
        | some b => rfl
      · have hne : root.space ≠ first.space := fun heq => hfirst root hroot heq.symm
        rw [if_pos (by simpa using hne)]
        exact ih hrest hroot

end Disk

namespace Workspace

open Host

variable {ω : Type} {world : (q : HostRequest) → ω → Option q.Answer × ω} {w : ω} {disk : Disk}

theorem run_kind? (h : disk.Answers world w) (path : String) :
    (kind? path).run (I := host) world w = (some (disk.kind path).toOption, w) := by
  exact Host.run_bind_of_eq world ((Host.run_request world (.kindOf path) w).trans (h.kind path)) _

theorem run_filesAmong (h : disk.Answers world w) (directory : String) (names : List String) :
    (filesAmong directory names).run (I := host) world w =
      (some (disk.files directory names), w) := by
  induction names with
  | nil => rfl
  | cons name names ih =>
      refine (Host.run_bind_of_eq world (run_kind? h _) _).trans ?_
      refine (Host.run_bind_of_eq world ih _).trans ?_
      have hfiles : disk.files directory (name :: names) =
          if (disk.kind (Location.join directory name)).toOption == some .file then
            name :: disk.files directory names
          else disk.files directory names := List.filter_cons
      rw [hfiles]
      rfl

theorem run_assetsUnder (h : disk.Answers world w) (kind : AssetKind) (root : Root) :
    (assetsUnder kind root).run (I := host) world w = (some (disk.assetsUnder kind root), w) := by
  have hnames := h.names (Location.join root.path kind.directory)
  rw [← Host.run_request world] at hnames
  refine (Host.run_bind_of_eq world hnames _).trans ?_
  unfold Disk.assetsUnder
  dsimp only
  cases disk.names (Location.join root.path kind.directory) with
  | error fault => rfl
  | ok names => exact Host.run_bind_of_eq world (run_filesAmong h _ names) _

theorem run_assets (h : disk.Answers world w) (kind : AssetKind) (roots : List Root) :
    (assets kind roots).run (I := host) world w =
      (some (roots.flatMap (disk.assetsUnder kind)), w) := by
  induction roots with
  | nil => rfl
  | cons root roots ih =>
      refine (Host.run_bind_of_eq world (run_assetsUnder h kind root) _).trans ?_
      exact Host.run_bind_of_eq world ih _

theorem run_search (h : disk.Answers world w) (kind : AssetKind) (space : Option String)
    (name : String) (roots : List Root) :
    (search kind space name roots).run (I := host) world w =
      (some (disk.search kind space name roots), w) := by
  induction roots with
  | nil => rfl
  | cons root roots ih =>
      unfold search Disk.search
      rw [List.findSome?_cons]
      split
      · exact ih
      · refine (Host.run_bind_of_eq world (run_assetsUnder h kind root) _).trans ?_
        cases (disk.assetsUnder kind root).find? (Asset.goesBy name) with
        | none => exact ih
        | some a => rfl

/-! ## Addresses -/

theorem splitOnce?_address {space : String} (h : IsFileName space) (name : String) :
    Text.splitOnce? '/' (space ++ "/" ++ name) = some (space, name) := by
  have hcut := Text.cut?_append h.noSlash name.toList
  simp [Text.splitOnce?, hcut]

/-- The address of an asset is no location, as its space is a name. -/
theorem isExplicit_address {space : String} (h : IsFileName space) (name : String) :
    isExplicit (space ++ "/" ++ name) = false := by
  refine Bool.eq_false_iff.2 fun hexplicit => ?_
  obtain ⟨lead, hlead, hprefix⟩ := List.any_eq_true.1 hexplicit
  obtain ⟨rest, hrest⟩ := List.isPrefixOf_iff_prefix.1 hprefix
  have hspace : ∀ front : String, '/' ∉ front.toList → lead = front ++ "/" → space = front := by
    rintro front hfront rfl
    have hsame : front.toList ++ '/' :: rest = space.toList ++ '/' :: name.toList := by
      simpa using hrest
    have hcut := Text.cut?_append hfront rest
    rw [hsame, Text.cut?_append h.noSlash, Option.some.injEq, Prod.mk.injEq] at hcut
    exact String.toList_injective hcut.1
  rw [List.mem_cons, List.mem_cons, List.mem_singleton] at hlead
  rcases hlead with hlead | hlead | hlead
  · exact h.ne_empty (hspace "" (by decide) hlead)
  · exact h.ne_here (hspace "." (by decide) hlead)
  · exact h.ne_up (hspace ".." (by decide) hlead)

/-- An address leads to what a search in the space comes to. -/
theorem run_find (h : disk.Answers world w) {space : String} (hspace : IsFileName space)
    (kind : AssetKind) (name : String) (roots : List Root) {a : Asset}
    (hfound : disk.search kind (some space) name roots = some a) :
    (find kind roots (space ++ "/" ++ name)).run (I := host) world w = (some (.ok a), w) := by
  unfold find
  rw [isExplicit_address hspace, splitOnce?_address hspace]
  refine (Host.run_bind_of_eq world (run_search h kind (some space) name roots) _).trans ?_
  rw [hfound]
  rfl

/-- What is listed is found: the address of a listed asset leads to an asset of the list, to the one
that is meant or, in its stead, to a flow that shadows it. -/
theorem find_listed (hanswers : disk.Answers world w) (hnamed : disk.Named) {roots : List Root}
    (hdistinct : roots.Pairwise fun r s => r.space ≠ s.space)
    (hspaces : ∀ root ∈ roots, IsFileName root.space) (kind : AssetKind) :
    ∃ listed, (assets kind roots).run (I := host) world w = (some listed, w) ∧
      ∀ a ∈ listed, ∃ b ∈ listed,
        (find kind roots (a.space ++ "/" ++ a.name)).run (I := host) world w = (some (.ok b), w) ∧
        (b.Shadows kind a ∨ b = a ∧ ∀ c ∈ listed, ¬ c.Shadows kind a) := by
  refine ⟨_, run_assets hanswers kind roots, fun a ha => ?_⟩
  obtain ⟨root, hroot, hunder⟩ := List.mem_flatMap.1 ha
  obtain ⟨b, hb, hfind, hresult⟩ := Disk.find?_assetsUnder hnamed hunder
  have hspace := (Disk.filedIn_of_mem hnamed hunder).1
  rw [← Disk.search_space hdistinct hroot, ← hspace] at hfind
  have hrun := run_find hanswers (hspace ▸ hspaces root hroot) kind a.name roots hfind
  refine ⟨b, List.mem_flatMap.2 ⟨root, hroot, hb⟩, hrun, hresult.imp id ?_⟩
  rintro ⟨rfl, hnone⟩
  refine ⟨rfl, fun c hc hshadows => ?_⟩
  -- what shadows an asset is under the same root, since spaces are different
  obtain ⟨root', hroot', hunder'⟩ := List.mem_flatMap.1 hc
  have hspace' := (Disk.filedIn_of_mem hnamed hunder').1
  have hsame : root' = root :=
    List.inj_on_of_nodup_map (List.pairwise_map.2 hdistinct) hroot' hroot
      (hspace'.symm.trans (hshadows.2.1.trans hspace))
  exact hnone c (hsame ▸ hunder') hshadows

end Workspace

/-! ## Files in memory -/

namespace Sandbox.Files

/-- What can be seen of files in memory. -/
def disk (fs : Files) : Disk :=
  ⟨fs.list, fun path => (fs.find path).map fun found => found.2.kind⟩

/-- Each place is there once, and has the name of a file. -/
structure Tidy (fs : Files) : Prop where
  once : (fs.entries.map Prod.fst).Nodup
  fileName : ∀ place ∈ fs.entries.map Prod.fst, ∀ name ∈ place.getLast?, IsFileName name

/-- The name that a place has in a directory, if it is there. -/
def nameIn? (spot place : Place) : Option String :=
  match place.getLast? with
  | some name => if place.dropLast == spot then some name else none
  | none => none

theorem nameIn?_eq_some {spot place : Place} {name : String} (h : nameIn? spot place = some name) :
    place = spot ++ [name] := by
  unfold nameIn? at h
  split at h
  · next last hlast =>
    obtain ⟨before, rfl⟩ := List.getLast?_eq_some_iff.1 hlast
    split at h
    · next hbefore =>
      cases h
      simpa using hbefore
    · cases h
  · cases h

theorem names_disk {fs : Files} {path : String} {names : List String}
    (h : fs.disk.names path = .ok names) :
    ∃ spot, names = (fs.entries.map Prod.fst).filterMap (nameIn? spot) := by
  change fs.list path = .ok names at h
  unfold list at h
  split at h
  · cases h
  · next spot _ =>
    cases h
    refine ⟨spot, ?_⟩
    rw [List.filterMap_map]
    rfl
  · cases h

theorem named_disk {fs : Files} (h : fs.Tidy) : fs.disk.Named := by
  refine ⟨fun path names hnames => ?_, fun path names hnames name hname => ?_⟩
  · obtain ⟨spot, rfl⟩ := names_disk hnames
    rw [List.Nodup, List.pairwise_filterMap]
    refine h.once.imp fun {place place'} hne name hname name' hname' hsame => hne ?_
    rw [nameIn?_eq_some hname, nameIn?_eq_some hname', hsame]
  · obtain ⟨spot, rfl⟩ := names_disk hnames
    obtain ⟨place, hplace, hname⟩ := List.mem_filterMap.1 hname
    have hlast : place.getLast? = some name := by
      rw [nameIn?_eq_some hname, List.getLast?_concat]
    exact h.fileName place hplace name hlast

theorem answers_disk (w : World) : w.files.disk.Answers World.host w where
  names _ := rfl
  kind _ := rfl

end Sandbox.Files

namespace Sandbox

/-- A flow, and one that has its name with the first half of the ending. -/
def plainFlow : Asset := ⟨"system", "x", "home/flows/x.flow.yaml"⟩
def dottedFlow : Asset := ⟨"system", "x.flow", "home/flows/x.flow.flow.yaml"⟩

def twoFlows : World where
  clock := 0
  environment := []
  files :=
    { entries :=
        [(["home"], .directory), (["home", "flows"], .directory),
          (["home", "flows", "x.flow.yaml"], .text "a"),
          (["home", "flows", "x.flow.flow.yaml"], .text "b")]
      here := [] }
  lines := []
  out := ""
  err := ""

theorem assetsUnder_twoFlows :
    twoFlows.files.disk.assetsUnder .flow ⟨"system", "home"⟩ = [plainFlow, dottedFlow] := by
  have hnames : twoFlows.files.disk.names (Location.join "home" AssetKind.flow.directory) =
      .ok ["x.flow.yaml", "x.flow.flow.yaml"] := by decide +kernel
  have hfound : (twoFlows.files.disk.files (Location.join "home" AssetKind.flow.directory)
      ["x.flow.yaml", "x.flow.flow.yaml"]).filterMap
        (Root.asset? ⟨"system", "home"⟩ .flow (Location.join "home" AssetKind.flow.directory)) =
      [plainFlow, dottedFlow] := by decide +kernel
  unfold Disk.assetsUnder
  dsimp only
  rw [hnames]
  dsimp only
  rw [hfound]
  exact List.mergeSort_of_pairwise (by decide)

end Sandbox

namespace Workspace

open Sandbox

theorem find_listed_twoFlows :
    (find .flow [⟨"system", "home"⟩] "system/x.flow").run World.host twoFlows =
      (some (.ok plainFlow), twoFlows) := by
  have htidy : twoFlows.files.Tidy := ⟨by decide, by decide⟩
  have hanswers := Files.answers_disk twoFlows
  obtain ⟨listed, hlisted, hfind⟩ := find_listed hanswers (Files.named_disk htidy)
    (List.pairwise_singleton _ ⟨"system", "home"⟩) (by decide) .flow
  rw [run_assets hanswers] at hlisted
  obtain rfl : listed = [plainFlow, dottedFlow] := by
    simpa [assetsUnder_twoFlows] using hlisted.symm
  obtain ⟨b, hb, hrun, hshadows | ⟨-, hnone⟩⟩ := hfind dottedFlow (by decide)
  · obtain rfl | rfl : b = plainFlow ∨ b = dottedFlow := by simpa using hb
    · exact hrun
    · exact absurd hshadows.2.2 (by decide)
  · have hshadows : plainFlow.Shadows .flow dottedFlow := ⟨rfl, rfl, rfl⟩
    exact absurd hshadows (hnone plainFlow (by decide))

end Workspace

end Sluice
