import Sluice.Proofs.Text.Pieces
import Sluice.Workspace.Assets

/-!
# Names of files and assets

A file's name is the last part of its location (`Location.name?_join`), and its stem is what stands
before the last point (`Location.cutName_append`). An asset goes by its own name and by the stem of
its file. The stem of a script's file is at most its name and that of a query's file is its name,
but the stem of a flow's file keeps one of the two endings that the name drops: so a flow `x` also
goes by `x.flow`, which may be the name of another (`Asset.FiledIn.goesBy_cases`).
-/

namespace Sluice

/-- The name of a file or directory: it is not empty, has no slash, and leads nowhere else. -/
structure IsFileName (name : String) : Prop where
  ne_empty : name ≠ ""
  noSlash : '/' ∉ name.toList
  ne_here : name ≠ "."
  ne_up : name ≠ ".."

instance (name : String) : Decidable (IsFileName name) :=
  decidable_of_iff (name ≠ "" ∧ '/' ∉ name.toList ∧ name ≠ "." ∧ name ≠ "..")
    ⟨fun ⟨hempty, hslash, hhere, hup⟩ => ⟨hempty, hslash, hhere, hup⟩,
      fun h => ⟨h.ne_empty, h.noSlash, h.ne_here, h.ne_up⟩⟩

namespace Location

/-! ## The last part of a location -/

theorem splitAll_name {name : String} (h : IsFileName name) (directory : List Char) :
    Text.splitAll '/' (directory ++ '/' :: name.toList) =
      Text.splitAll '/' directory ++ [name.toList] := by
  rw [Text.splitAll_eq_splitOn, Text.splitAll_eq_splitOn, ← List.splitOn_eq_singleton h.noSlash]
  exact List.splitOnP_append_cons directory name.toList (by simp)

theorem isAbsolute_name {name : String} (h : IsFileName name) : isAbsolute name = false := by
  unfold isAbsolute
  cases hlist : name.toList with
  | nil => rfl
  | cons c cs =>
      have hc : c ≠ '/' := fun hc => h.noSlash (by simp [hlist, hc])
      simpa using hc

theorem join_empty {name : String} (h : IsFileName name) : join "" name = name := by
  simp [join, isAbsolute_name h]

/-- The name of a file in a directory is a piece of its own. -/
theorem split_join {directory name : String} (h : IsFileName name) :
    ∃ before, Text.split '/' (join directory name) = before ++ [name] := by
  have hrelative : isAbsolute name = false := isAbsolute_name h
  have hwhole : ∀ cs, (join directory name).toList = cs ++ '/' :: name.toList →
      ∃ before, Text.split '/' (join directory name) = before ++ [name] := by
    intro cs hcs
    refine ⟨(Text.splitAll '/' cs).map String.ofList, ?_⟩
    rw [Text.split, hcs, splitAll_name h, List.map_append]
    simp
  by_cases hempty : directory = ""
  · refine ⟨[], ?_⟩
    rw [hempty, join_empty h, Text.split, Text.splitAll_eq_splitOn, List.splitOn_eq_singleton h.noSlash]
    simp
  · by_cases hslash : directory.toList.getLast? = some '/'
    · obtain ⟨cs, hcs⟩ := List.getLast?_eq_some_iff.1 hslash
      apply hwhole cs
      simp [join, hrelative, hcs]
    · apply hwhole directory.toList
      simp [join, hrelative, hslash, hempty, toString]

theorem getLast?_parts_of_split {path name : String} (h : IsFileName name) {before : List String}
    (hsplit : Text.split '/' path = before ++ [name]) : (parts path).getLast? = some name := by
  unfold parts
  rw [hsplit]
  have hnames : (before ++ [name]).filter (fun name => !name.isEmpty) =
      before.filter (fun name => !name.isEmpty) ++ [name] := by
    rw [List.filter_append]
    congr 1
    simp [h.ne_empty]
  have hnamed : (before.filter (fun name => !name.isEmpty) ++ [name]).filter
      (fun name => name != ".") =
      (before.filter (fun name => !name.isEmpty)).filter (fun name => name != ".") ++ [name] := by
    rw [List.filter_append]
    congr 1
    simp [h.ne_here]
  dsimp only
  rw [hnames, hnamed]
  split
  · rw [← List.cons_append, List.getLast?_concat]
  · split
    · rw [← List.cons_append, List.getLast?_concat]
    · rw [List.getLast?_concat]

/-- A file in a directory goes by its name. -/
theorem name?_join {directory name : String} (h : IsFileName name) :
    name? (join directory name) = some name := by
  obtain ⟨before, hsplit⟩ : ∃ before, Text.split '/' (join directory name) = before ++ [name] :=
    split_join h
  unfold name?
  rw [getLast?_parts_of_split h hsplit]
  split
  · next heq =>
    cases heq
    exact absurd h.noSlash (by decide)
  · next heq =>
    cases heq
    exact absurd rfl h.ne_here
  · next heq =>
    cases heq
    exact absurd rfl h.ne_up
  · next heq => cases heq
  · next heq =>
    cases heq
    rfl

/-! ## Stems -/

/-- A name is cut at its last point. -/
theorem cutName_append {stem ending : String} (hstem : stem ≠ "") (hending : '.' ∉ ending.toList) :
    cutName (stem ++ "." ++ ending) = (stem, some ending) := by
  have hkeep : ∀ c ∈ ending.toList.reverse, (c != '.') = true := by
    intro c hc
    have hne : c ≠ '.' := fun heq => hending (by simpa [heq] using hc)
    simpa using hne
  have hreverse : (stem ++ "." ++ ending).toList.reverse =
      ending.toList.reverse ++ '.' :: stem.toList.reverse := by
    simp
  unfold cutName
  dsimp only
  rw [hreverse, List.takeWhile_append_of_pos hkeep, List.dropWhile_append_of_pos hkeep]
  simp [hstem]

/-- The stem of a name is the name, or stands before a point in it. -/
theorem cutName_cases (name : String) :
    (cutName name).1 = name ∨ ∃ ending, name = (cutName name).1 ++ "." ++ ending := by
  unfold cutName
  dsimp only
  split
  · exact .inl rfl
  · next hstem =>
    refine .inr ⟨String.ofList (name.toList.reverse.takeWhile (· != '.')).reverse, ?_⟩
    have hparts := List.takeWhile_append_dropWhile (p := (· != '.')) (l := name.toList.reverse)
    have hfirst := List.head?_dropWhile_not (· != '.') name.toList.reverse
    generalize name.toList.reverse.takeWhile (· != '.') = behind at *
    generalize name.toList.reverse.dropWhile (· != '.') = rest at *
    cases rest with
    | nil => exact absurd rfl hstem
    | cons c before =>
        obtain rfl : c = '.' := by simpa using hfirst
        have hname := congrArg List.reverse hparts
        apply String.toList_injective
        simpa using hname.symm

end Location

theorem lt_append (s : String) {t : String} (h : t ≠ "") : s < s ++ t := by
  rw [String.lt_iff, String.toList_append]
  have hnil : s.toList ++ [] < s.toList ++ t.toList := by
    apply List.append_left_lt
    cases ht : t.toList with
    | nil => exact absurd (by simpa using ht) h
    | cons c cs => exact List.nil_lt_cons c cs
  rwa [List.append_nil] at hnil

/-! ## What assets go by -/

/-- The ending that names of a kind drop. -/
def AssetKind.suffix (kind : AssetKind) : String :=
  kind.suffix?.getD ""

theorem AssetKind.nameOf?_iff {kind : AssetKind} {file name : String} :
    kind.nameOf? file = some name ↔ file = name ++ kind.suffix := by
  unfold nameOf? suffix
  cases kind.suffix? with
  | none => simp
  | some suffix =>
      dsimp only [Option.getD_some]
      rw [Option.map_eq_some_iff]
      constructor
      · rintro ⟨cs, hcs, rfl⟩
        apply String.toList_injective
        simpa using Text.stripTail?_eq_some_iff.1 hcs
      · rintro rfl
        exact ⟨name.toList, Text.stripTail?_eq_some_iff.2 (by simp), by simp⟩

/-- The file of an asset in a directory: it has the name of the asset with the ending of the kind,
and is not hidden. -/
structure Asset.FiledIn (directory : String) (kind : AssetKind) (a : Asset) : Prop where
  fileName : IsFileName (a.name ++ kind.suffix)
  path : a.path = Location.join directory (a.name ++ kind.suffix)
  visible : a.name.toList.head? ≠ some '.'

namespace Asset

variable {directory : String} {kind : AssetKind} {a : Asset}

theorem FiledIn.stem?_path (h : a.FiledIn directory kind) :
    Location.stem? a.path = some (Location.cutName (a.name ++ kind.suffix)).1 := by
  rw [h.path, Location.stem?, Location.name?_join h.fileName]
  rfl

theorem FiledIn.goesBy_iff (h : a.FiledIn directory kind) {name : String} :
    a.goesBy name = true ↔
      a.name = name ∨ (Location.cutName (a.name ++ kind.suffix)).1 = name := by
  unfold goesBy
  rw [h.stem?_path, Bool.or_eq_true, beq_iff_eq, beq_iff_eq, Option.some.injEq]

/-- The stem of a flow's file has the first half of the ending. -/
theorem cutName_flow (name : String) :
    (Location.cutName (name ++ AssetKind.flow.suffix)).1 = name ++ ".flow" := by
  have hcut : Location.cutName (name ++ ".flow" ++ "." ++ "yaml") =
      (name ++ ".flow", some "yaml") := Location.cutName_append (by simp) (by decide)
  rw [String.append_assoc, String.append_assoc] at hcut
  exact congrArg Prod.fst hcut

/-- The stem of a query's file is the query's name. -/
theorem cutName_query {name : String} (h : name ≠ "") :
    (Location.cutName (name ++ AssetKind.query.suffix)).1 = name := by
  have hcut : Location.cutName (name ++ "." ++ "sql") = (name, some "sql") :=
    Location.cutName_append h (by decide)
  rw [String.append_assoc] at hcut
  exact congrArg Prod.fst hcut

/-- A flow also goes by its name with the first half of the ending. -/
theorem FiledIn.goesBy_flow (h : a.FiledIn directory .flow) :
    a.goesBy (a.name ++ ".flow") = true := by
  rw [h.goesBy_iff, cutName_flow]
  exact .inr rfl

/-- Apart from that, an asset goes by its own name and by names that come before it. -/
theorem FiledIn.goesBy_cases (h : a.FiledIn directory kind) {name : String}
    (hname : name.toList.head? ≠ some '.') (hgoes : a.goesBy name = true) :
    a.name = name ∨ name < a.name ∨ kind = .flow ∧ name = a.name ++ ".flow" := by
  rw [h.goesBy_iff] at hgoes
  rcases hgoes with hown | hstem
  · exact .inl hown
  · cases kind with
    | flow =>
        rw [cutName_flow] at hstem
        exact .inr (.inr ⟨rfl, hstem.symm⟩)
    | query =>
        by_cases hempty : a.name = ""
        · -- a file `.sql` is all stem, and no visible asset has its name
          rw [hempty] at hstem
          rw [← hstem] at hname
          exact absurd (by decide) hname
        · rw [cutName_query hempty] at hstem
          exact .inl hstem
    | script =>
        have hsuffix : a.name ++ AssetKind.script.suffix = a.name := String.append_empty
        rw [hsuffix] at hstem
        rcases Location.cutName_cases a.name with hwhole | ⟨ending, hending⟩
        · exact .inl (hwhole ▸ hstem)
        · rw [hstem, String.append_assoc] at hending
          rw [hending]
          exact .inr (.inl (lt_append name (by simp)))

end Asset

end Sluice
