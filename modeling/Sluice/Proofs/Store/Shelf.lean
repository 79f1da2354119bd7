import Mathlib.Logic.Function.Basic
import Sluice.Keyed
import Sluice.Proofs.Running
import Sluice.Proofs.Token.Words
import Sluice.Proofs.Value.Reread
import Sluice.Proofs.Workspace.Names
import Sluice.Store

/-!
# Saved sessions as a map

In a directory of which nobody else makes use, saved sessions are a finite map from identifiers to
documents: saving, loading, listing and deleting answer as the map does, whatever the calls and
their order (`Store.answers_as_shelf`).

* `KeepsDirectory` : files in a directory, on a machine that does what it is asked;
* `Store.Call`, `Store.Call.answer` : the calls, and what the map answers;
* `Store.Holds` : a directory that holds what the map does;
* `Store.Call.run_perform` : one call in such a directory.
-/

namespace Sluice

/-! ## Values by name -/

namespace Keyed

variable {α : Type}

theorem value?_insert (name : String) (a : α) (entries : List (String × α)) (n : String) :
    value? n (insert Prod.fst (name, a) entries) =
      Function.update (fun n => value? n entries) name (some a) n := by
  by_cases h : n = name
  · subst h
    rw [value?_insert_self, Function.update_self]
  · rw [value?_insert_of_ne h, Function.update_of_ne h]

theorem value?_erase (name : String) (entries : List (String × α)) (n : String) :
    value? n (erase Prod.fst name entries) =
      Function.update (fun n => value? n entries) name none n := by
  by_cases h : n = name
  · subst h
    rw [value?, find?_erase_self, Function.update_self]
    rfl
  · rw [value?_erase_of_ne h, Function.update_of_ne h]

end Keyed

/-! ## A directory -/

/-- What is asked for, if it is there. -/
def FileFault.orNotFound {α : Type} : Option α → Except FileFault α
  | some a => .ok a
  | none => .error .notFound

/-- A machine that does what it is asked with the files in a directory. `shows` says what the
directory holds, if it is there. -/
structure KeepsDirectory {ω : Type} (world : (q : HostRequest) → ω → Option q.Answer × ω)
    (directory : String) (shows : ω → Option (String → Option String) → Prop) : Prop where
  make : ∀ {w files}, shows w files → ∃ w',
    world (.makeDirectory directory) w = (some (.ok ()), w') ∧
    shows w' (some (files.getD fun _ => none))
  write : ∀ {w files name} (text : String), IsFileName name → shows w (some files) → ∃ w',
    world (.writeFile (Location.join directory name) text) w = (some (.ok ()), w') ∧
    shows w' (some (Function.update files name (some text)))
  read : ∀ {w files name}, IsFileName name → shows w files → ∃ w',
    world (.readFile (Location.join directory name)) w =
      (some (FileFault.orNotFound (files.bind (· name))), w') ∧
    shows w' files
  remove : ∀ {w files name}, IsFileName name → shows w files → ∃ w',
    world (.removeFile (Location.join directory name)) w =
      (some (FileFault.orNotFound ((files.bind (· name)).map fun _ => ())), w') ∧
    shows w' (files.map fun files => Function.update files name none)
  list : ∀ {w files}, shows w files → ∃ names w',
    world (.listDirectory directory) w =
      (some (FileFault.orNotFound (files.map fun _ => names)), w') ∧
    shows w' files ∧
    names.Nodup ∧ ∀ name, name ∈ names ↔ files.bind (· name) ≠ none

/-! ## Documents -/

/-- The document is read as it is from its own text. -/
def Value.ComesBack (v : Value) : Prop := read v.pretty = .ok v

/-- So it is with documents that are at most 127 levels deep if their doubles are read as they are
written. -/
theorem Value.comesBack_iff {v : Value} (h : v.Distinct) :
    v.ComesBack ↔ v.depth ≤ 127 ∧ v.DoublesLast := by
  rw [← reread_eq_some_self_iff 127 h, ← read?_pretty, ← toOption_read, ComesBack]
  cases read v.pretty with
  | error fault => exact ⟨nofun, nofun⟩
  | ok document =>
      simp [Except.toOption]

namespace Store

/-! ## Calls -/

/-- A call on the store. -/
inductive Call where
  | save (name : String) (document : Value)
  | load (name : String)
  | list
  | delete (name : String)

inductive Reply where
  | done
  | document (v : Value)
  | names (ns : List String)

abbrev Shelf := List (String × Value)

def badName (name : String) : ServiceFault :=
  .failed s!"invalid session name '{name}' (letters, digits, '_' and '-' only)"

/-- What is there under a name, if anything is. -/
def orMissing {α : Type} (name : String) : Option α → Except ServiceFault α
  | some a => .ok a
  | none => .error (.missing s!"session '{name}'")

def perform (store : Store) : Call → Act host (Except ServiceFault Reply)
  | .save name document => do return (← store.save name document).map fun () => .done
  | .load name => do return (← store.load name).map .document
  | .list => do return (← store.list).map .names
  | .delete name => do return (← store.delete name).map fun () => .done

def performAll (store : Store) : List Call → Act host (List (Except ServiceFault Reply))
  | [] => return []
  | call :: calls => do
    let reply ← store.perform call
    return reply :: (← store.performAll calls)

namespace Call

def name? : Call → Option String
  | save name _ | load name | delete name => some name
  | list => none

/-- The fault of a call whose name is no identifier. -/
def fault? (call : Call) : Option ServiceFault :=
  (call.name?.filter fun name => !Text.isIdentifier name).map badName

/-- What the map makes of a call: a document is found under its name until another is saved there
or it is deleted, and the names are listed in order. -/
def onShelf (shelf : Shelf) : Call → Except ServiceFault Reply × Shelf
  | save name document => (.ok .done, Keyed.insert Prod.fst (name, document) shelf)
  | load name => ((orMissing name (Keyed.value? name shelf)).map .document, shelf)
  | list => (.ok (.names (shelf.map Prod.fst)), shelf)
  | delete name =>
    ((orMissing name (Keyed.value? name shelf)).map fun _ => .done, Keyed.erase Prod.fst name shelf)

/-- What the map answers. -/
def answer (shelf : Shelf) (call : Call) : Except ServiceFault Reply × Shelf :=
  match call.fault? with
  | some fault => (.error fault, shelf)
  | none => call.onShelf shelf

def answers : List Call → Shelf → List (Except ServiceFault Reply) × Shelf
  | [], shelf => ([], shelf)
  | call :: calls, shelf =>
    let (reply, shelf) := call.answer shelf
    let (replies, shelf) := answers calls shelf
    (reply :: replies, shelf)

end Call

/-! ## Names of files -/

def fileName (name : String) : String := s!"{name}.json"

theorem fileName_injective {name name' : String} (h : fileName name = fileName name') :
    name = name' :=
  (String.append_left_inj ".json").1 h

section

variable {name : String}

theorem ne_empty_of_isIdentifier (h : Text.isIdentifier name = true) : name ≠ "" := by
  rintro rfl
  cases h

theorem isFileName_fileName (h : Text.isIdentifier name = true) : IsFileName (fileName name) := by
  have hlength : 5 ≤ (fileName name).length := by
    have hsum : (fileName name).length = name.length + 5 := String.length_append name ".json"
    omega
  have hne : ∀ short : String, short.length < 5 → fileName name ≠ short := by
    rintro short hshort rfl
    omega
  refine ⟨hne "" (by decide), fun hslash => ?_, hne "." (by decide), hne ".." (by decide)⟩
  have hparts : '/' ∈ name.toList ++ ".json".toList := by
    rw [← String.toList_append]
    exact hslash
  rcases List.mem_append.1 hparts with hin | hin
  · exact absurd (Token.isNameChar_of_isIdentifierChars h '/' hin) (by decide)
  · exact absurd hin (by decide)

theorem nameOf?_fileName (h : Text.isIdentifier name = true) :
    nameOf? (fileName name) = some name := by
  have hname : Location.name? (fileName name) = some (fileName name) := by
    have hjoin := Location.join_empty (isFileName_fileName h)
    exact (congrArg Location.name? hjoin).symm.trans (Location.name?_join (isFileName_fileName h))
  have hcut : Location.cutName (fileName name) = (name, some "json") := by
    have hwhole : fileName name = name ++ "." ++ "json" := by
      rw [String.append_assoc]
      rfl
    rw [hwhole]
    exact Location.cutName_append (ne_empty_of_isIdentifier h) (by decide)
  unfold nameOf? Location.ending? Location.stem?
  rw [hname, Option.bind_some, Option.map_some, hcut]
  rfl

theorem file_of_isIdentifier (store : Store) (h : Text.isIdentifier name = true) :
    store.file name = .ok (Location.join store.directory (fileName name)) :=
  if_pos h

end

/-! ## What a directory holds -/

/-- A directory holds, in files of their own, exactly the documents of a map. -/
structure Holds (files : Option (String → Option String)) (shelf : Shelf) : Prop where
  sorted : Keyed.Sorted Prod.fst shelf
  named : ∀ e ∈ shelf, Text.isIdentifier e.1 = true
  comesBack : ∀ e ∈ shelf, e.2.ComesBack
  held : ∀ name, Text.isIdentifier name = true →
    files.bind (· (fileName name)) = (Keyed.value? name shelf).map Value.pretty
  only : ∀ file, files.bind (· file) ≠ none →
    ∃ name, Text.isIdentifier name = true ∧ file = fileName name

namespace Holds

variable {files : Option (String → Option String)} {shelf : Shelf} {name : String}

/-- A directory that is not there holds nothing. -/
theorem absent : Holds none [] where
  sorted := .nil
  named := nofun
  comesBack := nofun
  held _ _ := rfl
  only _ h := absurd rfl h

theorem made (h : Holds files shelf) : Holds (some (files.getD fun _ => none)) shelf := by
  have hsame : ∀ file, (some (files.getD fun _ => none)).bind (· file) = files.bind (· file) := by
    intro file
    cases files <;> rfl
  exact ⟨h.sorted, h.named, h.comesBack, fun name hname => (hsame _).trans (h.held name hname),
    fun file hfile => h.only file ((hsame file).symm.trans_ne hfile)⟩

theorem saved {files : String → Option String} (h : Holds (some files) shelf)
    (hname : Text.isIdentifier name = true) {document : Value} (hdocument : document.ComesBack) :
    Holds (some (Function.update files (fileName name) (some document.pretty)))
      (Keyed.insert Prod.fst (name, document) shelf) where
  sorted := Keyed.sorted_insert h.sorted
  named e he := by
    rcases Keyed.mem_insert he with rfl | he
    · exact hname
    · exact h.named e he
  comesBack e he := by
    rcases Keyed.mem_insert he with rfl | he
    · exact hdocument
    · exact h.comesBack e he
  held n hn := by
    rw [Keyed.value?_insert]
    by_cases heq : n = name
    · subst heq
      simp
    · have hfile : fileName n ≠ fileName name := fun hfile => heq (fileName_injective hfile)
      simpa [Function.update_of_ne hfile, Function.update_of_ne heq] using h.held n hn
  only file hfile := by
    by_cases heq : file = fileName name
    · exact ⟨name, hname, heq⟩
    · refine h.only file ?_
      simpa [Function.update_of_ne heq] using hfile

theorem deleted (h : Holds files shelf) (name : String) :
    Holds (files.map fun files => Function.update files (fileName name) none)
      (Keyed.erase Prod.fst name shelf) where
  sorted := Keyed.sorted_erase name h.sorted
  named e he := h.named e (List.mem_filter.1 he).1
  comesBack e he := h.comesBack e (List.mem_filter.1 he).1
  held n hn := by
    rw [Keyed.value?_erase]
    have hheld := h.held n hn
    by_cases heq : n = name
    · subst heq
      cases files <;> simp
    · have hfile : fileName n ≠ fileName name := fun hfile => heq (fileName_injective hfile)
      rw [Function.update_of_ne heq, ← hheld]
      cases files with
      | none => rfl
      | some files => exact Function.update_of_ne hfile none files
  only file hfile := by
    refine h.only file ?_
    cases files with
    | none => exact hfile
    | some files =>
        by_cases heq : file = fileName name
        · subst heq
          simp at hfile
        · simpa [Function.update_of_ne heq] using hfile

/-- The files of the directory are named after the entries of the map. -/
theorem mem_names (h : Holds files shelf) {file : String} :
    files.bind (· file) ≠ none ↔ ∃ e ∈ shelf, file = fileName e.1 := by
  constructor
  · intro hfile
    obtain ⟨name, hname, rfl⟩ := h.only file hfile
    rw [h.held name hname] at hfile
    obtain ⟨document, hfound⟩ : ∃ document, Keyed.value? name shelf = some document :=
      Option.ne_none_iff_exists'.1 fun hnone => hfile (by rw [hnone]; rfl)
    exact ⟨(name, document), Keyed.value?_eq_some hfound, rfl⟩
  · rintro ⟨e, he, rfl⟩
    rw [h.held e.1 (h.named e he), Keyed.value?_of_mem h.sorted he]
    exact Option.some_ne_none _

/-- What is listed are the names of the map in order. -/
theorem mergeSort_names (h : Holds files shelf) {names : List String} (hnodup : names.Nodup)
    (hnames : ∀ file, file ∈ names ↔ files.bind (· file) ≠ none) :
    (names.filterMap nameOf?).mergeSort (fun a b => a ≤ b) = shelf.map Prod.fst := by
  have hfile : ∀ file ∈ names, ∃ e ∈ shelf, file = fileName e.1 ∧ nameOf? file = some e.1 := by
    intro file hfile
    obtain ⟨e, he, rfl⟩ := h.mem_names.1 ((hnames file).1 hfile)
    exact ⟨e, he, rfl, nameOf?_fileName (h.named e he)⟩
  have hdistinct : (names.filterMap nameOf?).Pairwise fun a b => a ≠ b := by
    rw [List.pairwise_filterMap]
    refine hnodup.imp_of_mem fun {a b} ha hb hne n hn n' hn' heq => hne ?_
    obtain ⟨e, -, rfl, he⟩ := hfile a ha
    obtain ⟨e', -, rfl, he'⟩ := hfile b hb
    rw [he] at hn
    rw [he'] at hn'
    cases hn
    cases hn'
    rw [heq]
  have hlisted : Keyed.Sorted id ((names.filterMap nameOf?).mergeSort fun a b => a ≤ b) :=
    Keyed.sorted_mergeSort hdistinct
  have hsorted : Keyed.Sorted id (shelf.map Prod.fst) := List.pairwise_map.2 h.sorted
  refine hlisted.unique hsorted fun n => ?_
  rw [List.mem_mergeSort, List.mem_filterMap, List.mem_map]
  constructor
  · rintro ⟨file, hin, hn⟩
    obtain ⟨e, he, -, hname⟩ := hfile file hin
    exact ⟨e, he, Option.some.inj (hname.symm.trans hn)⟩
  · rintro ⟨e, he, rfl⟩
    exact ⟨fileName e.1, (hnames _).2 (h.mem_names.2 ⟨e, he, rfl⟩), nameOf?_fileName (h.named e he)⟩

end Holds

/-! ## Calls in a directory -/

section

open Host

variable {ω : Type} {world : (q : HostRequest) → ω → Option q.Answer × ω} {store : Store}
  {shows : ω → Option (String → Option String) → Prop} {files : Option (String → Option String)}
  {shelf : Shelf} {name : String} {w : ω}

/-- A call whose name is no identifier fails and makes no request. -/
theorem perform_of_fault {call : Call} {fault : ServiceFault} (h : call.fault? = some fault) :
    store.perform call = .done (.error fault) := by
  obtain ⟨name, hname, rfl⟩ := Option.map_eq_some_iff.1 h
  obtain ⟨hname, hbad⟩ := Option.filter_eq_some_iff.1 hname
  have hfile : store.file name = .error (badName name) := if_neg (by simpa using hbad)
  cases call with
  | list => cases hname
  | save _ document =>
      cases hname
      simp only [perform, save, hfile]
      rfl
  | load _ =>
      cases hname
      simp only [perform, load, hfile]
      rfl
  | delete _ =>
      cases hname
      simp only [perform, delete, hfile]
      rfl

theorem isIdentifier_of_fault? {call : Call} (h : call.fault? = none)
    (hname : call.name? = some name) : Text.isIdentifier name = true := by
  rw [Call.fault?, Option.map_eq_none_iff, hname, Option.filter_eq_none_iff] at h
  simpa using h name rfl

section

variable (hworld : KeepsDirectory world store.directory shows) (hholds : Holds files shelf)
  (hshows : shows w files)

include hworld hholds hshows

theorem run_save (hname : Text.isIdentifier name = true) {document : Value}
    (hdocument : document.ComesBack) :
    ∃ w' files', (store.save name document).run (I := host) world w = (some (.ok ()), w') ∧
      shows w' files' ∧ Holds files' (Keyed.insert Prod.fst (name, document) shelf) := by
  obtain ⟨w₁, hmake, hshows₁⟩ := hworld.make hshows
  obtain ⟨w₂, hwrite, hshows₂⟩ :=
    hworld.write document.pretty (isFileName_fileName hname) hshows₁
  refine ⟨w₂, _, ?_, hshows₂, hholds.made.saved hname hdocument⟩
  unfold save
  rw [file_of_isIdentifier store hname]
  refine (Host.run_ask world (.makeDirectory store.directory) _ w).trans ?_
  rw [hmake]
  refine (Host.run_ask world (.writeFile _ document.pretty) _ w₁).trans ?_
  rw [hwrite]
  rfl

theorem run_load_shelf (hname : Text.isIdentifier name = true) :
    ∃ w', (store.load name).run (I := host) world w =
        (some (orMissing name (Keyed.value? name shelf)), w') ∧
      shows w' files := by
  obtain ⟨w', hread, hshows'⟩ := hworld.read (isFileName_fileName hname) hshows
  refine ⟨w', ?_, hshows'⟩
  unfold load
  rw [file_of_isIdentifier store hname]
  refine (Host.run_ask world (.readFile _) _ w).trans ?_
  rw [hread, hholds.held name hname]
  cases hfound : Keyed.value? name shelf with
  | none => rfl
  | some document =>
      have hback : Value.read document.pretty = .ok document :=
        hholds.comesBack (name, document) (Keyed.value?_eq_some hfound)
      show (some ((Value.read document.pretty).mapError ServiceFault.badJson), w') = _
      rw [hback]
      rfl

theorem run_list :
    ∃ w', store.list.run (I := host) world w = (some (.ok (shelf.map Prod.fst)), w') ∧
      shows w' files := by
  obtain ⟨names, w', hlist, hshows', hnodup, hnames⟩ := hworld.list hshows
  refine ⟨w', ?_, hshows'⟩
  unfold list
  refine (Host.run_ask world (.listDirectory store.directory) _ w).trans ?_
  rw [hlist]
  have hsorted := hholds.mergeSort_names hnodup hnames
  cases files with
  | none =>
      have hnil : names = [] := List.eq_nil_iff_forall_not_mem.2 fun n hn => (hnames n).1 hn rfl
      have hempty : shelf.map Prod.fst = [] := by simpa [hnil] using hsorted.symm
      rw [hempty]
      rfl
  | some files =>
      rw [← hsorted]
      rfl

theorem run_delete (hname : Text.isIdentifier name = true) :
    ∃ w', (store.delete name).run (I := host) world w =
        (some ((orMissing name (Keyed.value? name shelf)).map fun _ => ()), w') ∧
      shows w' (files.map fun files => Function.update files (fileName name) none) := by
  obtain ⟨w', hremove, hshows'⟩ := hworld.remove (isFileName_fileName hname) hshows
  refine ⟨w', ?_, hshows'⟩
  unfold delete
  rw [file_of_isIdentifier store hname]
  refine (Host.run_ask world (.removeFile _) _ w).trans ?_
  rw [hremove, hholds.held name hname]
  cases Keyed.value? name shelf with
  | none => rfl
  | some document => rfl

/-- One call answers as the map does, and the directory then holds what the map does. -/
theorem run_perform (call : Call) (hcall : ∀ name document, call = .save name document →
      document.ComesBack) :
    ∃ w' files', (store.perform call).run (I := host) world w =
        (some (call.answer shelf).1, w') ∧
      shows w' files' ∧ Holds files' (call.answer shelf).2 := by
  cases hfault : call.fault? with
  | some fault =>
      have hanswer : call.answer shelf = (.error fault, shelf) := by
        rw [Call.answer, hfault]
      rw [perform_of_fault hfault, hanswer]
      exact ⟨w, files, rfl, hshows, hholds⟩
  | none =>
      have hanswer : call.answer shelf = call.onShelf shelf := by
        rw [Call.answer, hfault]
      rw [hanswer]
      cases call with
      | save name document =>
          have hname := isIdentifier_of_fault? hfault rfl
          obtain ⟨w', files', hrun, hshows', hholds'⟩ :=
            run_save hworld hholds hshows hname (hcall name document rfl)
          exact ⟨w', files', Host.run_bind_of_eq world hrun _, hshows', hholds'⟩
      | load name =>
          obtain ⟨w', hrun, hshows'⟩ :=
            run_load_shelf hworld hholds hshows (isIdentifier_of_fault? hfault rfl)
          exact ⟨w', files, Host.run_bind_of_eq world hrun _, hshows', hholds⟩
      | list =>
          obtain ⟨w', hrun, hshows'⟩ := run_list hworld hholds hshows
          exact ⟨w', files, Host.run_bind_of_eq world hrun _, hshows', hholds⟩
      | delete name =>
          obtain ⟨w', hrun, hshows'⟩ :=
            run_delete hworld hholds hshows (isIdentifier_of_fault? hfault rfl)
          refine ⟨w', _, (Host.run_bind_of_eq world hrun _).trans ?_, hshows', hholds.deleted name⟩
          simp only [Call.onShelf]
          cases Keyed.value? name shelf with
          | none => rfl
          | some document => rfl

end

/-- Calls one after another answer as the map does. -/
theorem run_performAll (hworld : KeepsDirectory world store.directory shows) (calls : List Call)
    (hcalls : ∀ name document, .save name document ∈ calls → document.ComesBack)
    (hholds : Holds files shelf) (hshows : shows w files) :
    ∃ w' files', (store.performAll calls).run (I := host) world w =
        (some (Call.answers calls shelf).1, w') ∧
      shows w' files' ∧ Holds files' (Call.answers calls shelf).2 := by
  induction calls generalizing w files shelf with
  | nil => exact ⟨w, files, rfl, hshows, hholds⟩
  | cons call calls ih =>
      obtain ⟨w₁, files₁, hfirst, hshows₁, hholds₁⟩ := run_perform hworld hholds hshows call
        fun name document heq => hcalls name document (heq ▸ List.mem_cons_self)
      obtain ⟨w₂, files₂, hrest, hshows₂, hholds₂⟩ := ih
        (fun name document hin => hcalls name document (List.mem_cons_of_mem _ hin)) hholds₁ hshows₁
      refine ⟨w₂, files₂, ?_, hshows₂, hholds₂⟩
      refine (Host.run_bind_of_eq world hfirst _).trans ?_
      exact Host.run_bind_of_eq world hrest _

/-- A call on one name leaves what is saved under the others as it is. -/
theorem value?_answer_of_ne {call : Call} (hname : call.name? ≠ some name) (shelf : Shelf) :
    Keyed.value? name (call.answer shelf).2 = Keyed.value? name shelf := by
  unfold Call.answer
  split
  · rfl
  · cases call with
    | save other document =>
        have hne : name ≠ other := fun heq => hname (congrArg some heq.symm)
        exact (Keyed.value?_insert other document shelf name).trans (Function.update_of_ne hne _ _)
    | load _ => rfl
    | list => rfl
    | delete other =>
        have hne : name ≠ other := fun heq => hname (congrArg some heq.symm)
        exact (Keyed.value?_erase other shelf name).trans (Function.update_of_ne hne _ _)

variable (store) in
/-- Whatever calls are made, beginning with a directory that is not there, they are answered as by a
finite map from identifiers to documents, which the directory holds in the end. A call on a name
that is no identifier fails without a request, and one on another name does not touch what is saved
under this one. -/
theorem answers_as_shelf (hworld : KeepsDirectory world store.directory shows)
    (habsent : shows w none) (calls : List Call)
    (hcalls : ∀ name document, .save name document ∈ calls → document.ComesBack) :
    (∃ w' files', (store.performAll calls).run (I := host) world w =
        (some (Call.answers calls []).1, w') ∧
      shows w' files' ∧ Holds files' (Call.answers calls []).2) ∧
    (∀ call name, call.name? = some name → Text.isIdentifier name = false →
      store.perform call = .done (.error (badName name))) ∧
    ∀ (call : Call) (name : String) (shelf : Shelf), call.name? ≠ some name →
      Keyed.value? name (call.answer shelf).2 = Keyed.value? name shelf := by
  refine ⟨run_performAll hworld calls hcalls .absent habsent, fun call name hname hbad => ?_,
    fun call name shelf hname => value?_answer_of_ne hname shelf⟩
  refine perform_of_fault ?_
  simp [Call.fault?, hname, hbad, Option.filter]

end

/-! ## In memory -/

/-- The files in one directory in memory, which may not be there. -/
def inDirectory : (q : HostRequest) → Option (List (String × String)) →
    Option q.Answer × Option (List (String × String))
  | .makeDirectory _, held => (some (Except.ok () : Except FileFault Unit), some (held.getD []))
  | .writeFile path text, held =>
    (some (FileFault.orNotFound (held.map fun _ => ())),
      held.map (Keyed.insert Prod.fst (nameIn path, text)))
  | .readFile path, held =>
    (some (FileFault.orNotFound (held.bind (Keyed.value? (nameIn path)))), held)
  | .removeFile path, held =>
    (some (FileFault.orNotFound ((held.bind (Keyed.value? (nameIn path))).map fun _ => ())),
      held.map (Keyed.erase Prod.fst (nameIn path)))
  | .listDirectory _, held =>
    (some (FileFault.orNotFound (held.map fun held => held.map Prod.fst)), held)
  | _, held => (none, held)
where
  nameIn (path : String) : String := (Location.name? path).getD path

/-- The files, which are kept in order. -/
def InDirectory (held : Option (List (String × String))) (files : Option (String → Option String)) :
    Prop :=
  (∀ l, held = some l → Keyed.Sorted Prod.fst l) ∧
    files = held.map fun l name => Keyed.value? name l

theorem nameIn_join {directory name : String} (h : IsFileName name) :
    inDirectory.nameIn (Location.join directory name) = name := by
  rw [inDirectory.nameIn, Location.name?_join h, Option.getD_some]

theorem keepsDirectory_inDirectory (directory : String) :
    KeepsDirectory inDirectory directory InDirectory where
  make := by
    rintro (_ | l) _ ⟨hsorted, rfl⟩
    · refine ⟨_, rfl, ?_, rfl⟩
      rintro _ ⟨⟩
      exact .nil
    · refine ⟨_, rfl, ?_, rfl⟩
      rintro _ ⟨⟩
      exact hsorted l rfl
  write := by
    rintro (_ | l) files name text hname ⟨hsorted, hfiles⟩
    · cases hfiles
    · cases hfiles
      refine ⟨_, rfl, ?_, ?_⟩
      · rintro _ ⟨⟩
        exact Keyed.sorted_insert (hsorted l rfl)
      · rw [nameIn_join hname]
        exact congrArg some (funext fun n => (Keyed.value?_insert name text l n).symm)
  read := by
    rintro held _ name hname ⟨hsorted, rfl⟩
    refine ⟨held, ?_, hsorted, rfl⟩
    simp only [inDirectory, nameIn_join hname]
    cases held <;> rfl
  remove := by
    rintro held _ name hname ⟨hsorted, rfl⟩
    refine ⟨held.map (Keyed.erase Prod.fst name), ?_, fun l hl => ?_, ?_⟩
    · simp only [inDirectory, nameIn_join hname]
      cases held <;> rfl
    · obtain ⟨l, hheld, rfl⟩ := Option.map_eq_some_iff.1 hl
      exact Keyed.sorted_erase name (hsorted l hheld)
    · cases held with
      | none => rfl
      | some l => exact congrArg some (funext fun n => (Keyed.value?_erase name l n).symm)
  list := by
    rintro (_ | l) _ ⟨hsorted, rfl⟩
    · exact ⟨[], none, rfl, ⟨hsorted, rfl⟩, .nil, by simp⟩
    · have hnames : Keyed.Sorted id (l.map Prod.fst) := List.pairwise_map.2 (hsorted l rfl)
      refine ⟨l.map Prod.fst, some l, rfl, ⟨hsorted, rfl⟩, hnames.nodup, fun name => ?_⟩
      simp [Keyed.value?, Keyed.find?]

/-- Calls on good names and a bad one. -/
def someCalls : List Call :=
  [.list, .save "work" (.map [("version", .ofNat 1)]), .save "alpha" (.map []),
    .save "../escape" .null, .list, .load "work", .delete "work", .load "work", .delete "work",
    .list]

theorem answers_as_shelf_someCalls :
    ∃ w, ((Store.mk "sessions").performAll someCalls).run (I := host) inDirectory none =
      (some [.ok (.names []), .ok .done, .ok .done,
        .error (.failed "invalid session name '../escape' (letters, digits, '_' and '-' only)"),
        .ok (.names ["alpha", "work"]), .ok (.document (.map [("version", .ofNat 1)])), .ok .done,
        .error (.missing "session 'work'"), .error (.missing "session 'work'"),
        .ok (.names ["alpha"])], w) := by
  have hback : ∀ v : Value, v.Distinct → v.depth ≤ 127 → v.DoublesLast → v.ComesBack :=
    fun v hdistinct hdepth hlasts => (Value.comesBack_iff hdistinct).2 ⟨hdepth, hlasts⟩
  have hcalls : ∀ name document, .save name document ∈ someCalls → document.ComesBack := by
    intro name document hin
    simp only [someCalls, List.mem_cons, Call.save.injEq, List.not_mem_nil, or_false, false_or,
      reduceCtorEq] at hin
    rcases hin with ⟨-, rfl⟩ | ⟨-, rfl⟩ | ⟨-, rfl⟩
    · exact hback _ ⟨by decide, trivial, trivial⟩ (by decide) ⟨trivial, trivial⟩
    · exact hback _ ⟨.nil, trivial⟩ (by decide) trivial
    · exact hback _ trivial (by decide) trivial
  have habsent : InDirectory none none := ⟨by rintro _ ⟨⟩, rfl⟩
  obtain ⟨⟨w, files, hrun, -, -⟩, -, -⟩ := answers_as_shelf ⟨"sessions"⟩
    (keepsDirectory_inDirectory "sessions") habsent someCalls hcalls
  refine ⟨w, hrun.trans ?_⟩
  rfl

end Store

end Sluice
