import Sluice.Local
import Sluice.Proofs.Shell.Consulting

/-!
# Local services are considerate

The services of the local machine change no files but those of saved sessions, and leave the
operator's terminal alone, all but the confirmation, which is put to the operator if that is how
consent is given (`Local.asksOnly_serve`). So they are considerate (`Local.considerate`).
-/

namespace Sluice

open Host

/-- The request leaves the terminal alone, and changes no file but one of a saved session. -/
def Store.Confines (store : Store) : HostRequest → Prop
  | .writeFile path _ | .removeFile path => ∃ name, store.file name = .ok path
  | .appendFile .. | .print _ | .complain _ | .readLine | .listen | .stopListening => False
  | _ => True

section

variable (store : Store)

theorem asksOnly_kind? (path : String) : (kind? path).AsksOnly store.Confines := by
  have hask : (ask (.kindOf path)).AsksOnly store.Confines := .request trivial
  exact hask.bind fun _ => .done _

/-! ## Scripts and saved sessions -/

theorem Script.asksOnly_run (interpreters : Interpreters) (path : String) (input : Option Value)
    (parameters : Fields) : (run interpreters path input parameters).AsksOnly store.Confines := by
  unfold run
  split
  · exact .done _
  · next program arguments _ =>
    have hspawn : (ask (.spawn program (arguments ++ [(Value.map parameters).compact])
        ((input.map Value.compact).getD ""))).AsksOnly store.Confines := .request trivial
    refine hspawn.bind fun answer => ?_
    split
    · exact .done _
    · split
      · exact .done _
      · exact .done _

namespace Store

theorem asksOnly_save (name : String) (document : Value) :
    (store.save name document).AsksOnly store.Confines := by
  unfold save
  split
  · exact .done _
  · next path hpath =>
    have hmake : (ask (.makeDirectory store.directory)).AsksOnly store.Confines := .request trivial
    have hwrite : (ask (.writeFile path document.pretty)).AsksOnly store.Confines :=
      .request ⟨name, hpath⟩
    refine hmake.bind fun answer => ?_
    split
    · exact .done _
    · exact hwrite.bind fun _ => .done _

theorem asksOnly_load (name : String) : (store.load name).AsksOnly store.Confines := by
  unfold load
  split
  · exact .done _
  · next path _ =>
    have hread : (ask (.readFile path)).AsksOnly store.Confines := .request trivial
    refine hread.bind fun answer => ?_
    split
    · exact .done _
    · exact .done _

theorem asksOnly_list : store.list.AsksOnly store.Confines := by
  have hlist : (ask (.listDirectory store.directory)).AsksOnly store.Confines := .request trivial
  refine hlist.bind fun answer => ?_
  split
  · exact .done _
  · exact .done _
  · exact .done _

theorem asksOnly_delete (name : String) : (store.delete name).AsksOnly store.Confines := by
  unfold delete
  split
  · exact .done _
  · next path hpath =>
    have hremove : (ask (.removeFile path)).AsksOnly store.Confines := .request ⟨name, hpath⟩
    exact hremove.bind fun _ => .done _

end Store

/-! ## Paths -/

namespace Expansion

theorem asksOnly_environment (name : String) :
    (ask (.environment name)).AsksOnly store.Confines :=
  .request trivial

theorem asksOnly_fillPiece (p : Piece) : p.fill?.AsksOnly store.Confines := by
  cases p with
  | text s => exact .done _
  | plain name => exact asksOnly_environment store name
  | braced name default? =>
      refine (asksOnly_environment store name).bind fun answer => ?_
      split
      · exact .done _
      · exact .done _
      · exact .done _
      · exact .done _

theorem asksOnly_fill? (ps : List Piece) : (fill? ps).AsksOnly store.Confines := by
  induction ps with
  | nil => exact .done _
  | cons p ps ih =>
      refine (asksOnly_fillPiece store p).bind fun answer => ?_
      split
      · exact .done _
      · exact ih.bind fun _ => .done _

theorem asksOnly_fillHome (path : String) : (fillHome path).AsksOnly store.Confines := by
  unfold fillHome
  split
  · split
    · refine (asksOnly_environment store "HOME").bind fun answer => ?_
      split
      · exact .done _
      · exact .done _
    · exact .done _
  · exact .done _

theorem asksOnly_expand (path : String) : (expand path).AsksOnly store.Confines := by
  refine (asksOnly_fill? store (pieces path.toList)).bind fun answer => ?_
  split
  · exact asksOnly_fillHome store path
  · split
    · exact .done _
    · exact asksOnly_fillHome store _

end Expansion

/-! ## Assets -/

namespace Workspace

theorem asksOnly_filesAmong (directory : String) (names : List String) :
    (filesAmong directory names).AsksOnly store.Confines := by
  induction names with
  | nil => exact .done _
  | cons name names ih =>
      exact (asksOnly_kind? store _).bind fun kind => ih.bind fun rest => .done _

theorem asksOnly_assetsUnder (kind : AssetKind) (root : Root) :
    (assetsUnder kind root).AsksOnly store.Confines := by
  have hlist : (ask (.listDirectory (Location.join root.path kind.directory))).AsksOnly
      store.Confines := .request trivial
  refine hlist.bind fun answer => ?_
  split
  · exact .done _
  · exact (asksOnly_filesAmong store _ _).bind fun _ => .done _

theorem asksOnly_assets (kind : AssetKind) (roots : List Root) :
    (assets kind roots).AsksOnly store.Confines := by
  induction roots with
  | nil => exact .done _
  | cons root roots ih =>
      exact (asksOnly_assetsUnder store kind root).bind fun _ => ih.bind fun _ => .done _

theorem asksOnly_search (kind : AssetKind) (space : Option String) (name : String)
    (roots : List Root) : (search kind space name roots).AsksOnly store.Confines := by
  induction roots with
  | nil => exact .done _
  | cons root roots ih =>
      rw [search]
      split
      · exact ih
      · refine (asksOnly_assetsUnder store kind root).bind fun found => ?_
        split
        · exact .done _
        · exact ih

theorem asksOnly_find (kind : AssetKind) (roots : List Root) (reference : String) :
    (find kind roots reference).AsksOnly store.Confines := by
  unfold find
  split
  · refine (asksOnly_kind? store reference).bind fun answer => ?_
    split
    · exact .done _
    · exact .done _
  · refine (asksOnly_search store kind _ _ roots).bind fun answer => ?_
    split
    · exact .done _
    · exact .done _

theorem asksOnly_canonical (path : String) : (ask (.canonical path)).AsksOnly store.Confines :=
  .request trivial

theorem asksOnly_addRoot (path : String) (roots : List Root) :
    (addRoot path roots).AsksOnly store.Confines := by
  refine (asksOnly_kind? store path).bind fun answer => ?_
  split
  · exact .done _
  · refine (asksOnly_canonical store path).bind fun answer => ?_
    split
    · exact .done _
    · exact .done _
  · exact .done _

theorem asksOnly_removeRoot (reference : String) (roots : List Root) :
    (removeRoot reference roots).AsksOnly store.Confines :=
  (asksOnly_canonical store reference).bind fun _ => .done _

end Workspace

end

/-! ## All services -/

namespace Local

variable (services : Local)

/-- What the services of the local machine ask for. -/
theorem asksOnly_serve {q : ServiceRequest}
    (hq : services.consent = .operator → ∀ question, q ≠ .confirm question) (roots : List Root) :
    (services.serve q roots).AsksOnly services.store.Confines := by
  cases q with
  | clock =>
      have htime : time.AsksOnly services.store.Confines :=
        .ask trivial (fun hwaits => hwaits.elim) fun _ => .done _
      exact htime.bind fun _ => .done _
  | reach => exact .done _
  | runAction => exact .done _
  | runQuery => exact .done _
  | runFlow => exact .done _
  | runScript path input parameters =>
      exact (Script.asksOnly_run _ _ path input parameters).bind fun _ => .done _
  | queryText path =>
      have hread : (ask (.readFile path)).AsksOnly services.store.Confines := .request trivial
      exact hread.bind fun _ => .done _
  | saveSession name document =>
      exact (services.store.asksOnly_save name document).bind fun _ => .done _
  | loadSession name => exact (services.store.asksOnly_load name).bind fun _ => .done _
  | savedSessions => exact services.store.asksOnly_list.bind fun _ => .done _
  | deleteSession name => exact (services.store.asksOnly_delete name).bind fun _ => .done _
  | confirm question =>
      have hagree : (services.agree question).AsksOnly services.store.Confines := by
        unfold agree
        split
        · exact .done _
        · exact .done _
        · next h => exact absurd rfl (hq h question)
      exact hagree.bind fun _ => .done _
  | expand path => exact (Expansion.asksOnly_expand _ path).bind fun _ => .done _
  | roots => exact .done _
  | addRoot path => exact (Workspace.asksOnly_addRoot _ path roots).bind fun _ => .done _
  | removeRoot reference =>
      exact (Workspace.asksOnly_removeRoot _ reference roots).bind fun _ => .done _
  | assets kind => exact (Workspace.asksOnly_assets _ kind roots).bind fun _ => .done _
  | asset kind reference =>
      exact (Workspace.asksOnly_find _ kind roots reference).bind fun _ => .done _

theorem aside_serve {q : ServiceRequest}
    (hq : services.consent = .operator → ∀ question, q ≠ .confirm question) (roots : List Root) :
    (services.serve q roots).AsksOnly HostRequest.Aside := by
  refine (services.asksOnly_serve hq roots).mono fun q h => ?_
  cases q with
  | readLine => exact h
  | listen => exact h
  | stopListening => exact h
  | _ => trivial

theorem quiet_meet {q : ServiceRequest} {roots : List Root}
    (h : (services.serve q roots).AsksOnly HostRequest.Aside) :
    (services.meet q roots).Quiet := by
  refine h.quiet_attempt.bind fun r => ?_
  split
  · exact .done _
  · exact .done _

theorem surrenders_meet {q : ServiceRequest} {roots : List Root}
    (h : (services.serve q roots).AsksOnly HostRequest.Aside) :
    (services.meet q roots).Surrenders HostRequest.Waits (none, roots) := by
  refine h.surrenders_attempt.bind rfl fun r => ?_
  split
  · exact .done _
  · exact .done _

theorem agree_of_operator (h : services.consent = .operator) (question : String) :
    services.agree question = Prompt.confirm question := by
  unfold agree
  rw [h]

/-- A confirmation is put to the operator as a question at the prompt. -/
theorem meet_confirm (h : services.consent = .operator) (question : String) (roots : List Root) :
    services.meet (.confirm question) roots =
      (Prompt.confirm question).attempt.bind fun answer => .done (answer, roots) := by
  rw [← services.agree_of_operator h]
  exact meet_of_serve rfl

/-- The services of the local machine take no line but as the answer to a confirmation, and an
interrupt while they wait leaves them as they were. -/
theorem considerate (shell : Shell) (history : Option String) :
    (⟨shell, services.meet, history⟩ : Station (List Root)).Considerate where
  quiet q roots hq := services.quiet_meet (services.aside_serve (fun _ => hq) roots)
  confirm question roots := by
    by_cases h : services.consent = .operator
    · exact .inr (services.meet_confirm h question roots)
    · exact .inl (services.quiet_meet (services.aside_serve (fun hop => absurd hop h) roots))
  surrenders q roots := by
    by_cases h : services.consent = .operator ∧ ∃ question, q = .confirm question
    · obtain ⟨hop, question, rfl⟩ := h
      dsimp only
      rw [services.meet_confirm hop question roots]
      exact (Prompt.surrenders_confirm question).bind rfl fun _ => .done _
    · have haside := services.aside_serve (fun hop question hq => h ⟨hop, question, hq⟩) roots
      exact services.surrenders_meet haside

end Local

end Sluice
