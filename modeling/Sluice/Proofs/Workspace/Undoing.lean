import Sluice.Proofs.Workspace.Serving
import Sluice.Sandbox.World

/-!
# Taking back what was added

`workspace add` takes a path as it is meant, with the home directory and the environment filled in;
`workspace remove` takes a name or a path as it is written, and the first root that goes by it. So a
root that was just added by a path is removed by the same path exactly if the path as it is written
leads to the new root and no root before it goes by that text (`Workspace.remove_reverts_iff`).

* `Surroundings.Leads` : when a root goes by a reference;
* `Workspace.Removal` : what a removal comes to behind an addition;
* `Workspace.runLive_add`, `Workspace.runLive_remove` : the two commands on the local services.
-/

namespace Sluice

namespace Surroundings

/-- A root goes by a reference: by its name, by its location as it is written, or by the location
that the reference leads to. -/
def Leads (around : Surroundings) (reference : String) (r : Root) : Prop :=
  r.space = reference ∨ Location.same r.path reference = true ∨
    ∃ c, around.canonical reference = .ok c ∧ Location.same c r.path = true

theorem leads_iff {around : Surroundings} {reference : String} {r : Root} :
    around.Leads reference r ↔
      Workspace.goesBy reference (around.canonical reference).toOption r = true := by
  unfold Workspace.goesBy Leads
  rw [Bool.or_eq_true, Bool.or_eq_true, beq_iff_eq, or_assoc]
  refine or_congr_right (or_congr_right ?_)
  cases around.canonical reference with
  | error fault => simp [Except.toOption]
  | ok c => simp [Except.toOption]

end Surroundings

/-! ## Adding and removing -/

namespace Workspace

/-- A subcommand of `workspace` on one argument. -/
structure Calls (registry : Registry) (s : Session) (i : Intent) (sub : String) (given : Value) :
    Prop where
  command : registry.get? i.name = some .workspace
  arguments : i.resolve s = .ok ⟨i.name, some sub, [given], []⟩

def calledAs (i : Intent) (sub : String) : String :=
  s!"{i.name} {sub}"

/-- What is answered under a key to whoever changes the roots. -/
def reported (label key : String) : Except ServiceFault Root → Except Failure Value
  | .ok root => .ok (.map [(key, root.row)])
  | .error fault => .error (.commandFailed label (.service fault))

/-- What comes of a removal right after a root was added: the answer, and the roots that are
left. -/
inductive Removal (around : Surroundings) (reference : String) (roots : List Root) (added : Root) :
    Except ServiceFault Root → List Root → Prop where
  /-- The addition is undone. -/
  | undone (hothers : ∀ r ∈ roots, ¬ around.Leads reference r)
      (hadded : around.Leads reference added) :
      Removal around reference roots added (.ok added) roots
  /-- Nothing goes by the reference. -/
  | unknown (hnone : ∀ r ∈ roots ++ [added], ¬ around.Leads reference r) :
      Removal around reference roots added (.error (.missing s!"workspace root '{reference}'"))
        (roots ++ [added])
  /-- The home directory, or one that is called as it is, goes by the reference. -/
  | home {r : Root} (hr : r ∈ roots) (hleads : around.Leads reference r)
      (hsystem : r.isSystem = true) :
      Removal around reference roots added (.error (.failed "the system root cannot be removed"))
        (roots ++ [added])
  /-- Another root goes by the reference and is taken out instead. -/
  | other {before after : List Root} {r : Root} (hroots : roots = before ++ r :: after)
      (hbefore : ∀ x ∈ before, ¬ around.Leads reference x) (hleads : around.Leads reference r)
      (hsystem : r.isSystem = false) :
      Removal around reference roots added (.ok r) (before ++ after ++ [added])

section

variable {around : Surroundings} {reference : String} {roots : List Root} {added : Root}

variable (around reference roots) in
theorem removal_remove (hsystem : added.isSystem = false) :
    let r := Local.changed (roots ++ [added])
      (remove (roots ++ [added]) reference (around.canonical reference).toOption)
    Removal around reference roots added r.1 r.2 := by
  have hleads := @Surroundings.leads_iff around reference
  unfold remove
  rw [List.find?_append]
  cases hfound : roots.find? (goesBy reference (around.canonical reference).toOption) with
  | some r =>
      obtain ⟨hgoes, before, after, rfl, hbefore⟩ := List.find?_eq_some_iff_append.1 hfound
      have hnone : ∀ x ∈ before,
          goesBy reference (around.canonical reference).toOption x = false := by
        simpa using hbefore
      by_cases hr : r.isSystem = true
      · simp only [Option.some_or, hr, if_true]
        exact .home (by simp) (hleads.2 hgoes) hr
      · rw [Bool.not_eq_true] at hr
        have herased : (before ++ r :: after ++ [added]).eraseP
            (goesBy reference (around.canonical reference).toOption) =
              before ++ after ++ [added] := by
          rw [List.append_assoc, List.eraseP_append_right _ fun x hx => by simp [hnone x hx],
            List.cons_append, List.eraseP_cons_of_pos hgoes, List.append_assoc]
        simp only [Option.some_or, hr, Bool.false_eq_true, if_false, herased]
        exact .other rfl (fun x hx hx' => by simpa [hnone x hx] using hleads.1 hx')
          (hleads.2 hgoes) hr
  | none =>
      have hothers : ∀ r ∈ roots, ¬ around.Leads reference r := fun r hr hlead =>
        List.find?_eq_none.1 hfound r hr (hleads.1 hlead)
      by_cases hgoes : goesBy reference (around.canonical reference).toOption added = true
      · have herased : (roots ++ [added]).eraseP
            (goesBy reference (around.canonical reference).toOption) = roots := by
          rw [List.eraseP_append_right _ (List.find?_eq_none.1 hfound),
            List.eraseP_cons_of_pos hgoes, List.append_nil]
        simp only [Option.none_or, List.find?_cons_of_pos hgoes, hsystem, Bool.false_eq_true,
          if_false, herased]
        exact .undone hothers (hleads.2 hgoes)
      · simp only [Option.none_or, List.find?_cons_of_neg hgoes, List.find?_nil]
        refine .unknown fun r hr => ?_
        rcases List.mem_append.1 hr with hr | hr
        · exact hothers r hr
        · rw [List.mem_singleton.1 hr]
          exact mt hleads.1 hgoes

/-- The addition is undone exactly if the reference leads to what was added and to none before. -/
theorem Removal.undone_iff {result : Except ServiceFault Root} {after : List Root}
    (h : Removal around reference roots added result after)
    (hfree : ∀ r ∈ roots, r.space ≠ added.space) :
    (result = .ok added ∧ after = roots) ↔
      around.Leads reference added ∧ ∀ r ∈ roots, ¬ around.Leads reference r := by
  cases h with
  | undone hothers hadded => exact ⟨fun _ => ⟨hadded, hothers⟩, fun _ => ⟨rfl, rfl⟩⟩
  | unknown hnone => exact ⟨nofun, fun h => absurd h.1 (hnone added (by simp))⟩
  | home hr hleads hsystem => exact ⟨nofun, fun h => absurd hleads (h.2 _ hr)⟩
  | @other before _ r hroots hbefore hleads hsystem =>
      have hr : r ∈ roots := by simp [hroots]
      refine ⟨fun h => ?_, fun h => absurd hleads (h.2 r hr)⟩
      cases h.1
      exact absurd rfl (hfree _ hr)

/-- Where the path is meant as it is written, the reference leads to what was added, and an earlier
root is in the way only by its name or by its location as that is written. -/
theorem leads_of_canonical {c : String} (hcanonical : around.canonical reference = .ok c)
    (hadds : Adds roots (.at c) (roots ++ [.at c])) :
    (around.Leads reference (.at c) ∧ ∀ r ∈ roots, ¬ around.Leads reference r) ↔
      ∀ r ∈ roots, r.space ≠ reference ∧ Location.same r.path reference = false := by
  constructor
  · rintro ⟨-, hothers⟩ r hr
    refine ⟨fun hspace => hothers r hr (.inl hspace), ?_⟩
    rw [Bool.eq_false_iff]
    exact fun hsame => hothers r hr (.inr (.inl hsame))
  · intro hfree
    refine ⟨.inr (.inr ⟨c, hcanonical, BEq.rfl⟩), fun r hr => ?_⟩
    rintro (hspace | hsame | ⟨c', hc', hsame⟩)
    · exact (hfree r hr).1 hspace
    · rw [(hfree r hr).2] at hsame
      cases hsame
    · rw [hcanonical] at hc'
      cases hc'
      have hapart : Location.same c r.path = false :=
        (BEq.comm (a := Location.parts c)).trans (hadds.free r hr).2
      rw [hapart] at hsame
      cases hsame

end

section

open Host

variable {ω : Type} {services : Local} {world : (q : HostRequest) → ω → Option q.Answer × ω}
  {around : Surroundings} {w w' : ω} {registry : Registry} {i adding removing : Intent}
  {s s' : Session} {given : Value} {roots roots' : List Root} {value : Value}

theorem Calls.order {sub : String} {order : Order} (hcalls : Calls registry s i sub given)
    (hread : Order.read .workspace ⟨i.name, some sub, [given], []⟩ = .ok order) :
    i.order registry s (none : Option Value).isSome = .ok (order, calledAs i sub) := by
  rw [Intent.order_of_command hcalls.command hcalls.arguments, hread]
  rfl

variable (services) in
/-- What adding a root comes to. -/
theorem runLive_add (h : around.Answers world w) (hcalls : Calls registry s i "add" given)
    (roots : List Root) :
    (∃ failure, (registry.dispatch i none).runLive (services.serving world) s (roots, w) =
      (some (.error failure), (s, (roots, w)))) ∨
    ∃ meant c, (Expansion.expand given.toText).run (I := host) world w = (some meant, w) ∧
      around.canonical meant = .ok c ∧ Adds roots (.at c) (roots ++ [.at c]) ∧
      (registry.dispatch i none).runLive (services.serving world) s (roots, w) =
        (some (reported (calledAs i "add") "added" (.ok (.at c))),
          (s, (roots ++ [.at c], w))) := by
  obtain ⟨meant, hmeant, hserved⟩ := services.serving_expand h given.toText roots
  rw [Registry.runLive_dispatch _ (hcalls.order rfl)]
  have hexpanded := Job.runLive_ask (services.serving world) (.expand given.toText)
    (fun path => Job.ask (.addRoot path) >>= fun answer =>
      Job.expect (calledAs i "add") answer >>= fun root =>
        pure (Value.map [("added", root.row)])) s (roots, w)
  rw [hserved] at hexpanded
  have hadded := hexpanded.trans (Job.runLive_ask (services.serving world) (.addRoot meant) _ s _)
  rcases services.serving_addRoot h meant roots with
    ⟨fault, hadd⟩ | ⟨c, hcanonical, hadds, hadd⟩
  · rw [hadd] at hadded
    exact .inl ⟨_, hadded⟩
  · rw [hadd] at hadded
    exact .inr ⟨meant, c, hmeant, hcanonical, hadds, hadded⟩

/-- What removing a root comes to. -/
theorem runLive_remove (h : around.Answers world w) (hcalls : Calls registry s i "remove" given)
    (roots : List Root) :
    (registry.dispatch i none).runLive (services.serving world) s (roots, w) =
      let r := Local.changed roots
        (remove roots given.toText (around.canonical given.toText).toOption)
      (some (reported (calledAs i "remove") "removed" r.1), (s, (r.2, w))) := by
  rw [Registry.runLive_dispatch _ (hcalls.order rfl)]
  refine (Job.runLive_ask (services.serving world) (.removeRoot given.toText) _ s _).trans ?_
  rw [Local.serving_removeRoot h]
  rcases remove roots given.toText (around.canonical given.toText).toOption with
    fault | ⟨root, roots'⟩
  · rfl
  · rfl

/-- A root was added by a path as it is meant, and then the same text is used to remove it, with the
files and the environment as they were. That undoes the addition exactly if the text as it is
written leads to the new root and to none of the roots before it. Where the text is meant as it is
written, this is so unless one of these has it as its name or as its location; where it is not, the
text may well lead nowhere, or to the home directory, or to another root, which is removed
instead. -/
theorem remove_reverts_iff (haround : around.Answers world w)
    (hadding : Calls registry s adding "add" given)
    (hremoving : Calls registry s removing "remove" given)
    (hhome : ∃ r ∈ roots, r.isSystem = true)
    (hadd : (services.perform registry adding s roots).run (I := host) world w =
      (some (some (some (.ok value), s'), roots'), w')) :
    s' = s ∧ w' = w ∧ ∃ meant c result after,
      (Expansion.expand given.toText).run (I := host) world w = (some meant, w) ∧
      ('$' ∉ given.toText.toList → given.toText.toList.head? ≠ some '~' →
        meant = given.toText) ∧
      around.canonical meant = .ok c ∧ Adds roots (.at c) roots' ∧
      value = .map [("added", (Root.at c).row)] ∧
      (services.perform registry removing s roots').run (I := host) world w =
        (some (some (some (reported (calledAs removing "remove") "removed" result), s), after), w) ∧
      Removal around given.toText roots (.at c) result after ∧
      ((result = .ok (.at c) ∧ after = roots) ↔
        around.Leads given.toText (.at c) ∧ ∀ r ∈ roots, ¬ around.Leads given.toText r) ∧
      (meant = given.toText → ((result = .ok (.at c) ∧ after = roots) ↔
        ∀ r ∈ roots, r.space ≠ given.toText ∧ Location.same r.path given.toText = false)) := by
  rw [Local.run_perform] at hadd
  rcases runLive_add services haround hadding roots with
    ⟨failure, hfailed⟩ | ⟨meant, c, hmeant, hcanonical, hadds, hadded⟩
  · rw [hfailed] at hadd
    cases hadd
  · rw [hadded] at hadd
    cases hadd
    have hsystem : (Root.at c).isSystem = false := by
      obtain ⟨r, hr, hrsystem⟩ := hhome
      have hne := (hadds.free r hr).1
      rw [Root.isSystem, beq_iff_eq] at hrsystem
      rw [hrsystem] at hne
      simpa [Root.isSystem] using hne.symm
    have hremoval := removal_remove around given.toText roots hsystem
    have hiff := hremoval.undone_iff fun r hr => (hadds.free r hr).1
    refine ⟨rfl, rfl, meant, c, _, _, hmeant, fun hdollar htilde => ?_, hcanonical, hadds, rfl, ?_,
      hremoval, hiff, ?_⟩
    · have hplain := Expansion.run_expand_of_plain world hdollar htilde w
      rw [hmeant] at hplain
      exact Option.some.inj (congrArg Prod.fst hplain)
    · rw [Local.run_perform, runLive_remove haround hremoving]
    · rintro rfl
      exact hiff.trans (leads_of_canonical hcanonical hadds)

end

end Workspace

/-! ## On a machine in memory -/

namespace Sandbox.World

def surroundings (w : World) : Surroundings where
  environment := fun name => w.environment.lookup name
  kind := fun path => (w.files.find path).map fun (_, e) => e.kind
  canonical := fun path => w.files.canonical path

theorem answers_surroundings (w : World) : w.surroundings.Answers host w :=
  ⟨fun _ => rfl, fun _ => rfl, fun _ => rfl⟩

/-- A machine with a directory that a variable stands for. -/
def projects : World where
  clock := 0
  environment := [("CX_ROOT", "projects")]
  files := { entries := [(["home"], .directory), (["projects"], .directory)], here := [] }
  lines := []
  out := ""
  err := ""

theorem run_expand_projects :
    (Expansion.expand "$CX_ROOT").run (I := Sluice.host) host projects =
      (some "projects", projects) := by
  have hpieces : Expansion.pieces "$CX_ROOT".toList = [.text "", .plain "CX_ROOT", .text ""] := by
    decide +kernel
  unfold Expansion.expand
  rw [hpieces]
  rfl

end Sandbox.World

namespace Workspace

open Sandbox

def onVariable (sub : String) : Intent :=
  ⟨"workspace", some sub, [.str "$CX_ROOT"], [], false, ⟨0, 0⟩⟩

theorem calls_onVariable (sub : String) :
    Calls (.builtin []) .empty (onVariable sub) sub (.str "$CX_ROOT") where
  command := by
    show (Registry.builtin []).get? "workspace" = some .workspace
    decide +kernel
  arguments := by
    have h : Value.resolveItems .empty [.str "$CX_ROOT"] = .ok [.str "$CX_ROOT"] := by
      decide +kernel
    exact congrArg (fun items => items >>= _) h

/-- The services of a machine without a configuration. -/
def plainly : Local := .ofConfig .default "home" .never

theorem run_perform_projects :
    (plainly.perform (.builtin []) (onVariable "add") .empty [⟨systemSpace, "home"⟩]).run
      (I := Sluice.host) World.host World.projects =
        (some (some (some (.ok (.map [("added", (Root.at "/projects").row)])), .empty),
          [⟨systemSpace, "home"⟩, .at "/projects"]), World.projects) := by
  have hexpand : plainly.serving World.host (.expand "$CX_ROOT")
      ([⟨systemSpace, "home"⟩], World.projects) =
        (some "projects", ([⟨systemSpace, "home"⟩], World.projects)) :=
    Local.serving_of_serve (Host.run_bind_of_eq _ World.run_expand_projects _)
  have hexpanded := Job.runLive_ask (plainly.serving World.host) (.expand "$CX_ROOT")
    (fun path => Job.ask (.addRoot path) >>= fun answer =>
      Job.expect (calledAs (onVariable "add") "add") answer >>= fun root =>
        pure (Value.map [("added", root.row)])) .empty ([⟨systemSpace, "home"⟩], World.projects)
  rw [hexpand] at hexpanded
  have hrun := (Registry.runLive_dispatch (plainly.serving World.host)
    ((calls_onVariable "add").order rfl)
    ([⟨systemSpace, "home"⟩], World.projects)).trans hexpanded
  rw [Local.run_perform, hrun]
  rfl

/-- A directory that was added by a variable's name cannot be removed so. -/
theorem remove_reverts_iff_projects :
    ∃ result after,
      (plainly.perform (.builtin []) (onVariable "remove") .empty
        [⟨systemSpace, "home"⟩, .at "/projects"]).run (I := Sluice.host) World.host World.projects =
          (some (some (some (reported "workspace remove" "removed" result), .empty), after),
            World.projects) ∧
      ¬ (result = .ok (.at "/projects") ∧ after = [⟨systemSpace, "home"⟩]) := by
  obtain ⟨-, -, meant, c, result, after, hmeant, -, hcanonical, -, -, hremove, -, hiff, -⟩ :=
    remove_reverts_iff (World.answers_surroundings World.projects) (calls_onVariable "add")
      (calls_onVariable "remove") ⟨_, List.mem_cons_self, rfl⟩ run_perform_projects
  rw [Value.toText, World.run_expand_projects] at hmeant
  cases hmeant
  obtain rfl : "/projects" = c := Except.ok.inj hcanonical
  refine ⟨result, after, hremove, fun h => ?_⟩
  have hleads := Surroundings.leads_iff.1 (hiff.1 h).1
  revert hleads
  decide +kernel

end Workspace

end Sluice
