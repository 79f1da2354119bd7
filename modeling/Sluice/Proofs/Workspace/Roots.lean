import Mathlib.Data.List.Nodup
import Sluice.Local
import Sluice.Proofs.Running

/-!
# The roots while the shell runs

Roots come from the configuration, which is taken as it is, and from calls, which are checked. So
the home directory's root comes first for ever, and what was added since the start is named unlike
everything else; but a name that the configuration has twice is there twice, and a directory
`system` that it has cannot be removed, as if it were home (`Local.through_initial`).

* `Workspace.Kept` : what holds of the roots at all times;
* `Workspace.Answered` : a call that fails or is interrupted leaves the roots as they are;
* `Local.run_meet_cases` : what a request does to the roots;
* `Local.kept_through` : what a run of requests does to them.
-/

namespace Sluice

namespace Workspace

/-- No two roots have the same space. -/
def Distinct (roots : List Root) : Prop := roots.Pairwise fun r s => r.space ≠ s.space

/-- The configured roots are distinct if their directories' names are, and none is `system`. -/
theorem distinct_initial_iff (home : String) (extra : List String) :
    Distinct (initial home extra) ↔
      (systemSpace :: extra.map fun path => (Root.at path).space).Nodup := by
  have hspaces : (initial home extra).map Root.space =
      systemSpace :: extra.map fun path => (Root.at path).space := by
    simp [initial]
  rw [← hspaces]
  exact List.pairwise_map.symm

/-! ## Calls -/

/-- A root named after its directory comes last. Its space and its location were not in use. -/
structure Adds (roots : List Root) (root : Root) (roots' : List Root) : Prop where
  named : root = Root.at root.path
  free : ∀ r ∈ roots, r.space ≠ root.space ∧ Location.same r.path root.path = false
  last : roots' = roots ++ [root]

/-- The first root that goes by a reference is taken out, which is not called `system`. -/
structure Removes (reference : String) (roots : List Root) (root : Root) (roots' : List Root) :
    Prop where
  notSystem : root.isSystem = false
  takenOut : ∃ canonical before after, roots = before ++ root :: after ∧
    (∀ r ∈ before, goesBy reference canonical r = false) ∧ goesBy reference canonical root = true ∧
    roots' = before ++ after

/-- What a call makes of the roots, by its answer. One that is interrupted has no answer. -/
inductive Answered (succeeds : Root → List Root → Prop) (roots : List Root) :
    Option (Except ServiceFault Root) → List Root → Prop where
  | done {root : Root} {roots' : List Root} (success : succeeds root roots') :
      Answered succeeds roots (some (.ok root)) roots'
  | failed (fault : ServiceFault) : Answered succeeds roots (some (.error fault)) roots
  | interrupted : Answered succeeds roots none roots

theorem Answered.cases {succeeds : Root → List Root → Prop} {roots roots' : List Root}
    {answer : Option (Except ServiceFault Root)} (h : Answered succeeds roots answer roots') :
    roots' = roots ∨ ∃ root, succeeds root roots' := by
  cases h with
  | done success => exact .inr ⟨_, success⟩
  | failed fault => exact .inl rfl
  | interrupted => exact .inl rfl

theorem adds_of_add {roots roots' : List Root} {path : String} {root : Root}
    (h : add roots path = .ok (root, roots')) : root = .at path ∧ Adds roots root roots' := by
  unfold add at h
  dsimp only at h
  split at h
  · cases h
  · next hunused =>
    cases h
    refine ⟨rfl, rfl, fun r hr => ?_, rfl⟩
    have hfree := List.find?_eq_none.1 hunused r hr
    rw [Bool.or_eq_true, not_or, beq_iff_eq] at hfree
    exact ⟨hfree.2, by simpa using hfree.1⟩

theorem add_answered (roots : List Root) (path : String) :
    Answered (Adds roots) roots (some (Local.changed roots (add roots path)).1)
      (Local.changed roots (add roots path)).2 := by
  cases h : add roots path with
  | error fault => exact .failed fault
  | ok added => exact .done (adds_of_add h).2

theorem remove_answered (roots : List Root) (reference : String) (canonical : Option String) :
    Answered (Removes reference roots) roots
      (some (Local.changed roots (remove roots reference canonical)).1)
      (Local.changed roots (remove roots reference canonical)).2 := by
  unfold remove
  split
  · exact .failed _
  · next root hfound =>
    split
    · exact .failed _
    · next hsystem =>
      obtain ⟨hgoes, before, after, rfl, hbefore⟩ := List.find?_eq_some_iff_append.1 hfound
      have hnone : ∀ r ∈ before, goesBy reference canonical r = false := by simpa using hbefore
      refine .done ⟨by simpa using hsystem, canonical, before, after, rfl, hnone, hgoes, ?_⟩
      show (before ++ root :: after).eraseP (goesBy reference canonical) = before ++ after
      rw [List.eraseP_append_right _ fun r hr => by simp [hnone r hr],
        List.eraseP_cons_of_pos hgoes]

/-! ## What holds at all times -/

/-- Roots as they may come to be: home is first, as many others are called as it is as were
configured so, and those that were added stand behind the configured ones that are left, each in a
space of its own. -/
structure Kept (home : String) (extra : List String) (roots : List Root) : Prop where
  first : ∃ others, roots = ⟨systemSpace, home⟩ :: others
  system : roots.filter Root.isSystem = (initial home extra).filter Root.isSystem
  later : ∃ left added, roots = left ++ added ∧ left.Sublist (initial home extra) ∧
    (∀ r ∈ left, ∀ s ∈ added, r.space ≠ s.space) ∧ Distinct added

namespace Kept

variable {home : String} {extra : List String} {roots roots' : List Root} {root : Root}

theorem start (home : String) (extra : List String) : Kept home extra (initial home extra) where
  first := ⟨_, rfl⟩
  system := rfl
  later := ⟨initial home extra, [], (List.append_nil _).symm, .refl _,
    fun _ _ _ hs => absurd hs List.not_mem_nil, .nil⟩

theorem adds (h : Kept home extra roots) (hadds : Adds roots root roots') :
    Kept home extra roots' := by
  obtain ⟨-, hfree, rfl⟩ := hadds
  have hunused : ∀ r ∈ roots, r.space ≠ root.space := fun r hr => (hfree r hr).1
  obtain ⟨others, hfirst⟩ := h.first
  obtain ⟨left, added, hroots, hleft, hapart, hadded⟩ := h.later
  refine ⟨⟨others ++ [root], by rw [hfirst, List.cons_append]⟩, ?_, ?_⟩
  · -- the space of home is in use
    have hsystem : root.isSystem = false := by
      have hne : systemSpace ≠ root.space := hunused ⟨systemSpace, home⟩ (by simp [hfirst])
      simpa [Root.isSystem] using hne.symm
    rw [List.filter_append, h.system]
    simp [hsystem]
  · refine ⟨left, added ++ [root], by rw [hroots, List.append_assoc], hleft, ?_, ?_⟩
    · intro r hr s hs
      rcases List.mem_append.1 hs with hs | hs
      · exact hapart r hr s hs
      · rw [List.mem_singleton.1 hs]
        exact hunused r (by simp [hroots, hr])
    · refine List.pairwise_append.2 ⟨hadded, List.pairwise_singleton _ _, ?_⟩
      intro r hr s hs
      rw [List.mem_singleton.1 hs]
      exact hunused r (by simp [hroots, hr])

theorem removes {reference : String} (h : Kept home extra roots)
    (hremoves : Removes reference roots root roots') : Kept home extra roots' := by
  obtain ⟨hsystem, -, before, after, hsplit, -, -, rfl⟩ := hremoves
  obtain ⟨others, hfirst⟩ := h.first
  obtain ⟨left, added, hroots, hleft, hapart, hadded⟩ := h.later
  refine ⟨?_, ?_, ?_⟩
  · -- what is taken out is not the first, which is called `system`
    cases before with
    | nil =>
        obtain ⟨rfl, -⟩ := List.cons.inj (hsplit.symm.trans hfirst)
        exact absurd hsystem (by simp [Root.isSystem])
    | cons first before =>
        obtain ⟨rfl, -⟩ := List.cons.inj (hsplit.symm.trans hfirst)
        exact ⟨before ++ after, rfl⟩
  · rw [← h.system, hsplit]
    simp [hsystem]
  · have hsub : (before ++ after).Sublist (left ++ added) := by
      rw [← hroots, hsplit]
      exact (List.Sublist.refl before).append (List.sublist_cons_self root after)
    obtain ⟨left', added', heq, hleft', hadded'⟩ := List.sublist_append_iff.1 hsub
    refine ⟨left', added', heq, hleft'.trans hleft, ?_, hadded.sublist hadded'⟩
    intro r hr s hs
    exact hapart r (hleft'.subset hr) s (hadded'.subset hs)

/-- Only home is called `system` if no other directory was configured that is. -/
theorem filter_isSystem (h : Kept home extra roots)
    (hextra : ∀ path ∈ extra, (Root.at path).space ≠ systemSpace) :
    roots.filter Root.isSystem = [⟨systemSpace, home⟩] := by
  have hnone : (extra.map Root.at).filter Root.isSystem = [] := by
    refine List.filter_eq_nil_iff.2 fun root hroot => ?_
    obtain ⟨path, hpath, rfl⟩ := List.mem_map.1 hroot
    simpa [Root.isSystem] using hextra path hpath
  rw [h.system]
  show (⟨systemSpace, home⟩ :: extra.map Root.at).filter Root.isSystem = [⟨systemSpace, home⟩]
  rw [List.filter_cons_of_pos (by simp [Root.isSystem]), hnone]

/-- Roots that were distinct at the start stay so. -/
theorem distinct (h : Kept home extra roots) (hstart : Distinct (initial home extra)) :
    Distinct roots := by
  obtain ⟨left, added, rfl, hleft, hapart, hadded⟩ := h.later
  exact List.pairwise_append.2 ⟨hstart.sublist hleft, hadded, hapart⟩

end Kept

end Workspace

/-! ## Requests -/

namespace Local

open Host Workspace

variable {ω : Type} (services : Local) (world : (q : HostRequest) → ω → Option q.Answer × ω)

theorem run_meet (q : ServiceRequest) (roots : List Root) (w : ω) :
    (services.meet q roots).run (I := host) world w =
      match (services.serve q roots).run (I := host) world w with
      | (some (answer, roots'), w') => (some (some answer, roots'), w')
      | (none, w') => (some (none, roots), w') := by
  refine (Host.run_bind_of_eq world (Host.run_attempt world _ w) _).trans ?_
  rcases (services.serve q roots).run (I := host) world w with ⟨_ | ⟨answer, roots'⟩, w'⟩
  · rfl
  · rfl

theorem addRoot_answered {path : String} {roots : List Root}
    {result : Except ServiceFault (Root × List Root)} {w w' : ω}
    (h : (addRoot path roots).run (I := host) world w = (some result, w')) :
    Answered (Adds roots) roots (some (changed roots result).1) (changed roots result).2 := by
  obtain ⟨kind, w₁, -, hrest⟩ := Host.run_bind_eq_some world h
  split at hrest
  · cases hrest
    exact .failed _
  · obtain ⟨canonical, w₂, -, hadd⟩ := Host.run_bind_eq_some world hrest
    split at hadd
    · cases hadd
      exact .failed _
    · cases hadd
      exact add_answered roots _
  · cases hrest
    exact .failed _

theorem removeRoot_answered {reference : String} {roots : List Root}
    {result : Except ServiceFault (Root × List Root)} {w w' : ω}
    (h : (removeRoot reference roots).run (I := host) world w = (some result, w')) :
    Answered (Removes reference roots) roots (some (changed roots result).1)
      (changed roots result).2 := by
  obtain ⟨canonical, w₁, -, hremove⟩ := Host.run_bind_eq_some world h
  cases hremove
  exact remove_answered roots reference canonical.toOption

/-- A root is added, or the roots stay as they are. -/
theorem run_meet_addRoot (path : String) (roots : List Root) (w : ω) :
    ∃ answer roots' w', (services.meet (.addRoot path) roots).run (I := host) world w =
      (some (answer, roots'), w') ∧ Answered (Adds roots) roots answer roots' := by
  rw [run_meet]
  rcases h : (services.serve (.addRoot path) roots).run (I := host) world w with ⟨_ | served, w'⟩
  · exact ⟨none, roots, w', rfl, .interrupted⟩
  · obtain ⟨result, w₁, hadd, hserved⟩ := Host.run_bind_eq_some world h
    cases hserved
    exact ⟨_, _, w', rfl, addRoot_answered world hadd⟩

/-- A root is removed, or the roots stay as they are. -/
theorem run_meet_removeRoot (reference : String) (roots : List Root) (w : ω) :
    ∃ answer roots' w', (services.meet (.removeRoot reference) roots).run (I := host) world w =
      (some (answer, roots'), w') ∧ Answered (Removes reference roots) roots answer roots' := by
  rw [run_meet]
  rcases h : (services.serve (.removeRoot reference) roots).run (I := host) world w with
    ⟨_ | served, w'⟩
  · exact ⟨none, roots, w', rfl, .interrupted⟩
  · obtain ⟨result, w₁, hremove, hserved⟩ := Host.run_bind_eq_some world h
    cases hserved
    exact ⟨_, _, w', rfl, removeRoot_answered world hremove⟩

/-- No other request touches the roots. -/
theorem serve_keeps {q : ServiceRequest} (hadd : ∀ path, q ≠ .addRoot path)
    (hremove : ∀ reference, q ≠ .removeRoot reference) (roots : List Root) :
    ∃ m : Act host q.Answer,
      services.serve q roots = m.bind fun answer => .done (answer, roots) := by
  cases q with
  | addRoot path => exact absurd rfl (hadd path)
  | removeRoot reference => exact absurd rfl (hremove reference)
  | reach source => exact ⟨.done _, rfl⟩
  | runAction source action parameters => exact ⟨.done _, rfl⟩
  | runQuery source text parameters => exact ⟨.done _, rfl⟩
  | runFlow path parameters bindings => exact ⟨.done _, rfl⟩
  | roots => exact ⟨.done roots, rfl⟩
  | queryText path =>
      refine ⟨(ask (.readFile path)).bind fun text => .done (text.mapError ServiceFault.file), ?_⟩
      rw [Act.bind_assoc]
      rfl
  | _ => exact ⟨_, rfl⟩

/-- What a request does to the roots. -/
theorem run_meet_cases (q : ServiceRequest) (roots : List Root) (w : ω) :
    ∃ answer roots' w', (services.meet q roots).run (I := host) world w =
        (some (answer, roots'), w') ∧
      (roots' = roots ∨ (∃ root, Adds roots root roots') ∨
        ∃ reference root, Removes reference roots root roots') := by
  by_cases hadd : ∃ path, q = .addRoot path
  · obtain ⟨path, rfl⟩ := hadd
    obtain ⟨answer, roots', w', hrun, hanswered⟩ := run_meet_addRoot services world path roots w
    exact ⟨answer, roots', w', hrun, hanswered.cases.imp id .inl⟩
  by_cases hremove : ∃ reference, q = .removeRoot reference
  · obtain ⟨reference, rfl⟩ := hremove
    obtain ⟨answer, roots', w', hrun, hanswered⟩ :=
      run_meet_removeRoot services world reference roots w
    exact ⟨answer, roots', w', hrun, hanswered.cases.imp id fun h => .inr ⟨reference, h⟩⟩
  obtain ⟨m, hm⟩ := services.serve_keeps (fun path hq => hadd ⟨path, hq⟩)
    (fun reference hq => hremove ⟨reference, hq⟩) roots
  refine ⟨(m.run (I := host) world w).1, roots, (m.run (I := host) world w).2, ?_, .inl rfl⟩
  rw [meet_of_serve hm]
  exact Host.run_bind_of_eq world (Host.run_attempt world m w) _

/-- Whatever is asked of the services, the roots are kept. -/
theorem kept_through {home : String} {extra : List String} {α : Type} (m : Act service α)
    {roots : List Root} (h : Kept home extra roots) (w : ω) :
    ∃ result roots' w', (m.through services.meet roots).run (I := host) world w =
      (some (result, roots'), w') ∧ Kept home extra roots' := by
  refine Host.run_through_keeps world (fun roots _ => Kept home extra roots) ?_ m h
  intro q roots w h
  obtain ⟨answer, roots', w', hmeet, hmoves⟩ := run_meet_cases services world q roots w
  refine ⟨answer, roots', w', hmeet, ?_⟩
  rcases hmoves with rfl | ⟨root, hadds⟩ | ⟨reference, root, hremoves⟩
  · exact h
  · exact h.adds hadds
  · exact h.removes hremoves

/-- Whatever has been asked of the services since the start, home comes first among the roots, and
what was added is named unlike all else. Adding and removing then do what they say or, where they
fail, nothing. So each root has a space of its own at all times, and only home is called `system`,
just if it was so at the start. -/
theorem through_initial (home : String) (extra : List String) (w : ω) :
    (∀ (α : Type) (m : Act service α), ∃ result roots w',
      (m.through services.meet (initial home extra)).run (I := host) world w =
        (some (result, roots), w') ∧
      Kept home extra roots ∧
      (∀ path, ∃ answer roots' w'', (services.meet (.addRoot path) roots).run (I := host) world w' =
        (some (answer, roots'), w'') ∧ Answered (Adds roots) roots answer roots') ∧
      ∀ reference, ∃ answer roots' w'',
        (services.meet (.removeRoot reference) roots).run (I := host) world w' =
          (some (answer, roots'), w'') ∧ Answered (Removes reference roots) roots answer roots') ∧
    ((∀ (α : Type) (m : Act service α), ∃ result roots w',
      (m.through services.meet (initial home extra)).run (I := host) world w =
        (some (result, roots), w') ∧
      roots.filter Root.isSystem = [⟨systemSpace, home⟩] ∧ Distinct roots) ↔
      (systemSpace :: extra.map fun path => (Root.at path).space).Nodup) := by
  refine ⟨fun α m => ?_, ?_⟩
  · obtain ⟨result, roots, w', hrun, hkept⟩ :=
      kept_through services world m (Kept.start home extra) w
    exact ⟨result, roots, w', hrun, hkept,
      fun path => run_meet_addRoot services world path roots w',
      fun reference => run_meet_removeRoot services world reference roots w'⟩
  · constructor
    · intro h
      obtain ⟨result, roots, w', hrun, -, hdistinct⟩ := h Unit (.done ())
      cases hrun
      exact (distinct_initial_iff home extra).1 hdistinct
    · intro hnodup α m
      obtain ⟨result, roots, w', hrun, hkept⟩ :=
        kept_through services world m (Kept.start home extra) w
      have hdistinct := hkept.distinct ((distinct_initial_iff home extra).2 hnodup)
      refine ⟨result, roots, w', hrun, hkept.filter_isSystem fun path hpath hspace => ?_, hdistinct⟩
      exact (List.nodup_cons.1 hnodup).1 (List.mem_map.2 ⟨path, hpath, hspace⟩)

-- a configuration can have directories of one name
example : ¬ Distinct (initial "/home" ["/srv/a/data", "/srv/b/data"]) := by
  rw [distinct_initial_iff]
  decide +kernel

end Local

end Sluice
