import Mathlib.Data.List.TakeWhile
import Sluice.Proofs.Order.Delivery
import Sluice.Proofs.Workspace.Roots

/-!
# Local services in a world

The services of the local machine and the machine that they are on are a world in which commands
run. Where nothing stirs on the machine, a path as typed has a meaning, a root is added where the
path leads to, and one is removed as `Workspace.remove` has it.

* `Surroundings` : what can be seen of a machine by whoever names a directory on it;
* `Expansion.settles_expand`, `Expansion.run_expand_of_plain` : paths as they are meant;
* `Local.run_through` : the local services as a world of their own;
* `Local.serving_addRoot`, `Local.serving_removeRoot` : changes of the roots in it.
-/

namespace Sluice

/-! ## Surroundings -/

/-- The environment, and what stands at locations. -/
structure Surroundings where
  environment : String → Option String
  kind : String → Except FileFault FileKind
  canonical : String → Except FileFault String

namespace Surroundings

/-- A machine that is as it is seen, and stays so while it is looked at. -/
structure Answers {ω : Type} (around : Surroundings)
    (world : (q : HostRequest) → ω → Option q.Answer × ω) (w : ω) : Prop where
  environment : ∀ name, world (.environment name) w = (some (around.environment name), w)
  kind : ∀ path, world (.kindOf path) w = (some (around.kind path), w)
  canonical : ∀ path, world (.canonical path) w = (some (around.canonical path), w)

end Surroundings

/-! ## Paths as they are meant -/

namespace Expansion

open Host

variable {ω α β : Type} {world : (q : HostRequest) → ω → Option q.Answer × ω} {w : ω}

/-- The act comes to its end and leaves the world as it was. -/
def Settles (world : (q : HostRequest) → ω → Option q.Answer × ω) (w : ω) (m : Act host α) : Prop :=
  ∃ a, m.run (I := host) world w = (some a, w)

theorem settles_pure (a : α) : Settles world w (pure a) :=
  ⟨a, rfl⟩

theorem Settles.bind {m : Act host α} {f : α → Act host β} (hm : Settles world w m)
    (hf : ∀ a, Settles world w (f a)) : Settles world w (m.bind f) := by
  obtain ⟨a, ha⟩ := hm
  obtain ⟨b, hb⟩ := hf a
  exact ⟨b, (run_bind_of_eq world ha f).trans hb⟩

section

variable (h : ∀ name, ∃ value, world (.environment name) w = (some value, w))

include h

theorem settles_environment (name : String) : Settles world w (ask (.environment name)) := by
  obtain ⟨value, hvalue⟩ := h name
  exact ⟨value, (run_request world (.environment name) w).trans hvalue⟩

theorem settles_fillPiece (p : Piece) : Settles world w p.fill? := by
  cases p with
  | text s => exact settles_pure _
  | plain name => exact settles_environment h name
  | braced name default? =>
      refine (settles_environment h name).bind fun value => ?_
      split
      · exact settles_pure _
      · exact settles_pure _
      · exact settles_pure _
      · exact settles_pure _

theorem settles_fill? (ps : List Piece) : Settles world w (fill? ps) := by
  induction ps with
  | nil => exact settles_pure _
  | cons p ps ih =>
      refine (settles_fillPiece h p).bind fun filled => ?_
      split
      · exact settles_pure _
      · exact ih.bind fun _ => settles_pure _

theorem settles_fillHome (path : String) : Settles world w (fillHome path) := by
  unfold fillHome
  split
  · split
    · refine (settles_environment h "HOME").bind fun home => ?_
      split
      · exact settles_pure _
      · exact settles_pure _
    · exact settles_pure _
  · exact settles_pure _

/-- In an environment that stays, every path has a meaning. -/
theorem settles_expand (path : String) : Settles world w (expand path) := by
  refine (settles_fill? h (pieces path.toList)).bind fun filled => ?_
  split
  · exact settles_fillHome h path
  · split
    · exact settles_pure _
    · exact settles_fillHome h _

end

theorem pieces_of_not_mem {cs : List Char} (hdollar : '$' ∉ cs) :
    pieces cs = [.text (String.ofList cs)] := by
  have hnone : cs.dropWhile (· != '$') = [] := by
    rw [List.dropWhile_eq_nil_iff]
    intro c hc
    have hne : c ≠ '$' := fun heq => hdollar (heq ▸ hc)
    simpa using hne
  rw [pieces]
  split
  · rfl
  · next hsome =>
    rw [hnone] at hsome
    cases hsome

theorem fillHome_of_head_ne {path : String} (htilde : path.toList.head? ≠ some '~') :
    fillHome path = Act.done path := by
  unfold fillHome
  split
  · next rest hrest =>
    rw [hrest] at htilde
    exact absurd rfl htilde
  · rfl

/-- A path that names no variable and does not begin with a tilde is meant as it is written. -/
theorem run_expand_of_plain (world : (q : HostRequest) → ω → Option q.Answer × ω) {path : String}
    (hdollar : '$' ∉ path.toList) (htilde : path.toList.head? ≠ some '~') (w : ω) :
    (expand path).run (I := host) world w = (some path, w) := by
  have hfilled : (fill? (pieces path.toList)).run (I := host) world w = (some (some path), w) := by
    rw [pieces_of_not_mem hdollar, String.ofList_toList]
    have hempty : path ++ "" = path := String.append_empty
    exact congrArg (fun filled => (some (some filled), w)) hempty
  refine (run_bind_of_eq world hfilled _).trans ?_
  dsimp only
  split
  · rfl
  · rw [fillHome_of_head_ne htilde]
    rfl

end Expansion

/-! ## The local services as a world -/

namespace Local

open Host

variable {ω : Type} (services : Local) (world : (q : HostRequest) → ω → Option q.Answer × ω)

/-- The services with the roots, on a machine. -/
def serving (q : ServiceRequest) : List Root × ω → Option q.Answer × (List Root × ω)
  | (roots, w) =>
    match (services.meet q roots).run (I := host) world w with
    | (some (answer, roots), w) => (answer, (roots, w))
    | (none, w) => (none, (roots, w))

theorem serving_of_meet {services : Local} {world : (q : HostRequest) → ω → Option q.Answer × ω}
    {q : ServiceRequest} {roots roots' : List Root} {answer : Option q.Answer} {w w' : ω}
    (h : (services.meet q roots).run (I := host) world w = (some (answer, roots'), w')) :
    services.serving world q (roots, w) = (answer, (roots', w')) := by
  simp only [serving, h]

/-- A program that is served runs in that world. -/
theorem run_through {α : Type} (m : Act service α) (roots : List Root) (w : ω) :
    (m.through services.meet roots).run (I := host) world w =
      let r := m.run (I := service) (services.serving world) (roots, w)
      (some (r.1, r.2.1), r.2.2) := by
  induction m generalizing roots w with
  | done result => rfl
  | stop => rfl
  | ask q next ih =>
      obtain ⟨answer, roots', w', hmeet, -⟩ := run_meet_cases services world q roots w
      have hserving : services.serving world q (roots, w) = (answer, (roots', w')) :=
        serving_of_meet hmeet
      have hrun : ((Act.ask q next : Act service α)).run (I := service) (services.serving world)
          (roots, w) =
            (next answer).run (I := service) (services.serving world) (roots', w') :=
        congrArg (fun r : Option q.Answer × (List Root × ω) =>
          (next r.1).run (I := service) (services.serving world) r.2) hserving
      refine (Host.run_bind_of_eq world hmeet _).trans ?_
      rw [hrun]
      exact ih answer roots' w'

def perform (registry : Registry) (i : Intent) (s : Session) (roots : List Root) :
    Act host (Option (Option (Except Failure Value) × Session) × List Root) :=
  ((registry.dispatch i none).run.onSession s).through services.meet roots

theorem run_perform (registry : Registry) (i : Intent) (s : Session) (roots : List Root) (w : ω) :
    (services.perform registry i s roots).run (I := host) world w =
      let r := (registry.dispatch i none).runLive (services.serving world) s (roots, w)
      (some (some (r.1, r.2.1), r.2.2.1), r.2.2.2) := by
  unfold perform
  rw [run_through, Act.run_onSession]
  rfl

section Requests

variable {services world} {around : Surroundings} {w : ω}

theorem serving_of_serve {q : ServiceRequest} {roots roots' : List Root} {answer : q.Answer}
    {w' : ω} (h : (services.serve q roots).run (I := host) world w = (some (answer, roots'), w')) :
    services.serving world q (roots, w) = (some answer, (roots', w')) := by
  refine serving_of_meet ?_
  rw [run_meet, h]

variable (services) in
theorem serving_expand (h : around.Answers world w) (path : String) (roots : List Root) :
    ∃ meant, (Expansion.expand path).run (I := host) world w = (some meant, w) ∧
      services.serving world (.expand path) (roots, w) = (some meant, (roots, w)) := by
  obtain ⟨meant, hmeant⟩ :=
    Expansion.settles_expand (fun name => ⟨_, h.environment name⟩) (w := w) path
  exact ⟨meant, hmeant, serving_of_serve (Host.run_bind_of_eq world hmeant _)⟩

theorem run_canonical (h : around.Answers world w) (path : String) :
    (ask (.canonical path)).run (I := host) world w = (some (around.canonical path), w) :=
  (Host.run_request world (.canonical path) w).trans (h.canonical path)

theorem run_addRoot (h : around.Answers world w) (path : String) (roots : List Root) :
    (Workspace.addRoot path roots).run (I := host) world w =
      (some (match (around.kind path).toOption, around.canonical path with
        | none, _ => .error (.missing s!"directory '{path}'")
        | some .directory, .error fault => .error (.file fault)
        | some .directory, .ok canonical => Workspace.add roots canonical
        | some _, _ => .error (.failed s!"'{path}' is not a directory")), w) := by
  have hkind : (kind? path).run (I := host) world w = (some (around.kind path).toOption, w) :=
    Host.run_bind_of_eq world ((Host.run_request world (.kindOf path) w).trans (h.kind path)) _
  refine (Host.run_bind_of_eq world hkind _).trans ?_
  rcases (around.kind path).toOption with _ | _ | _ | _
  · rfl
  · rfl
  · refine (Host.run_bind_of_eq world (run_canonical h path) _).trans ?_
    cases around.canonical path with
    | error fault => rfl
    | ok canonical => rfl
  · rfl

variable (services) in
/-- A root is added at the canonical location of the path, or all stays as it is. -/
theorem serving_addRoot (h : around.Answers world w) (path : String) (roots : List Root) :
    (∃ fault, services.serving world (.addRoot path) (roots, w) =
      (some (.error fault), (roots, w))) ∨
    ∃ c, around.canonical path = .ok c ∧ Workspace.Adds roots (.at c) (roots ++ [.at c]) ∧
      services.serving world (.addRoot path) (roots, w) =
        (some (.ok (.at c)), (roots ++ [.at c], w)) := by
  have hserving : ∀ {result : Except ServiceFault (Root × List Root)},
      (Workspace.addRoot path roots).run (I := host) world w = (some result, w) →
        services.serving world (.addRoot path) (roots, w) =
          (some (changed roots result).1, ((changed roots result).2, w)) :=
    fun hrun => serving_of_serve (Host.run_bind_of_eq world hrun _)
  have hrun := run_addRoot h path roots
  split at hrun
  · exact .inl ⟨_, hserving hrun⟩
  · exact .inl ⟨_, hserving hrun⟩
  · next c _ hcanonical =>
    cases hroots : Workspace.add roots c with
    | error fault =>
        rw [hroots] at hrun
        exact .inl ⟨_, hserving hrun⟩
    | ok added =>
        obtain ⟨root, roots'⟩ := added
        obtain ⟨rfl, hadds⟩ := Workspace.adds_of_add hroots
        obtain rfl := hadds.last
        rw [hroots] at hrun
        exact .inr ⟨c, hcanonical, hadds, hserving hrun⟩
  · exact .inl ⟨_, hserving hrun⟩

theorem serving_removeRoot (h : around.Answers world w) (reference : String) (roots : List Root) :
    services.serving world (.removeRoot reference) (roots, w) =
      let r := changed roots
        (Workspace.remove roots reference (around.canonical reference).toOption)
      (some r.1, (r.2, w)) := by
  refine serving_of_serve ((Host.run_bind_of_eq world ?_ _).trans rfl)
  exact Host.run_bind_of_eq world (run_canonical h reference) _

end Requests

end Local

end Sluice
