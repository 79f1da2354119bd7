import Sluice.Host

/-!
# Acts on a machine

What a sequence of requests comes to on a machine that may interrupt any of them.
-/

namespace Sluice.Host

variable {ω α β : Type} (world : (q : HostRequest) → ω → Option q.Answer × ω)

theorem run_bind (m : Act host α) (f : α → Act host β) (w : ω) :
    (m.bind f).run (I := host) world w =
      match m.run (I := host) world w with
      | (some a, w) => (f a).run (I := host) world w
      | (none, w) => (none, w) := by
  refine (Act.run_bind (I := host) world m f w).trans ?_
  rcases m.run (I := host) world w with ⟨_ | a, w'⟩
  · rfl
  · rfl

theorem run_bind_of_eq {m : Act host α} {a : α} {w w' : ω}
    (h : m.run (I := host) world w = (some a, w')) (f : α → Act host β) :
    (m.bind f).run (I := host) world w = (f a).run (I := host) world w' := by
  rw [run_bind, h]

/-- What comes to an end has come through its first part. -/
theorem run_bind_eq_some {m : Act host α} {f : α → Act host β} {b : β} {w w' : ω}
    (h : (m.bind f).run (I := host) world w = (some b, w')) :
    ∃ a w₁, m.run (I := host) world w = (some a, w₁) ∧
      (f a).run (I := host) world w₁ = (some b, w') := by
  rw [run_bind] at h
  rcases hm : m.run (I := host) world w with ⟨_ | a, w₁⟩
  · simp [hm] at h
  · rw [hm] at h
    exact ⟨a, w₁, rfl, h⟩

theorem run_attempt (m : Act host α) (w : ω) :
    m.attempt.run (I := host) world w =
      (some (m.run (I := host) world w).1, (m.run (I := host) world w).2) :=
  Act.run_attempt (I := host) world m w

theorem run_request (q : HostRequest) (w : ω) : (ask q).run (I := host) world w = world q w := by
  unfold ask Act.perform
  rcases h : world q w with ⟨_ | answer, w'⟩
  · simp only [Act.run, h]
  · simp only [Act.run, h]

theorem run_ask (q : HostRequest) (f : q.Answer → Act host α) (w : ω) :
    ((ask q).bind f).run (I := host) world w =
      match world q w with
      | (some answer, w) => (f answer).run (I := host) world w
      | (none, w) => (none, w) := by
  rw [run_bind, run_request]
  rcases world q w with ⟨_ | answer, w'⟩
  · rfl
  · rfl

/-- What needs no answer goes on even if it is interrupted. -/
theorem run_tell (q : HostRequest) (f : Unit → Act host α) (w : ω) :
    ((tell q).bind f).run (I := host) world w = (f ()).run (I := host) world (world q w).2 := by
  rw [run_bind]
  rfl

theorem run_interruptible {m : Act host α} {a : α} {w w' : ω}
    (h : m.run (I := host) world (world .listen w).2 = (some a, w')) :
    (interruptible m).run (I := host) world w = (some a, (world .stopListening w').2) := by
  refine (run_tell world .listen _ w).trans ?_
  exact (run_bind_of_eq world h _).trans (run_tell world .stopListening _ w')

/-- What each request that is met keeps, a program that is met keeps. -/
theorem run_through_keeps {I : Interface} {σ : Type} (keeps : σ → ω → Prop)
    {meet : (q : I.Request) → σ → Act host (Option (I.Answer q) × σ)}
    (hmeet : ∀ q s w, keeps s w → ∃ answer s' w',
      (meet q s).run (I := host) world w = (some (answer, s'), w') ∧ keeps s' w')
    (m : Act I α) {s : σ} {w : ω} (h : keeps s w) :
    ∃ r s' w', (m.through meet s).run (I := host) world w = (some (r, s'), w') ∧ keeps s' w' := by
  induction m generalizing s w with
  | done a => exact ⟨some a, s, w, rfl, h⟩
  | stop => exact ⟨none, s, w, rfl, h⟩
  | ask q next ih =>
      obtain ⟨answer, s₁, w₁, hrun, h₁⟩ := hmeet q s w h
      obtain ⟨r, s', w', hrest, h'⟩ := ih answer h₁
      exact ⟨r, s', w', (run_bind_of_eq world hrun _).trans hrest, h'⟩

end Sluice.Host
