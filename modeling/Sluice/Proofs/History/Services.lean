import Sluice.Proofs.Prompt.Services
import Sluice.Proofs.Store.Shelf
import Sluice.Proofs.Workspace.Roots

/-!
# Services leave the history alone

The services of the local machine change the files of saved sessions and no others. So on a machine
where a file changes only if it is written or removed, they leave the history as it is
(`Local.sparesHistory`).

* `KeepsHistory` : a machine with the file of a history;
* `Store.file_ne_history` : the history is not the file of a saved session;
* `Local.asksOnly_spares` : no service asks for a change of the history.
-/

namespace Sluice

variable {ω σ : Type}

/-! ## Machines and services -/

/-- The request does not change the file at a location. -/
def HostRequest.Spares (file : String) : HostRequest → Prop
  | writeFile path _ | appendFile path _ | removeFile path => path ≠ file
  | _ => True

/-- The history under a home directory is kept: `shows` says what it holds. A record can be written
and then stands behind what was there, and nothing but a change of its file changes it. -/
structure KeepsHistory (world : (q : HostRequest) → ω → Option q.Answer × ω) (home : String)
    (shows : ω → String → Prop) : Prop where
  add : ∀ {w text} (more : String), shows w text →
    shows (world (.appendFile (History.file home) more)
      (world (.makeDirectory (History.directory home)) w).2).2 (text ++ more)
  spared : ∀ {w text} (q : HostRequest), q.Spares (History.file home) → shows w text →
    shows (world q w).2 text

/-- The services of a station come to an end and leave the history alone. -/
def Station.SparesHistory (station : Station σ)
    (world : (q : HostRequest) → ω → Option q.Answer × ω) (shows : ω → String → Prop) : Prop :=
  ∀ w text (q : ServiceRequest) (services : σ), shows w text →
    ∃ answer services' w', (station.meet q services).run (I := host) world w =
      (some (answer, services'), w') ∧ shows w' text

/-! ## The file of the history -/

/-- No saved session stands where the history does. -/
theorem Store.file_ne_history (store : Store) (name home : String) :
    store.file name ≠ .ok (History.file home) := by
  intro h
  cases hname : Text.isIdentifier name with
  | false =>
      unfold file at h
      rw [hname] at h
      cases h
  | true =>
      -- the names of the files differ in their endings
      rw [store.file_of_isIdentifier hname] at h
      have hsame := congrArg Location.name? (Except.ok.inj h)
      rw [Location.name?_join (isFileName_fileName hname), History.file,
        Location.name?_join (by decide)] at hsame
      have hlast := congrArg (fun name => name.toList.getLast?) (Option.some.inj hsame)
      simp [fileName, toString] at hlast

theorem Store.Confines.spares {store : Store} {q : HostRequest} (h : store.Confines q)
    (home : String) : q.Spares (History.file home) := by
  have hapart : ∀ path, (∃ name, store.file name = .ok path) → path ≠ History.file home := by
    rintro _ ⟨name, hname⟩ rfl
    exact store.file_ne_history name home hname
  cases q with
  | writeFile path text => exact hapart path h
  | removeFile path => exact hapart path h
  | appendFile path text => exact h.elim
  | _ => trivial

namespace Local

variable (services : Local)

/-- No service of the local machine changes the history. -/
theorem asksOnly_spares (home : String) (q : ServiceRequest) (roots : List Root) :
    (services.serve q roots).AsksOnly (HostRequest.Spares (History.file home)) := by
  by_cases h : services.consent = .operator ∧ ∃ question, q = .confirm question
  · obtain ⟨hop, question, rfl⟩ := h
    have hagree : (services.agree question).AsksOnly (HostRequest.Spares (History.file home)) := by
      rw [services.agree_of_operator hop]
      exact Prompt.asksOnly_confirm (fun _ => trivial) trivial question
    exact hagree.bind fun _ => .done _
  · have hconfined := services.asksOnly_serve (fun hop question hq => h ⟨hop, question, hq⟩) roots
    exact hconfined.mono fun q hq => hq.spares home

/-- The services of the local machine leave the history alone. -/
theorem sparesHistory {world : (q : HostRequest) → ω → Option q.Answer × ω} {home : String}
    {shows : ω → String → Prop} (hworld : KeepsHistory world home shows) (shell : Shell)
    (history : Option String) :
    (⟨shell, services.meet, history⟩ : Station (List Root)).SparesHistory world shows := by
  intro w text q roots h
  have hkept : shows ((services.serve q roots).run (I := host) world w).2 text :=
    (services.asksOnly_spares home q roots).within.run_keeps (shows · text)
      (fun q _ hq => hworld.spared q hq) h
  dsimp only
  rw [services.run_meet]
  rcases hserve : (services.serve q roots).run (I := host) world w with ⟨_ | ⟨answer, roots'⟩, w'⟩
  · exact ⟨none, roots, w', rfl, by rwa [hserve] at hkept⟩
  · exact ⟨some answer, roots', w', rfl, by rwa [hserve] at hkept⟩

end Local

end Sluice
