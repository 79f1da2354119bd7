import Sluice.Proofs.Session.Valid
import Sluice.Proofs.Shell.Live

/-!
# Programs that keep the session in order

A program over the live session keeps it in order if every session that it puts into place is in
order, as long as services answer with data in which no mapping has a key twice. `Act.Keeps` says so
by recursion on the program, and what it says of a program holds of every run (`Act.Keeps.run`).
-/

namespace Sluice

variable {ω α β : Type}

/-- Whether the data of an answer has no key twice. -/
def ServiceRequest.Lawful : (q : ServiceRequest) → q.Answer → Prop
  | runAction .., a | runQuery .., a | runFlow .., a | runScript .., a | loadSession _, a =>
    ∀ v, a = Except.ok v → v.Distinct
  | _, _ => True

/-- A world of services whose answers are lawful. -/
def ServiceRequest.Fair (world : (q : ServiceRequest) → ω → Option q.Answer × ω) : Prop :=
  ∀ q w, ∀ a ∈ (world q w).1, q.Lawful a

/-- What a request asks of the program, and what it promises of the answer. -/
def JobRequest.Keeps : (q : JobRequest) → (Option q.Answer → Prop) → Prop
  | consult q, next => ∀ a : Option q.Answer, (∀ b ∈ a, q.Lawful b) → next a
  | session, next => ∀ s : Session, s.Valid → next (some s)
  | replace s, next => s.Valid ∧ next (some ())

namespace Act

/-- The program keeps the session in order, and its result has a property. -/
def Keeps (P : α → Prop) : Act live α → Prop
  | done a => P a
  | stop => True
  | ask q next => JobRequest.Keeps q fun a => (next a).Keeps P

namespace Keeps

variable {P : α → Prop} {Q : β → Prop}

theorem bind {m : Act live α} {f : α → Act live β} (hm : m.Keeps P)
    (hf : ∀ a, P a → (f a).Keeps Q) : (m >>= f).Keeps Q := by
  change (m.bind f).Keeps Q
  induction m with
  | done a => exact hf a hm
  | stop => trivial
  | ask q next ih =>
      cases q with
      | consult q => exact fun a ha => ih a (hm a ha)
      | session => exact fun s hs => ih (some s) (hm s hs)
      | replace s => exact ⟨hm.1, ih (some ()) hm.2⟩

theorem consult (q : ServiceRequest) :
    Keeps q.Lawful (perform (I := live) (.consult q) : Act live q.Answer) := by
  intro a ha
  cases a with
  | none => trivial
  | some b => exact ha b rfl

theorem session : Keeps Session.Valid (perform (I := live) .session : Act live Session) :=
  fun _ hs => hs

theorem replace {s : Session} (hs : s.Valid) :
    Keeps (fun _ => True) (perform (I := live) (.replace s) : Act live Unit) :=
  ⟨hs, trivial⟩

/-- A run of the program leaves the session in order. -/
theorem run {world : (q : ServiceRequest) → ω → Option q.Answer × ω}
    (hworld : ServiceRequest.Fair world) {m : Act live α} (hm : m.Keeps P) {s : Session}
    (hs : s.Valid) (w : ω) :
    (m.runLive world s w).2.1.Valid ∧ ∀ a ∈ (m.runLive world s w).1, P a := by
  induction m generalizing s w with
  | done a =>
      refine ⟨hs, fun b hb => ?_⟩
      cases hb
      exact hm
  | stop => exact ⟨hs, nofun⟩
  | ask q next ih =>
      cases q with
      | consult q => exact ih _ (hm _ (hworld q w)) hs _
      | session => exact ih _ (hm s hs) hs w
      | replace t => exact ih _ hm.2 hm.1 w

end Keeps

end Act

/-! ## Jobs -/

namespace Job

/-- The job keeps the session in order, and its result has a property unless it fails. -/
def Keeps (P : α → Prop) (m : Job α) : Prop :=
  Act.Keeps (fun r => ∀ a, r = .ok a → P a) m.run

namespace Keeps

variable {P : α → Prop} {Q : β → Prop}

theorem pure {a : α} (h : P a) : Keeps P (pure a) := by
  rintro _ ⟨⟩
  exact h

theorem fail (failure : Failure) : Keeps P (Job.fail failure) := by
  rintro _ ⟨⟩

theorem bind {m : Job α} {f : α → Job β} (hm : Keeps P m) (hf : ∀ a, P a → Keeps Q (f a)) :
    Keeps Q (m >>= f) := by
  refine Act.Keeps.bind hm fun r hr => ?_
  cases r with
  | ok a => exact hf a (hr a rfl)
  | error e =>
      rintro _ ⟨⟩

/-- A request of the live session, none of which fails. -/
theorem lift {m : Act live α} (hm : m.Keeps P) : Keeps P (ExceptT.lift m : Job α) := by
  refine Act.Keeps.bind hm fun a ha => ?_
  rintro _ ⟨⟩
  exact ha

theorem ask (q : ServiceRequest) : Keeps q.Lawful (Job.ask q) :=
  lift (.consult q)

theorem session : Keeps Session.Valid Job.session :=
  lift .session

theorem replace {s : Session} (hs : s.Valid) : Keeps (fun _ => True) (Job.replace s) :=
  lift (.replace hs)

theorem ofExcept {r : Except Failure α} (h : ∀ a, r = .ok a → P a) : Keeps P (ofExcept r) := by
  cases r with
  | ok a => exact Keeps.pure (h a rfl)
  | error e => exact Keeps.fail e

theorem expect {label : String} {r : Except ServiceFault α} (h : ∀ a, r = .ok a → P a) :
    Keeps P (Job.expect label r) := by
  cases r with
  | ok a => exact Keeps.pure (h a rfl)
  | error e => exact Keeps.fail _

theorem now : Keeps (fun _ => True) Job.now :=
  (ask .clock).bind fun _ _ => Keeps.pure trivial

end Keeps

end Job

end Sluice
