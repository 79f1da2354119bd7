import Mathlib.Logic.Relation
import Sluice.Output.Render
import Sluice.Proofs.Results

/-!
# Values without wrappers

A value that is a wrapper holds one other value, which may be a wrapper in its turn, also where it
has only been read from a text (`Value.Wraps`). There is an end to this, since what a wrapper holds
weighs less than the wrapper. `Value.unwrap` leads to that end, and takes nothing else off: its
result is the one value that is reached from wrapper to content and is no wrapper itself
(`Value.unwrap_eq_iff`).

Where a result is queried, or shown in any form but JSON, it makes no difference whether it comes in
a wrapper (`Value.unwrap_settles`).
-/

namespace Sluice.Value

open Relation (ReflTransGen)

/-! ## Wrappers -/

/-- A mapping with one field is a wrapper around a mapping or a sequence in that field, and around
what the text in a field `content` reads as. -/
inductive Wraps : Value → Value → Prop where
  | mapping (key : String) (fields : Fields) : Wraps (.map [(key, .map fields)]) (.map fields)
  | sequence (key : String) (items : List Value) : Wraps (.map [(key, .seq items)]) (.seq items)
  | content {text : String} {inner : Value} (h : read? text = some inner) :
      Wraps (.map [("content", .str text)]) inner

/-- The value is no wrapper. -/
def Bare (v : Value) : Prop :=
  ∀ inner, ¬ Wraps v inner

def IsContainer (v : Value) : Prop :=
  (∃ fields, v = .map fields) ∨ ∃ items, v = .seq items

theorem payload?_eq_some_iff {v inner : Value} : v.payload? = some inner ↔ Wraps v inner := by
  constructor
  · intro h
    unfold payload? at h
    split at h
    · next key held =>
      split at h
      · next fields =>
        cases h
        exact .mapping key fields
      · next items =>
        cases h
        exact .sequence key items
      · next text =>
        split at h
        · next hkey =>
          subst hkey
          exact .content h
        · cases h
      · cases h
    · cases h
  · intro h
    cases h with
    | mapping => rfl
    | sequence => rfl
    | content h =>
        rw [payload?]
        exact (if_pos rfl).trans h

theorem payload?_eq_none_iff {v : Value} : v.payload? = none ↔ v.Bare := by
  rw [Option.eq_none_iff_forall_ne_some]
  exact forall_congr' fun inner => not_congr payload?_eq_some_iff

theorem Wraps.eq {v inner inner' : Value} (h : Wraps v inner) (h' : Wraps v inner') :
    inner = inner' := by
  rw [← payload?_eq_some_iff] at h h'
  exact Option.some.inj (h.symm.trans h')

/-- Wrappers around wrappers come to an end. -/
theorem wellFounded_wraps : WellFounded fun inner outer => Wraps outer inner := by
  refine Subrelation.wf (fun {inner outer} h => ?_) (measure weight).wf
  show inner.weight < outer.weight
  exact weight_payload?_lt (payload?_eq_some_iff.2 h)

/-! ## Taking wrappers off -/

theorem unwrap_of_wraps {v inner : Value} (h : Wraps v inner) : v.unwrap = inner.unwrap := by
  have hpayload := payload?_eq_some_iff.2 h
  rw [unwrap]
  split
  · next inner' hsome =>
    rw [hpayload] at hsome
    cases hsome
    rfl
  · next hnone =>
    rw [hpayload] at hnone
    cases hnone

theorem unwrap_of_bare {v : Value} (h : v.Bare) : v.unwrap = v := by
  have hpayload := payload?_eq_none_iff.2 h
  rw [unwrap]
  split
  · next hsome =>
    rw [hpayload] at hsome
    cases hsome
  · rfl

theorem unwrap_of_reaches {v w : Value} (h : ReflTransGen Wraps v w) : v.unwrap = w.unwrap := by
  induction h with
  | refl => rfl
  | tail _ hstep ih => rw [ih, unwrap_of_wraps hstep]

/-- By the weight of what is left: a wrapper is taken off, and the rest is done with its content. -/
theorem reaches_unwrap (v : Value) : ReflTransGen Wraps v v.unwrap ∧ v.unwrap.Bare := by
  induction v using wellFounded_wraps.induction with
  | _ v ih =>
      cases hpayload : v.payload? with
      | none =>
          have hbare := payload?_eq_none_iff.1 hpayload
          rw [unwrap_of_bare hbare]
          exact ⟨.refl, hbare⟩
      | some inner =>
          have hwraps := payload?_eq_some_iff.1 hpayload
          obtain ⟨hreaches, hbare⟩ := ih inner hwraps
          rw [unwrap_of_wraps hwraps]
          exact ⟨.head hwraps hreaches, hbare⟩

/-- The value without its wrappers is the one that is reached through them and is none itself. -/
theorem unwrap_eq_iff {v w : Value} : v.unwrap = w ↔ ReflTransGen Wraps v w ∧ w.Bare := by
  constructor
  · rintro rfl
    exact reaches_unwrap v
  · rintro ⟨hreaches, hbare⟩
    rw [unwrap_of_reaches hreaches, unwrap_of_bare hbare]

theorem unwrap_unwrap (v : Value) : v.unwrap.unwrap = v.unwrap :=
  unwrap_of_bare (reaches_unwrap v).2

theorem IsContainer.wraps {p : Value} (h : p.IsContainer) (key : String) :
    Wraps (.map [(key, p)]) p := by
  rcases h with ⟨fields, rfl⟩ | ⟨items, rfl⟩
  · exact .mapping key fields
  · exact .sequence key items

/-! ## Showing -/

/-- The mode in which a result is shown. -/
def mode (directives : Directives) (defaults : OutputDefaults) : Except FormatFault OutputMode :=
  OutputMode.ofName (directives.output.getD defaults.mode)

/-- Values that are the same without wrappers are shown in the same way, unless they are shown as
JSON just as they are. -/
theorem render_of_unwrap_eq {v w : Value} (h : v.unwrap = w.unwrap) {directives : Directives}
    {defaults : OutputDefaults}
    (hshown : directives.query.isSome = true ∨ mode directives defaults = .ok .auto ∨
      mode directives defaults = .ok .table) :
    v.render directives defaults = w.render directives defaults := by
  unfold render
  cases hquery : directives.query with
  | some source => simp only [h]
  | none =>
      have hmode : mode directives defaults = .ok .auto ∨ mode directives defaults = .ok .table := by
        rw [hquery] at hshown
        exact hshown.resolve_left Bool.false_ne_true
      unfold mode at hmode
      rcases hmode with hmode | hmode
      · simp only [hmode, bind, Except.bind, h]
      · simp only [hmode, bind, Except.bind, h]

/-- Taking off wrappers ends for every value, with the value that is reached through them and is no
wrapper itself, so that there is nothing left to take off. A mapping or a sequence in a field of its
own is then shown as without it, or fails to be shown in the same way, if it is queried or the form
is chosen automatically or is that of a table. -/
theorem unwrap_settles :
    (WellFounded fun inner outer => Wraps outer inner) ∧
    (∀ v w : Value, v.unwrap = w ↔ ReflTransGen Wraps v w ∧ w.Bare) ∧
    (∀ v : Value, v.unwrap.unwrap = v.unwrap) ∧
    ∀ (key : String) (p : Value) (directives : Directives) (defaults : OutputDefaults),
      p.IsContainer →
      (directives.query.isSome = true ∨ mode directives defaults = .ok .auto ∨
        mode directives defaults = .ok .table) →
      render (.map [(key, p)]) directives defaults = p.render directives defaults := by
  refine ⟨wellFounded_wraps, fun _ _ => unwrap_eq_iff, unwrap_unwrap, ?_⟩
  intro key p directives defaults hp hshown
  exact render_of_unwrap_eq (unwrap_of_wraps (hp.wraps key)) hshown

/-- A wrapper of each kind, one inside the other: JSON text in a field, and that in a field again. -/
theorem unwrap_settles_textInside :
    unwrap (.map [("results", .map [("content", .str "[\x7b\"a\": 1\x7d]")])]) =
      .seq [.map [("a", .ofNat 1)]] ∧
    render (.map [("results", .map [("content", .str "[\x7b\"a\": 1\x7d]")])])
      ⟨none, none, some ".[0].a"⟩ ⟨"json", 48⟩ = .ok "1" ∧
    render (.map [("content", .str "[\x7b\"a\": 1\x7d]")])
      ⟨none, none, some ".[0].a"⟩ ⟨"json", 48⟩ = .ok "1" := by
  have hrender : render (.map [("results", .map [("content", .str "[\x7b\"a\": 1\x7d]")])])
      ⟨none, none, some ".[0].a"⟩ ⟨"json", 48⟩ = .ok "1" := eq_ok_of_toOption (by decide +kernel)
  refine ⟨by decide +kernel, hrender, ?_⟩
  rw [← hrender]
  exact (unwrap_settles.2.2.2 "results" _ _ _ (.inl ⟨_, rfl⟩) (.inl rfl)).symm

end Sluice.Value
