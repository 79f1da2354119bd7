import Sluice.Dispatch
import Sluice.Proofs.Order.Reading
import Sluice.Proofs.Shell.Keeping

/-!
# Commands keep the session in order

Every order leaves the session in order and comes to a value in which no key stands twice
(`Order.keeps_execute`), and so does every command of a pipeline, from its name and arguments on
(`Registry.keeps_dispatch`).
-/

namespace Sluice

/-! ## Values out of a session -/

namespace Fields

theorem distinct_of_get? {fs : Fields} (h : Value.DistinctFields fs) {key : String} {v : Value}
    (hv : fs.get? key = some v) : v.Distinct := by
  induction fs with
  | nil => cases hv
  | cons f fs ih =>
      obtain ⟨k, x⟩ := f
      rw [get?] at hv
      split at hv
      · cases hv
        exact h.1
      · exact ih h.2 hv

end Fields

namespace Path

theorem distinct_of_follow {steps : List Step} {walked : String} {v w : Value} (hv : v.Distinct)
    (h : follow steps walked v = .ok w) : w.Distinct := by
  induction steps generalizing walked v with
  | nil =>
      cases h
      exact hv
  | cons step steps ih =>
      rw [follow] at h
      cases hs : step.follow walked v with
      | error e => simp [hs] at h
      | ok u =>
          rw [hs] at h
          refine ih ?_ h
          unfold Step.follow at hs
          split at hs
          · split at hs
            · next hget =>
              cases hs
              exact Fields.distinct_of_get? hv.2 hget
            · cases hs
          · split at hs
            · next hget =>
              cases hs
              exact Value.distinctList_iff.1 hv _ (List.mem_of_getElem? hget)
            · cases hs
          · cases hs
          · cases hs

end Path

namespace Session.Valid

theorem lookup {s : Session} (hs : s.Valid) {expression : String} {v : Value}
    (h : s.lookup expression = .ok v) : v.Distinct := by
  unfold Session.lookup at h
  split at h
  · cases h
  · next path _ =>
    split at h
    · cases h
    · next u hu =>
      exact Path.distinct_of_follow (hs.value? hu) (mapError_eq_ok h)

theorem resolveText {s : Session} (hs : s.Valid) {text : String} {v : Value}
    (h : Template.resolve s text = .ok v) : v.Distinct := by
  unfold Template.resolve at h
  dsimp only at h
  split at h
  · exact hs.lookup h
  · obtain ⟨cs, -, rfl⟩ := map_eq_ok h
    simp

end Session.Valid

namespace Value

theorem keys_of_resolveFields {s : Session} {fs fs' : Fields}
    (h : resolveFields s fs = .ok fs') : fs'.map Prod.fst = fs.map Prod.fst := by
  induction fs generalizing fs' with
  | nil =>
      cases h
      rfl
  | cons f fs ih =>
      obtain ⟨k, x⟩ := f
      rw [resolveFields] at h
      split at h
      · cases h
      · obtain ⟨rest, hrest, rfl⟩ := map_eq_ok h
        exact congrArg (k :: ·) (ih hrest)

mutual

theorem distinct_resolve {s : Session} (hs : s.Valid) : ∀ {v w : Value}, v.Distinct →
    v.resolve s = .ok w → w.Distinct
  | .str text, w, _, h => hs.resolveText h
  | .seq xs, w, hv, h => by
    obtain ⟨ys, hys, rfl⟩ := map_eq_ok h
    exact distinct_resolveItems hs hv hys
  | .map fs, w, hv, h => by
    obtain ⟨gs, hgs, rfl⟩ := map_eq_ok h
    exact ⟨keys_of_resolveFields hgs ▸ hv.1, distinct_resolveFields hs hv.2 hgs⟩
  | .null, w, hv, h => by
    cases h
    exact hv
  | .bool b, w, hv, h => by
    cases h
    exact hv
  | .num n, w, hv, h => by
    cases h
    exact hv

theorem distinct_resolveItems {s : Session} (hs : s.Valid) : ∀ {xs ys : List Value},
    DistinctList xs → resolveItems s xs = .ok ys → DistinctList ys
  | [], _, _, h => by
    cases h
    trivial
  | x :: xs, _, hxs, h => by
    rw [resolveItems] at h
    cases hx : x.resolve s with
    | error e => simp [hx] at h
    | ok y =>
        rw [hx] at h
        obtain ⟨ys, hys, rfl⟩ := map_eq_ok h
        exact ⟨distinct_resolve hs hxs.1 hx, distinct_resolveItems hs hxs.2 hys⟩

theorem distinct_resolveFields {s : Session} (hs : s.Valid) : ∀ {fs gs : List (String × Value)},
    DistinctFields fs → resolveFields s fs = .ok gs → DistinctFields gs
  | [], _, _, h => by
    cases h
    trivial
  | (k, x) :: fs, _, hfs, h => by
    rw [resolveFields] at h
    cases hx : x.resolve s with
    | error e => simp [hx] at h
    | ok y =>
        rw [hx] at h
        obtain ⟨gs, hgs, rfl⟩ := map_eq_ok h
        exact ⟨distinct_resolve hs hfs.1 hx, distinct_resolveFields hs hfs.2 hgs⟩

end

@[simp] theorem distinct_ofNat (n : Nat) : (ofNat n).Distinct := by
  simp [ofNat]

@[simp] theorem distinct_ofText? (text : Option String) : (ofText? text).Distinct := by
  cases text <;> simp [ofText?]

/-- A sequence of rows. -/
theorem distinct_seq_map {α : Type} {row : α → Value} (h : ∀ a, (row a).Distinct) (xs : List α) :
    (seq (xs.map row)).Distinct := by
  refine distinctList_iff.2 fun v hv => ?_
  obtain ⟨a, -, rfl⟩ := List.mem_map.1 hv
  exact h a

theorem distinct_keyList (fields : Fields) : (keyList fields).Distinct :=
  distinctList_iff.2 fun v hv => by
    obtain ⟨k, -, rfl⟩ := List.mem_map.1 hv
    simp

theorem distinct_summary (name : String) (v : Value) : (v.summary name).Distinct := by
  have hkeys := distinct_keyList
  unfold summary details
  split <;> simp [hkeys]

end Value

theorem Variable.distinct_row (v : Variable) : v.row.Distinct := by
  simp [row]

theorem Connection.distinct_row (active : Option String) (c : Connection) :
    (c.row active).Distinct := by
  simp [row]

theorem Asset.distinct_row (a : Asset) : a.row.Distinct := by
  simp [row]

theorem Root.distinct_row (r : Root) : r.row.Distinct := by
  simp [row]

theorem Registry.distinct_help (registry : Registry) : registry.help.Distinct :=
  Value.distinct_seq_map (fun _ => by simp) registry.entries

/-! ## Orders -/

namespace Order

open Job Value

theorem keeps_openConnection (source name : String) :
    Keeps Distinct (openConnection source name) := by
  refine (Keeps.ask _).bind fun reached _ => ?_
  refine (Keeps.expect fun _ _ => trivial).bind fun _ _ => ?_
  refine Keeps.now.bind fun time _ => ?_
  refine Keeps.session.bind fun s hs => ?_
  refine (Keeps.replace (hs.addConnection time name source)).bind fun _ _ => ?_
  exact Keeps.pure (by simp)

theorem keeps_closeConnection (name : String) : Keeps Distinct (closeConnection name) := by
  refine Keeps.session.bind fun s hs => ?_
  split
  · exact Keeps.fail _
  · refine (Keeps.replace (hs.removeConnection name)).bind fun _ _ => ?_
    exact Keeps.pure (by simp)

theorem keeps_runAction (name action : String) (value : Option Value) (parameters : Fields)
    (input : Option Value) : Keeps Distinct (runAction name action value parameters input) := by
  refine Keeps.session.bind fun s _ => ?_
  split
  · exact Keeps.fail _
  · exact (Keeps.ask _).bind fun _ ha => Keeps.expect ha

theorem keeps_startFlow (label reference : String) (parameters : Fields) :
    Keeps Distinct (startFlow label reference parameters) := by
  refine (Keeps.ask _).bind fun _ _ => ?_
  refine (Keeps.expect fun _ _ => trivial).bind fun asset _ => ?_
  refine Keeps.session.bind fun s _ => ?_
  exact (Keeps.ask _).bind fun _ ha => Keeps.expect ha

theorem keeps_startQuery (label reference : String) (on : Option String) (parameters : Fields) :
    Keeps Distinct (startQuery label reference on parameters) := by
  refine (Keeps.ask _).bind fun _ _ => ?_
  refine (Keeps.expect fun _ _ => trivial).bind fun asset _ => ?_
  refine Keeps.session.bind fun s _ => ?_
  refine (Keeps.ofExcept fun _ _ => trivial).bind fun c _ => ?_
  refine (Keeps.ask _).bind fun _ _ => ?_
  refine (Keeps.expect fun _ _ => trivial).bind fun text _ => ?_
  exact (Keeps.ask _).bind fun _ ha => Keeps.expect ha

theorem keeps_startScript (label reference : String) (parameters : Fields) (input : Option Value) :
    Keeps Distinct (startScript label reference parameters input) := by
  refine (Keeps.ask _).bind fun _ _ => ?_
  refine (Keeps.expect fun _ _ => trivial).bind fun asset _ => ?_
  exact (Keeps.ask _).bind fun _ ha => Keeps.expect ha

theorem keeps_save (label name : String) : Keeps Distinct (save label name) := by
  refine Keeps.session.bind fun s _ => ?_
  refine (Keeps.ask _).bind fun _ _ => ?_
  refine (Keeps.expect fun _ _ => trivial).bind fun _ _ => ?_
  exact Keeps.pure (by simp [Session.counts])

theorem keeps_load (label name : String) : Keeps Distinct (load label name) := by
  refine (Keeps.ask _).bind fun _ ha => ?_
  refine (Keeps.expect ha).bind fun document hdocument => ?_
  refine Keeps.session.bind fun s _ => ?_
  split
  · exact Keeps.fail _
  · next t ht =>
    have hvalid := Session.valid_ofSnapshot hdocument (Session.restore_eq_ok ht)
    refine (Keeps.replace hvalid).bind fun _ _ => ?_
    exact Keeps.pure (by simp [Session.counts])

theorem keeps_delete (label name : String) (sure : Bool) :
    Keeps Distinct (delete label name sure) := by
  have hdelete : Keeps Distinct (do
      expect label (← ask (.deleteSession name))
      return .map [("removed", .str name)]) := by
    refine (Keeps.ask _).bind fun _ _ => ?_
    refine (Keeps.expect fun _ _ => trivial).bind fun _ _ => ?_
    exact Keeps.pure (by simp)
  unfold delete
  split
  · refine (Keeps.ask _).bind fun consent _ => ?_
    split
    · exact Keeps.pure (by simp)
    · exact hdelete
  · exact hdelete

/-- The value of an order that has one is well-formed. -/
def Plain : Order → Prop
  | echo value => value.Distinct
  | _ => True

/-- An order keeps the session in order and comes to a well-formed value, if it is given one. -/
theorem keeps_execute (registry : Registry) (label : String) {input : Option Value}
    (hinput : ∀ v ∈ input, v.Distinct) {order : Order} (horder : order.Plain) :
    Keeps Distinct (order.execute registry label input) := by
  cases order with
  | connect source name => exact keeps_openConnection source name
  | connections =>
      refine Keeps.session.bind fun s _ => ?_
      exact Keeps.pure (distinct_seq_map (fun c => c.distinct_row _) _)
  | disconnect name => exact keeps_closeConnection name
  | listVariables =>
      refine Keeps.session.bind fun s _ => ?_
      exact Keeps.pure (distinct_seq_map (fun v => v.distinct_row) _)
  | getVariable reference =>
      refine Keeps.session.bind fun s hs => ?_
      exact Keeps.ofExcept fun _ h => hs.lookup h
  | removeVariable name =>
      refine Keeps.session.bind fun s hs => ?_
      split
      · exact Keeps.fail _
      · refine (Keeps.replace (hs.removeVariable name)).bind fun _ _ => ?_
        exact Keeps.pure (by simp)
  | clearVariables =>
      refine Keeps.session.bind fun s hs => ?_
      refine (Keeps.replace hs.clearVariables).bind fun _ _ => ?_
      exact Keeps.pure (by simp)
  | inspect reference =>
      refine Keeps.session.bind fun s _ => ?_
      refine (Keeps.ofExcept fun _ _ => trivial).bind fun v _ => ?_
      exact Keeps.pure (distinct_summary reference v)
  | listSessions =>
      refine (Keeps.ask _).bind fun _ _ => ?_
      refine (Keeps.expect fun _ _ => trivial).bind fun names _ => ?_
      exact Keeps.pure (distinct_seq_map (fun _ => by simp) names)
  | saveSession name => exact keeps_save label name
  | loadSession name => exact keeps_load label name
  | deleteSession name sure => exact keeps_delete label name sure
  | sessionStatus =>
      refine Keeps.session.bind fun s _ => ?_
      exact Keeps.pure (by simp [Session.counts])
  | listAssets kind =>
      refine (Keeps.ask _).bind fun assets _ => ?_
      exact Keeps.pure (distinct_seq_map Asset.distinct_row assets)
  | runFlow reference parameters => exact keeps_startFlow label reference parameters
  | runQuery reference on parameters => exact keeps_startQuery label reference on parameters
  | runScript reference parameters => exact keeps_startScript label reference parameters input
  | invoke name action value parameters => exact keeps_runAction name action value parameters input
  | listRoots =>
      refine (Keeps.ask _).bind fun roots _ => ?_
      exact Keeps.pure (distinct_seq_map Root.distinct_row roots)
  | addRoot path =>
      refine (Keeps.ask _).bind fun path _ => ?_
      refine (Keeps.ask _).bind fun _ _ => ?_
      refine (Keeps.expect fun _ _ => trivial).bind fun root _ => ?_
      exact Keeps.pure (by simp [root.distinct_row])
  | removeRoot reference =>
      refine (Keeps.ask _).bind fun _ _ => ?_
      refine (Keeps.expect fun _ _ => trivial).bind fun root _ => ?_
      exact Keeps.pure (by simp [root.distinct_row])
  | echo value => exact Keeps.pure horder
  | format =>
      refine Keeps.pure ?_
      cases input with
      | none => simp
      | some v => exact hinput v rfl
  | help => exact Keeps.pure registry.distinct_help

/-! ## Reading orders -/

/-- An order has no other value than one of its arguments. -/
theorem plain_of_read {command : Command} {args : Arguments}
    (hargs : ∀ v ∈ args.positional, v.Distinct) {order : Order}
    (h : Order.read command args = .ok order) : order.Plain := by
  cases readsAs_of_read h with
  | echo hvalue => exact hargs _ (List.mem_of_head? hvalue)
  | _ => trivial

end Order

/-! ## Commands -/

/-- The arguments of a command, as written, are well-formed. -/
def Intent.Plain (i : Intent) : Prop :=
  ∀ v ∈ i.positional, v.Distinct

theorem Intent.plain_order {registry : Registry} {s : Session} (hs : s.Valid) {i : Intent}
    (hi : i.Plain) {piped : Bool} {order : Order} {label : String}
    (h : i.order registry s piped = .ok (order, label)) : order.Plain := by
  unfold Intent.order at h
  split at h
  · cases h
  · obtain ⟨args, hargs, h⟩ := bind_eq_ok h
    obtain ⟨positional, hpositional, hargs⟩ := bind_eq_ok hargs
    obtain ⟨flags, -, hargs⟩ := bind_eq_ok hargs
    cases hargs
    obtain ⟨order', hread, h⟩ := bind_eq_ok h
    have horder : order' = order := by
      dsimp only at h
      split at h
      · cases h
      · cases h
        rfl
    subst horder
    refine Order.plain_of_read (fun v hv => ?_) hread
    have hdistinct := Value.distinct_resolveItems hs (Value.distinctList_iff.2 hi) hpositional
    exact Value.distinctList_iff.1 hdistinct v hv

/-- A command keeps the session in order and comes to a well-formed value. -/
theorem Registry.keeps_dispatch (registry : Registry) {i : Intent} (hi : i.Plain)
    {input : Option Value} (hinput : ∀ v ∈ input, v.Distinct) :
    Job.Keeps Value.Distinct (registry.dispatch i input) := by
  refine Job.Keeps.session.bind fun s hs => ?_
  refine (Job.Keeps.ofExcept (P := fun r => r.1.Plain) fun r hr => Intent.plain_order hs hi hr).bind
    fun r hr => ?_
  exact Order.keeps_execute registry r.2 hinput hr

end Sluice
