import Sluice.Value.Weight

/-!
# Envelopes

A result is often wrapped in a mapping that says nothing: one field that holds a mapping or a
sequence, or one field `content` that holds JSON text. Such wrappers are taken off, one after
another.
-/

namespace Sluice.Value

/-- What a wrapper holds, if the value is a wrapper. -/
def payload? : Value → Option Value
  | .map [(key, inner)] =>
    match inner with
    | .map _ | .seq _ => some inner
    | .str text => if key = "content" then read? text else none
    | _ => none
  | _ => none

theorem weight_payload?_lt {v inner : Value} (h : v.payload? = some inner) :
    inner.weight < v.weight := by
  unfold payload? at h
  split at h
  · split at h
    · obtain rfl := Option.some.inj h
      simp [weight, weightFields]
    · obtain rfl := Option.some.inj h
      simp [weight, weightFields]
    · split at h
      · have := weight_le_of_read? h
        simp only [weight, weightFields]
        omega
      · simp at h
    · simp at h
  · simp at h

def unwrap (v : Value) : Value :=
  match h : v.payload? with
  | some inner =>
    have := weight_payload?_lt h
    unwrap inner
  | none => v
termination_by v.weight

end Sluice.Value
