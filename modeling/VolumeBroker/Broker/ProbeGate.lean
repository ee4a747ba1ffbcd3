import VolumeBroker.Dict
/-!
# The probe gate

A service may be used once its plugin has answered a probe. The `ProbeGate` remembers the services
for which that has happened; it never forgets one, and marking a service again changes nothing.
-/

namespace VolumeBroker

/-- The services whose plugins have answered a probe. -/
structure ProbeGate where
  /-- Their ids. -/
  answered : Dict Unit

namespace ProbeGate

/-- No plugin has answered yet. -/
def empty : ProbeGate := ⟨.empty⟩

/-- Whether the plugin of a service has answered. -/
def isPassed (g : ProbeGate) (serviceId : String) : Bool := g.answered.contains serviceId

/-- The gate after the plugin of a service has answered. -/
def mark (g : ProbeGate) (serviceId : String) : ProbeGate := ⟨g.answered.insert serviceId ()⟩

@[simp] theorem isPassed_empty (serviceId : String) : empty.isPassed serviceId = false := rfl

/-- Marking a service lets it pass and changes nothing for the others. -/
theorem isPassed_mark (g : ProbeGate) (marked serviceId : String) :
    (g.mark marked).isPassed serviceId = (decide (serviceId = marked) || g.isPassed serviceId) := by
  unfold isPassed mark Dict.contains
  rw [Dict.get?_insert]
  by_cases h : serviceId = marked <;> simp [h]

/-- A service that has passed may be marked again without effect. -/
theorem mark_of_isPassed {g : ProbeGate} {serviceId : String} (h : g.isPassed serviceId = true) :
    g.mark serviceId = g := by
  obtain ⟨answered⟩ := g
  refine congrArg ProbeGate.mk (Dict.ext_get? fun k => ?_)
  rw [Dict.get?_insert]
  by_cases hk : k = serviceId
  · subst hk
    simp only [isPassed, Dict.contains, Option.isSome_iff_exists] at h
    obtain ⟨_, h⟩ := h
    simp [h]
  · simp [hk]

end ProbeGate

end VolumeBroker
