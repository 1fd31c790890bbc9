import Tabletop.Service
import Mathlib

/-!
# Runs and their moments

The moments of a run are its events, each with the state in which it happens.
What a run has come to is told by its moments, because a later event does not
change an earlier one.
-/

namespace Tabletop
namespace Service

/-- An event and the state in which it happens. -/
structure Moment where
  service : Service
  event : Event

def moments (service : Service) : List Event → List Moment
  | [] => []
  | event :: rest => ⟨service, event⟩ :: moments (service.step event) rest

/-- Of things in a row one begins something, and none after it ends that. -/
def Standing {α : Type} (begins ends : α → Prop) (xs : List α) : Prop :=
  ∃ earlier x later, xs = earlier ++ x :: later ∧ begins x ∧ ∀ y ∈ later, ¬ ends y

theorem standing_concat {α : Type} {begins ends : α → Prop} {xs : List α} {x : α} :
    Standing begins ends (xs ++ [x]) ↔ begins x ∨ Standing begins ends xs ∧ ¬ ends x := by
  constructor
  · rintro ⟨earlier, first, later, hsplit, hbegins, hlater⟩
    rcases List.eq_nil_or_concat later with rfl | ⟨rest, last, rfl⟩
    · obtain ⟨-, hlast⟩ := List.append_inj' hsplit rfl
      obtain rfl := List.singleton_injective hlast
      exact .inl hbegins
    · rw [List.concat_eq_append, ← List.cons_append, ← List.append_assoc] at hsplit
      obtain ⟨hrest, hlast⟩ := List.append_inj' hsplit rfl
      obtain rfl := List.singleton_injective hlast
      refine .inr ⟨⟨earlier, first, rest, hrest, hbegins, ?_⟩, ?_⟩
      · intro other hother
        exact hlater other (by simp [hother])
      · exact hlater x (by simp)
  · rintro (hbegins | ⟨⟨earlier, first, later, rfl, hbegins, hlater⟩, hkept⟩)
    · exact ⟨xs, x, [], rfl, hbegins, by simp⟩
    · refine ⟨earlier, first, later ++ [x], by simp, hbegins, ?_⟩
      intro other hother
      rcases List.mem_append.mp hother with hother | hother
      · exact hlater other hother
      · obtain rfl := List.mem_singleton.mp hother
        exact hkept

variable (service : Service) (events : List Event)

theorem run_concat (event : Event) :
    service.run (events ++ [event]) = (service.run events).step event := by
  simp [run, List.foldl_append]

theorem moments_append (more : List Event) :
    service.moments (events ++ more) =
      service.moments events ++ (service.run events).moments more := by
  induction events generalizing service with
  | nil => rfl
  | cons event rest ih =>
      rw [List.cons_append, moments, moments, ih, List.cons_append]
      rfl

theorem moments_concat (event : Event) :
    service.moments (events ++ [event]) =
      service.moments events ++ [⟨service.run events, event⟩] := by
  rw [moments_append]
  rfl

variable {service events} in
theorem event_mem_of_mem_moments {moment : Moment} (hmoment : moment ∈ service.moments events) :
    moment.event ∈ events := by
  induction events generalizing service with
  | nil => simp [moments] at hmoment
  | cons event rest ih =>
      rcases List.mem_cons.mp hmoment with rfl | hrest
      · exact List.mem_cons_self
      · exact List.mem_cons_of_mem event (ih hrest)

/-- An event that is not a request. -/
def Event.isInside : Event → Bool
  | .request _ _ => false
  | _ => true

/-- Whatever is not a request changes the store at most. -/
theorem step_of_inside {event : Event} (hinside : event.isInside = true) :
    ∃ store, service.step event = { service with store } := by
  cases event with
  | request client request => cases hinside
  | addUser name id =>
      simp only [step]
      split <;> exact ⟨_, rfl⟩
  | removeUser id =>
      simp only [step]
      split <;> exact ⟨_, rfl⟩
  | addActor new =>
      simp only [step]
      split <;> exact ⟨_, rfl⟩
  | pass now => exact ⟨_, rfl⟩

theorem step_settings (event : Event) : (service.step event).settings = service.settings := by
  cases hinside : event.isInside with
  | true =>
      obtain ⟨store, hstep⟩ := step_of_inside service hinside
      rw [hstep]
  | false =>
      cases event with
      | request client request => rfl
      | _ => cases hinside

theorem run_settings : (service.run events).settings = service.settings := by
  induction events using List.reverseRecOn with
  | nil => rfl
  | append_singleton rest event ih => rw [run_concat, step_settings, ih]

/-- A change from inside leaves the sessions alone. -/
theorem step_sessions (event : Event)
    (hinside : ∀ client request, event ≠ .request client request) :
    (service.step event).sessions = service.sessions := by
  have hinside : event.isInside = true := by
    cases event with
    | request client request => exact absurd rfl (hinside client request)
    | _ => rfl
  obtain ⟨store, hstep⟩ := step_of_inside service hinside
  rw [hstep]

end Service
end Tabletop
