import Mathlib.Data.List.Perm.Basic

/-!
# Datagrams in flight

The datagrams a network holds, as a list whose order means nothing. `take` takes a
datagram out, be it delivered or lost, and `duplicate` adds a second copy; both fail for a
datagram that is not in flight.
-/

namespace Channel

variable {β : Type*} [DecidableEq β]

def take (c : List β) (d : β) : Option (List β) := if d ∈ c then some (c.erase d) else none

def duplicate (c : List β) (d : β) : Option (List β) := if d ∈ c then some (d :: c) else none

theorem take_perm {c c' : List β} {d : β} (h : take c d = some c') : c.Perm (d :: c') := by
  obtain ⟨hd, he⟩ := Option.ite_none_right_eq_some.mp h
  cases he
  exact List.perm_cons_erase hd

theorem mem_of_take {c c' : List β} {d : β} (h : take c d = some c') : d ∈ c :=
  (take_perm h).mem_iff.mpr List.mem_cons_self

theorem take_subset {c c' : List β} {d : β} (h : take c d = some c') : c' ⊆ c :=
  fun _ hx => (take_perm h).mem_iff.mpr (List.mem_cons_of_mem _ hx)

theorem mem_of_duplicate {c c' : List β} {d : β} (h : duplicate c d = some c') : d ∈ c :=
  (Option.ite_none_right_eq_some.mp h).1

theorem duplicate_subset {c c' : List β} {d : β} (h : duplicate c d = some c') : c' ⊆ c := by
  obtain ⟨hd, he⟩ := Option.ite_none_right_eq_some.mp h
  cases he
  exact List.cons_subset.mpr ⟨hd, List.Subset.refl _⟩

end Channel
