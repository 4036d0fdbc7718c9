import RestaurantApi.Interleaving
import Mathlib.Data.List.Permutation

/-! Two concurrent Updates of one restaurant.

Update reads the row, merges the fields it was given, and writes name, address and date_updated
back, with no lock in between. Of two Updates that both read before either writes, the one that
writes last puts back the field the other one set. -/

namespace RestaurantApi

def twoUpdates (db : Db) (user₁ user₂ : Claims) (id name address : String) (t₁ t₂ : Nat) : Config :=
  ⟨db, [.update user₁ id ⟨some name, none⟩ t₁, .update user₂ id ⟨none, some address⟩ t₂], []⟩

/-- The row the two Updates leave, by which call takes each step: the UPDATE that runs last
writes every column from the row its own Retrieve read. -/
def twoUpdatesRow (r₀ : Restaurant) (name address : String) (t₁ t₂ : Nat) : List Nat → Restaurant
  | [0, 0, 1, 1] => { r₀ with name, address, dateUpdated := t₂ }
  | [1, 1, 0, 0] => { r₀ with name, address, dateUpdated := t₁ }
  | [_, _, _, 1] => { r₀ with address, dateUpdated := t₂ }
  | _ => { r₀ with name, dateUpdated := t₁ }

theorem schedules_of_two_steps_each {is : List Nat} (order : is.Perm [0, 0, 1, 1]) :
    is = [0, 0, 1, 1] ∨ is = [1, 1, 0, 0] ∨ is = [0, 1, 0, 1] ∨ is = [0, 1, 1, 0] ∨
      is = [1, 0, 0, 1] ∨ is = [1, 0, 1, 0] := by
  have enumerated : ∀ s ∈ List.permutations' [0, 0, 1, 1], s = [0, 0, 1, 1] ∨ s = [1, 1, 0, 0] ∨
      s = [0, 1, 0, 1] ∨ s = [0, 1, 1, 0] ∨ s = [1, 0, 0, 1] ∨ s = [1, 0, 1, 0] := by decide
  exact enumerated is (List.mem_permutations'.mpr order)

theorem two_updates_final_row {db : Db} {user₁ user₂ : Claims} {id name address : String}
    {t₁ t₂ : Nat} {r₀ : Restaurant} (looked : db.lookup id = .ok r₀)
    (may₁ : user₁.mayChange r₀.ownerUserId = true) (may₂ : user₂.mayChange r₀.ownerUserId = true)
    {is : List Nat} (order : is.Perm [0, 0, 1, 1]) :
    ∃ c, (twoUpdates db user₁ user₂ id name address t₁ t₂).run is = some c ∧
      c.calls = [.done (.ok ()), .done (.ok ())] ∧
      c.db.lookup id = .ok (twoUpdatesRow r₀ name address t₁ t₂ is) := by
  have reread : ∀ {n a : String} {t : Nat}, (db.updateRestaurant id n a t).lookup id =
      .ok { r₀ with name := n, address := a, dateUpdated := t } :=
    lookup_updateRestaurant_of_lookup looked _ _ _
  rcases schedules_of_two_steps_each order with rfl | rfl | rfl | rfl | rfl | rfl <;>
    rw [twoUpdates]
  -- one call writes before the other reads, and the other reads the row it wrote
  iterate 2
    rw [Config.run_step (Config.step_update (by rfl) looked (by assumption)),
      Config.run_step (Config.step_updateWrite (by rfl)),
      Config.run_step (Config.step_update (by rfl) reread (by assumption)),
      Config.run_step (Config.step_updateWrite (by rfl))]
    exact ⟨_, rfl, rfl, lookup_updateRestaurant_of_lookup reread _ _ _⟩
  -- both read the row before either writes
  all_goals
    rw [Config.run_step (Config.step_update (by rfl) looked (by assumption)),
      Config.run_step (Config.step_update (by rfl) looked (by assumption)),
      Config.run_step (Config.step_updateWrite (by rfl)),
      Config.run_step (Config.step_updateWrite (by rfl))]
    exact ⟨_, rfl, rfl, lookup_updateRestaurant_of_lookup reread _ _ _⟩

theorem two_updates_final_row_interleaved :
    ∃ c, (twoUpdates ⟨[⟨"a224a8d6-3f9e-4b11-9900-e81a25d80702", "Trattoria", "Via Roma 1", "alice", 1, 1⟩],
        []⟩ ⟨"alice", ["USER"]⟩ ⟨"carol", ["ADMIN"]⟩ "a224a8d6-3f9e-4b11-9900-e81a25d80702" "Luigi"
        "Via Po 2" 5 6).run [0, 1, 0, 1] = some c ∧
      c.calls = [.done (.ok ()), .done (.ok ())] ∧
      c.db.lookup "a224a8d6-3f9e-4b11-9900-e81a25d80702" = .ok (twoUpdatesRow
        ⟨"a224a8d6-3f9e-4b11-9900-e81a25d80702", "Trattoria", "Via Roma 1", "alice", 1, 1⟩
        "Luigi" "Via Po 2" 5 6 [0, 1, 0, 1]) :=
  two_updates_final_row (by rfl) (by rfl) (by rfl) (by decide)

theorem two_updates_lose_name :
    ∃ c, (twoUpdates ⟨[⟨"a224a8d6-3f9e-4b11-9900-e81a25d80702", "Trattoria", "Via Roma 1", "alice", 1, 1⟩],
        []⟩ ⟨"alice", ["USER"]⟩ ⟨"carol", ["ADMIN"]⟩ "a224a8d6-3f9e-4b11-9900-e81a25d80702" "Luigi"
        "Via Po 2" 5 6).run [0, 1, 0, 1] = some c ∧
      c.calls = [.done (.ok ()), .done (.ok ())] ∧
      ∃ r, c.db.lookup "a224a8d6-3f9e-4b11-9900-e81a25d80702" = .ok r ∧
        r.name = "Trattoria" ∧ r.address = "Via Po 2" ∧ r.name ≠ "Luigi" :=
  ⟨_, rfl, rfl, _, rfl, rfl, rfl, by decide⟩

end RestaurantApi
