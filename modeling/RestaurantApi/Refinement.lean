import RestaurantApi.Store

/-! Restaurants, one call at a time, refine a finite map from id to row.

The table means the row Retrieve's query reads under each id (`Db.view`). From tables any
sequence of calls builds, each call acts on that map as the map operation of the same name. -/

namespace RestaurantApi

abbrev RestaurantMap := String → Option Restaurant

def Db.view (db : Db) : RestaurantMap := db.restaurantRow

structure WellFormed (db : Db) : Prop where
  nodup : (db.restaurants.map (·.id)).Nodup
  parse : ∀ r ∈ db.restaurants, uuidParse r.id = true

/-- The tables calls build from empty ones, one call at a time; `uuid.New` draws an id in the
canonical form that no row has. -/
inductive Reachable : Db → Prop
  | empty : Reachable ⟨[], []⟩
  | create {db : Db} {user : Claims} {nr : NewRestaurant} {now : Nat} {newId : String} :
      Reachable db → db.restaurantRow newId = none → uuidParse newId = true →
      Reachable (exec (create user nr now newId) db).2
  | update {db : Db} {user : Claims} {id : String} {up : UpdateRestaurant} {now : Nat} :
      Reachable db → Reachable (exec (update user id up now) db).2
  | delete {db : Db} {id : String} : Reachable db → Reachable (exec (delete id) db).2
  | createMenu {db : Db} {user : Claims} {nm : NewMenu} {now : Nat} {newId : String} :
      Reachable db → Reachable (exec (createMenu user nm now newId) db).2
  | menuUpdate {db : Db} {user : Claims} {restaurantId : String} {u : UpdateMenu} {now : Nat} :
      Reachable db → Reachable (exec (menuUpdate user restaurantId u now) db).2

section Invariant

variable {db : Db}

theorem restaurantRow_eq_none_of_not_parse (wf : WellFormed db) {id : String}
    (bad : uuidParse id = false) : db.restaurantRow id = none := by
  rw [Db.restaurantRow, List.find?_eq_none]
  intro r member same
  have := wf.parse r member
  simp_all

theorem WellFormed.mem_iff (wf : WellFormed db) (r : Restaurant) :
    r ∈ db.restaurants ↔ db.view r.id = some r := by
  constructor
  · intro member
    obtain ⟨r', found⟩ : ∃ r', db.restaurantRow r.id = some r' := by
      rw [← Option.isSome_iff_exists, Db.restaurantRow, List.find?_isSome]
      exact ⟨r, member, by simp⟩
    have same : r'.id = r.id := by simpa using List.find?_some found
    obtain rfl : r' = r :=
      List.inj_on_of_nodup_map wf.nodup (List.mem_of_find?_eq_some found) member same
    exact found
  · exact List.mem_of_find?_eq_some

theorem WellFormed.insertRestaurant (wf : WellFormed db) {r : Restaurant}
    (fresh : db.restaurantRow r.id = none) (valid : uuidParse r.id = true) :
    WellFormed (db.insertRestaurant r) := by
  have absent : r.id ∉ db.restaurants.map (·.id) := by
    simp only [List.mem_map, not_exists, not_and]
    intro r' member same
    rw [Db.restaurantRow, List.find?_eq_none] at fresh
    exact fresh r' member (by simp [same])
  constructor
  · simpa [Db.insertRestaurant] using
      wf.nodup.append (List.nodup_singleton _) (List.disjoint_singleton.mpr absent)
  · simp only [Db.insertRestaurant, List.mem_append, List.mem_singleton]
    rintro r' (member | rfl)
    exacts [wf.parse r' member, valid]

theorem WellFormed.updateRestaurant (wf : WellFormed db) (id name address : String) (t : Nat) :
    WellFormed (db.updateRestaurant id name address t) := by
  constructor
  · rw [← owners_map_fst, owners_updateRestaurant, owners_map_fst]
    exact wf.nodup
  · simp only [Db.updateRestaurant, List.mem_map]
    rintro _ ⟨r, member, rfl⟩
    split <;> exact wf.parse r member

theorem WellFormed.deleteRestaurant (wf : WellFormed db) (id : String) :
    WellFormed (db.deleteRestaurant id) := by
  constructor
  · exact (List.Sublist.map _ (List.filter_sublist _)).nodup wf.nodup
  · intro r member
    exact wf.parse r (List.mem_of_mem_filter member)

theorem WellFormed.menus (wf : WellFormed db) {db' : Db} (same : db'.restaurants = db.restaurants) :
    WellFormed db' := by
  constructor
  · rw [same]
    exact wf.nodup
  · rw [same]
    exact wf.parse

theorem Reachable.wellFormed (reach : Reachable db) : WellFormed db := by
  induction reach with
  | empty => exact ⟨List.nodup_nil, fun _ h => by cases h⟩
  | create _ fresh valid wf => exact wf.insertRestaurant fresh valid
  | @update db user id up now _ wf =>
    rw [update_exec]
    rcases db.lookup id with e | r
    · exact wf
    · dsimp only
      split
      · exact wf.updateRestaurant _ _ _ _
      · exact wf
  | delete _ wf =>
    rw [delete_exec]
    split
    · exact wf.deleteRestaurant _
    · exact wf
  | createMenu _ wf => exact wf.menus rfl
  | @menuUpdate db user restaurantId u now _ wf =>
    rw [menuUpdate_exec]
    split
    · exact wf
    · exact wf.menus rfl

end Invariant

section Calls

variable {db : Db}

theorem create_view (user : Claims) (nr : NewRestaurant) (now : Nat) {newId : String}
    (fresh : db.view newId = none) :
    (exec (create user nr now newId) db).2.view =
      Function.update db.view newId (some ⟨newId, nr.name, nr.address, user.subject, now, now⟩) := by
  funext x
  simp only [create_exec, Db.view, restaurantRow_insertRestaurant]
  by_cases h : x = newId
  · subst h
    simp [show db.restaurantRow x = none from fresh]
  · simp [h, Ne.symm h]

theorem update_ok_iff (user : Claims) (id : String) (up : UpdateRestaurant) (now : Nat) :
    (exec (update user id up now) db).1 = .ok () ↔
      uuidParse id = true ∧ ∃ r, db.view id = some r ∧ user.mayChange r.ownerUserId = true := by
  rw [update_exec]
  rcases h : db.lookup id with e | r
  · simp only [reduceCtorEq, false_iff, not_and, not_exists]
    intro parse r found
    have := lookup_ok.mpr ⟨parse, found⟩
    rw [h] at this
    cases this
  · obtain ⟨parse, found⟩ := lookup_ok.mp h
    by_cases may : user.mayChange r.ownerUserId <;> simp [may, parse, Db.view, found]

theorem update_view {user : Claims} {id : String} {up : UpdateRestaurant} {now : Nat}
    {r : Restaurant} (found : db.view id = some r) (ok : (exec (update user id up now) db).1 = .ok ()) :
    (exec (update user id up now) db).2.view = Function.update db.view id (some (r.merge up now)) := by
  obtain ⟨parse, -⟩ := (update_ok_iff user id up now).mp ok
  have looked : db.lookup id = .ok r := lookup_ok.mpr ⟨parse, found⟩
  simp only [update_exec, looked] at ok ⊢
  split at ok <;> [skip; cases ok]
  simp only [↓reduceIte, *]
  funext x
  simp only [Db.view, restaurantRow_updateRestaurant]
  by_cases h : x = id
  · subst h
    simp [show db.restaurantRow x = some r from found, Restaurant.merge]
  · simp [h, Option.map_id']

theorem delete_view (wf : WellFormed db) (id : String) :
    (exec (delete id) db).2.view = Function.update db.view id none := by
  rw [delete_exec]
  by_cases parse : uuidParse id = true
  · rw [if_pos parse]
    funext x
    simp only [Db.view, restaurantRow_deleteRestaurant]
    by_cases h : x = id
    · subst h
      simp
    · simp [h]
  · rw [if_neg parse]
    have absent : db.view id = none :=
      restaurantRow_eq_none_of_not_parse wf (by simpa using parse)
    rw [← absent, Function.update_eq_self]

theorem list_entries (wf : WellFormed db) :
    exec list db = (.ok db.restaurants, db) ∧ (db.restaurants.map (·.id)).Nodup ∧
      ∀ r, r ∈ db.restaurants ↔ db.view r.id = some r :=
  ⟨list_exec db, wf.nodup, wf.mem_iff⟩

end Calls

/-- On tables `db` each restaurant call acts on `db.view` as the map operation of its name:
Create inserts the fresh id, Update succeeds exactly for a parsing, present id and a caller who is
ADMIN or the owner, then replaces the set fields and `date_updated`, and otherwise leaves the map
as it was; Delete erases, Retrieve reads the entry (ErrInvalidID before any read for an id that does
not parse), List returns each entry once and writes nothing. -/
structure RefinesMap (db : Db) : Prop where
  create : ∀ user nr now newId, db.view newId = none →
    let r : Restaurant := ⟨newId, nr.name, nr.address, user.subject, now, now⟩
    (exec (create user nr now newId) db).1 = .ok r ∧
      (exec (create user nr now newId) db).2.view = Function.update db.view newId (some r)
  update_ok_iff : ∀ user id up now, (exec (update user id up now) db).1 = .ok () ↔
    uuidParse id = true ∧ ∃ r, db.view id = some r ∧ user.mayChange r.ownerUserId = true
  update_error : ∀ user id up now e, (exec (update user id up now) db).1 = .error e →
    (exec (update user id up now) db).2.view = db.view
  update : ∀ user id up now r, db.view id = some r → (exec (update user id up now) db).1 = .ok () →
    (exec (update user id up now) db).2.view = Function.update db.view id (some (r.merge up now))
  delete : ∀ id, (exec (delete id) db).2.view = Function.update db.view id none
  retrieve : ∀ id, exec (retrieve id) db =
    (if uuidParse id then
      match db.view id with
      | none => .error .notFound
      | some r => .ok r
    else .error .invalidID, db)
  list : ∃ rs, exec list db = (.ok rs, db) ∧ (rs.map (·.id)).Nodup ∧
    ∀ r, r ∈ rs ↔ db.view r.id = some r

theorem restaurant_calls_refine_map {db : Db} (reach : Reachable db) : RefinesMap db :=
  have wf := reach.wellFormed
  ⟨fun user nr now _ fresh => ⟨rfl, create_view user nr now fresh⟩, update_ok_iff,
    fun user id up now e failed =>
      congrArg Db.view (update_atomic user id up now db e _ (Prod.ext failed rfl)),
    fun _ _ _ _ _ found ok => update_view found ok, delete_view wf, retrieve_exec db,
    ⟨_, list_entries wf⟩⟩

theorem restaurant_calls_refine_map_after_create :
    let db := (exec (create ⟨"alice", ["USER"]⟩ ⟨"Alpha", "Main St"⟩ 1
      "a224a8d6-3f9e-4b11-9900-e81a25d80702") ⟨[], []⟩).2
    Reachable db ∧ db.restaurants ≠ [] ∧ RefinesMap db := by
  intro db
  have reach : Reachable db := .create .empty rfl (by decide)
  exact ⟨reach, List.cons_ne_nil _ _, restaurant_calls_refine_map reach⟩

theorem retrieve_absent_malformed_id :
    Reachable ⟨[], []⟩ ∧ (⟨[], []⟩ : Db).view "12345" = none ∧
      exec (retrieve "12345") ⟨[], []⟩ = (.error .invalidID, ⟨[], []⟩) ∧
      StoreError.invalidID ≠ .notFound :=
  ⟨.empty, rfl, rfl, by decide⟩

end RestaurantApi
