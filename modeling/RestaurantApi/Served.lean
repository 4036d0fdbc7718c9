import RestaurantApi.Access
import RestaurantApi.Http

/-! What HTTP requests do to the tables.

A request the app serves writes through at most one call of package restaurant, and a row it
inserts carries the id drawn for the request. Tables built by any sequence of requests are
therefore tables the calls build one at a time (`Reachable`), so restaurant_id stays a key and
every stored id parses. -/

namespace RestaurantApi

/-- What one request can do to the tables `db`: nothing, or one writing call of package
restaurant, whose new row (if it inserts one) has the request's drawn id `newId`. -/
inductive Writes (newId : String) (db : Db) : Db → Prop
  | keep : Writes newId db db
  | create (user : Claims) (nr : NewRestaurant) (now : Nat) :
      Writes newId db (exec (create user nr now newId) db).2
  | update (user : Claims) (id : String) (up : UpdateRestaurant) (now : Nat) :
      Writes newId db (exec (update user id up now) db).2
  | delete (id : String) : Writes newId db (exec (delete id) db).2
  | createMenu (user : Claims) (nm : NewMenu) (now : Nat) :
      Writes newId db (exec (createMenu user nm now newId) db).2

theorem Writes.reachable {newId : String} {db db' : Db} (w : Writes newId db db')
    (reach : Reachable db) (fresh : db.restaurantRow newId = none) (parse : uuidParse newId = true) :
    Reachable db' := by
  cases w with
  | keep => exact reach
  | create => exact .create reach fresh parse
  | update => exact .update reach
  | delete => exact .delete reach
  | createMenu => exact .createMenu reach

instance (newId : String) : IsRefl Db (Writes newId) := ⟨fun _ => .keep⟩

namespace Handlers

theorem restaurantCreate_writesOnce : Handler.Moves Writes restaurantCreate := fun _ =>
  .bind_readOnly (need_readOnly _ _) fun claims => .bind_readOnly (need_readOnly _ _) fun now =>
    .bind_readOnly (decode_readOnly _ _) fun nr =>
      .then_readOnly (Moves.adapt (fun _ => .create claims nr now) _) fun _ => readOnly_pure _

theorem restaurantUpdate_writesOnce : Handler.Moves Writes restaurantUpdate := fun _ =>
  .bind_readOnly (need_readOnly _ _) fun claims => .bind_readOnly (need_readOnly _ _) fun now =>
    .bind_readOnly (decode_readOnly _ _) fun up =>
      .then_readOnly (Moves.adapt (fun _ => .update claims _ up now) _) fun _ => readOnly_pure _

theorem restaurantDelete_writesOnce : Handler.Moves Writes restaurantDelete := fun _ =>
  .then_readOnly (Moves.adapt (fun _ => .delete _) _) fun _ => readOnly_pure _

theorem createMenu_writesOnce : Handler.Moves Writes createMenu := fun _ =>
  .bind_readOnly (need_readOnly _ _) fun claims => .bind_readOnly (need_readOnly _ _) fun now =>
    .bind_readOnly (decode_readOnly _ _) fun nm => .guard _ _ fun _ =>
      .bind_readOnly ((retrieve_readOnly _).adapt _) fun _ => .guard _ _ fun _ =>
        .then_readOnly (Moves.adapt (fun _ => .createMenu claims nm now) _) fun _ =>
          readOnly_pure _

end Handlers

theorem serve_writesOnce {http : HttpRequest} {m : Web Reply} (served : serve http = some m) :
    Moves (Writes http.uuid) m := by
  refine serve_moves served fun route _ h _ handled req => ?_
  cases endpoint : route.endpoint <;> simp only [endpoint, Endpoint.handler, reduceCtorEq,
    Option.some.injEq] at handled <;> subst handled
  exacts [ReadOnly.moves (Handlers.restaurantList_readOnly req),
    Handlers.restaurantCreate_writesOnce req,
    ReadOnly.moves (Handlers.restaurantRetrieve_readOnly req),
    Handlers.restaurantUpdate_writesOnce req, Handlers.restaurantDelete_writesOnce req,
    ReadOnly.moves (Handlers.retrieveMenu_readOnly req),
    ReadOnly.moves (Handlers.retrieveMenu_readOnly req), Handlers.createMenu_writesOnce req]

theorem requests_write_at_most_one_call {http : HttpRequest} {m : Web Reply}
    (served : serve http = some m) (db : Db) : Writes http.uuid db (exec m db).2 :=
  serve_writesOnce served db

theorem requests_write_at_most_one_call_on_put :
    let http : HttpRequest := ⟨"PUT", "/v1/restaurant/a224a8d6-3f9e-4b11-9900-e81a25d80702",
      some ⟨"alice", ["USER"]⟩, ⟨.error "", .ok ⟨some "Luigi", none⟩, .error "", .error ""⟩, 5, ""⟩
    let db : Db := ⟨[⟨"a224a8d6-3f9e-4b11-9900-e81a25d80702", "Trattoria", "Via Roma 1", "alice", 1, 1⟩], []⟩
    ∃ m, serve http = some m ∧ Writes http.uuid db (exec m db).2 := by
  intro http db
  exact ⟨_, rfl, @requests_write_at_most_one_call http _ rfl db⟩

/-- The tables HTTP requests build from empty ones, one request at a time: each request carries
the text of a UUID that New draws, and no restaurant row has that id yet. -/
inductive Served : Db → Prop
  | empty : Served ⟨[], []⟩
  | serve {db : Db} {http : HttpRequest} {m : Web Reply} (random : Uuid) :
      Served db → serve http = some m → http.uuid = (newRandom random).string →
      db.restaurantRow http.uuid = none → Served (exec m db).2

theorem Served.reachable {db : Db} (served : Served db) : Reachable db := by
  induction served with
  | empty => exact .empty
  | serve random _ handled drawn fresh reach =>
    exact (serve_writesOnce handled _).reachable reach fresh (drawn ▸ uuidParse_string _)

theorem served_tables_reachable {db : Db} (served : Served db) : Reachable db ∧ WellFormed db :=
  ⟨served.reachable, served.reachable.wellFormed⟩

theorem served_tables_reachable_after_post :
    let http : HttpRequest := ⟨"POST", "/v1/restaurant", some ⟨"alice", ["USER"]⟩,
      ⟨.ok ⟨"Alpha", "Main St"⟩, .error "", .error "", .error ""⟩, 1, (newRandom fun _ => 0).string⟩
    ∃ m, serve http = some m ∧ Served (exec m ⟨[], []⟩).2 ∧ Reachable (exec m ⟨[], []⟩).2 ∧
      WellFormed (exec m ⟨[], []⟩).2 := by
  intro http
  have served := @Served.serve _ http _ (fun _ => 0) .empty rfl rfl rfl
  exact ⟨_, rfl, served, served_tables_reachable served⟩

section Frame

variable (db : Db)

theorem update_menus (user : Claims) (id : String) (up : UpdateRestaurant) (now : Nat) :
    (exec (update user id up now) db).2.menus = db.menus := by
  rw [update_exec]
  split <;> [rfl; split <;> rfl]

theorem update_owners (user : Claims) (id : String) (up : UpdateRestaurant) (now : Nat) :
    (exec (update user id up now) db).2.owners = db.owners := by
  rw [update_exec]
  split <;> [rfl; split] <;> simp

theorem delete_menus (id : String) : (exec (delete id) db).2.menus = db.menus := by
  rw [delete_exec]
  split <;> rfl

theorem delete_owners_subset (id : String) : (exec (delete id) db).2.owners ⊆ db.owners := by
  rw [delete_exec]
  split
  · simp only [owners_deleteRestaurant]
    exact List.filter_subset' _
  · exact List.Subset.refl _

end Frame

theorem Writes.menus {newId : String} {db db' : Db} (w : Writes newId db db') :
    ∃ added, db'.menus = db.menus ++ added ∧ added.length ≤ 1 := by
  cases w with
  | keep => exact ⟨[], by simp, by simp⟩
  | create => exact ⟨[], by simp [create_exec], by simp⟩
  | update => exact ⟨[], by simp [update_menus], by simp⟩
  | delete => exact ⟨[], by simp [delete_menus], by simp⟩
  | createMenu user nm now => exact ⟨[⟨newId, nm.restaurantId, now, nm.menu, 0⟩], rfl, by simp⟩

theorem Writes.owners {newId : String} {db db' : Db} (w : Writes newId db db') :
    ∀ p ∈ db'.owners, p ∈ db.owners ∨ p.1 = newId := by
  cases w with
  | keep => exact fun p member => .inl member
  | create =>
    intro p member
    simp only [create_exec, owners_insertRestaurant, List.mem_append, List.mem_singleton] at member
    rcases member with kept | rfl
    exacts [.inl kept, .inr rfl]
  | update => exact fun p member => .inl (by rwa [update_owners] at member)
  | delete => exact fun p member => .inl (delete_owners_subset _ _ member)
  | createMenu => exact fun p member => .inl (by simpa [createMenu_exec] using member)

theorem restaurantRow_ne_none_of_mem_owners {db : Db} {p : String × String} (member : p ∈ db.owners) :
    db.restaurantRow p.1 ≠ none := by
  simp only [Db.owners, List.mem_map] at member
  obtain ⟨r, present, rfl⟩ := member
  rw [Db.restaurantRow, ne_eq, List.find?_eq_none]
  exact fun absent => absent r present (by simp)

theorem requests_keep_owners {db : Db} (keys : (db.restaurants.map (·.id)).Nodup)
    {http : HttpRequest} {m : Web Reply} (served : serve http = some m)
    (fresh : db.restaurantRow http.uuid = none) :
    (∀ id owner owner' : String, (id, owner) ∈ db.owners → (id, owner') ∈ (exec m db).2.owners →
        owner' = owner) ∧
      ∀ p ∈ (exec m db).2.owners, p ∈ db.owners ∨ p.1 = http.uuid := by
  have added := (serve_writesOnce served db).owners
  refine ⟨fun id owner owner' before after => ?_, added⟩
  rcases added _ after with kept | drawn
  · have pairs : (db.owners.map Prod.fst).Nodup := by rwa [owners_map_fst]
    have same := List.inj_on_of_nodup_map pairs kept before rfl
    exact (Prod.mk.inj same).2
  · subst drawn
    exact absurd fresh (restaurantRow_ne_none_of_mem_owners before)

theorem requests_keep_owners_on_put :
    let rest : Restaurant := ⟨"a224a8d6-3f9e-4b11-9900-e81a25d80702", "Trattoria", "Via Roma 1", "alice", 1, 1⟩
    let http : HttpRequest := ⟨"PUT", "/v1/restaurant/a224a8d6-3f9e-4b11-9900-e81a25d80702",
      some ⟨"alice", ["USER"]⟩, ⟨.error "", .ok ⟨some "Luigi", none⟩, .error "", .error ""⟩, 5,
      "0c3bdd21-8f3c-4b2e-9a7e-2d4f8b6c1e5a"⟩
    ∃ m, serve http = some m ∧ (rest.id, "alice") ∈ (exec m ⟨[rest], []⟩).2.owners ∧
      "alice" = "alice" := by
  intro rest http
  have before : (rest.id, "alice") ∈ (⟨[rest], []⟩ : Db).owners := List.mem_singleton_self _
  refine ⟨_, rfl, by decide, ?_⟩
  exact (@requests_keep_owners ⟨[rest], []⟩ (by decide) http _ rfl rfl).1 _ _ _ before (by decide)

theorem Reachable.votes_zero {db : Db} (reach : Reachable db) : ∀ m ∈ db.menus, m.votes = 0 := by
  induction reach with
  | empty => exact fun _ member => nomatch member
  | create _ _ _ zero => simpa [create_exec] using zero
  | update _ zero => rwa [update_menus]
  | delete _ zero => rwa [delete_menus]
  | createMenu _ zero =>
    simp only [createMenu_exec, Db.insertMenu, List.mem_append, List.mem_singleton]
    rintro m (member | rfl)
    exacts [zero m member, rfl]
  | menuUpdate _ zero =>
    rw [menuUpdate_exec]
    split
    · exact zero
    · simp only [Db.updateMenu, List.mem_map]
      rintro _ ⟨m, member, rfl⟩
      split <;> exact zero m member

theorem votes_stay_zero {db : Db} (served : Served db) :
    (∀ m ∈ db.menus, m.votes = 0) ∧
      ∀ (claims : Claims) (body : Body) (now : Nat) (uuid id : String) (menu : Menu) (db' : Db),
        '/' ∉ id.data →
        respond ⟨"GET", "/v1/restaurant/" ++ id ++ "/votes", some claims, body, now, uuid⟩ db =
          some (.ok ⟨200, .menu menu⟩, db') → menu.votes = 0 := by
  have zero := served.reachable.votes_zero
  refine ⟨zero, fun claims body now uuid id menu db' one answered => ?_⟩
  rw [respond_votes _ _ _ _ _ one, menuRetrieve_exec] at answered
  cases looked : db.lookupMenu id with
  | error e => simp [answer, looked, Except.mapError, Except.map] at answered
  | ok found =>
    simp only [answer, looked, Except.map, Except.mapError, Option.some.injEq, Prod.mk.injEq,
      Except.ok.injEq, Reply.mk.injEq, Payload.menu.injEq, true_and] at answered
    rw [← answered.1]
    exact zero _ (List.mem_of_find?_eq_some (lookupMenu_ok.mp looked).2)

theorem votes_stay_zero_after_menu :
    ∃ db, Served db ∧ db.menus.all (·.votes == 0) = true := by
  let alice : Claims := ⟨"alice", [roleAdmin]⟩
  let id := (newRandom fun _ => 0).string
  have first := @Served.serve _ ⟨"POST", "/v1/restaurant", some alice,
    ⟨.ok ⟨"Alpha", "Main St"⟩, .error "", .error "", .error ""⟩, 1, id⟩ _ (fun _ => 0) .empty rfl rfl rfl
  have second := @Served.serve _ ⟨"POST", "/v1/restaurant/" ++ id ++ "/menu", some alice,
    ⟨.error "", .error "", .ok ⟨id, 5, "soup"⟩, .error ""⟩, 9, (newRandom fun _ => 1).string⟩ _
    (fun _ => 1) first rfl rfl (by decide)
  exact ⟨_, second, List.all_eq_true.mpr fun m member => by
    simp [(votes_stay_zero second).1 m member]⟩

end RestaurantApi
