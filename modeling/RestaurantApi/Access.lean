import RestaurantApi.Errors

/-! Access control of the restaurant routes.

Of all the routes, only DELETE /v1/restaurant/:id removes or rewrites a restaurant row whose
owner is not the caller, for a caller who is not ADMIN: every other handler reads, adds rows,
or checks the row's owner first. -/

namespace RestaurantApi

section Guarded

variable {ε ε' α β : Type} {may may' : String → Prop}

/-- Every restaurant row the call removes or rewrites, on tables whose restaurant_id is a key,
has an owner `may` allows. -/
def Guarded (may : String → Prop) (m : DbM ε α) : Prop :=
  ∀ db r db', (db.restaurants.map (·.id)).Nodup → exec m db = (r, db') →
    ∀ row ∈ db.restaurants, row ∉ db'.restaurants → may row.ownerUserId

theorem guarded_of_keeps {m : DbM ε α} (keeps : ∀ db, db.restaurants ⊆ (exec m db).2.restaurants) :
    Guarded may m := fun db _ _ _ run row member gone => by
  have kept := keeps db member
  rw [run] at kept
  exact absurd kept gone

theorem ReadOnly.guarded {m : DbM ε α} (h : ReadOnly m) : Guarded may m :=
  guarded_of_keeps fun db => by rw [h db]; exact List.Subset.refl _

theorem Guarded.mono {m : DbM ε α} (h : Guarded may m) (weaker : ∀ owner, may owner → may' owner) :
    Guarded may' m := fun db r db' keys run row member gone =>
  weaker _ (h db r db' keys run row member gone)

theorem Guarded.bind_readOnly {m : DbM ε α} {f : α → DbM ε β} (hm : ReadOnly m)
    (hf : ∀ a, Guarded may (f a)) : Guarded may (m >>= f) := by
  intro db r db' keys run
  have keep := hm db
  rw [exec_bind] at run
  rcases h : exec m db with ⟨_ | a, db₁⟩ <;> rw [h] at keep run <;> subst keep
  · obtain ⟨-, rfl⟩ := Prod.mk.inj run
    exact fun row member gone => absurd member gone
  · exact hf a _ _ _ keys run

theorem Guarded.then_readOnly {m : DbM ε α} {f : α → DbM ε β} (hm : Guarded may m)
    (hf : ∀ a, ReadOnly (f a)) : Guarded may (m >>= f) := by
  intro db r db' keys run
  rw [exec_bind] at run
  rcases h : exec m db with ⟨_ | a, db₁⟩ <;> rw [h] at run
  · exact hm db _ _ keys (by rw [h, ← (Prod.mk.inj run).2])
  · have keep := hf a db₁
    rw [show exec (f a) db₁ = (r, db') from run] at keep
    obtain rfl : db' = db₁ := keep
    exact hm db _ _ keys h

theorem Guarded.adapt {m : DbM ε α} (h : Guarded may m) (f : ε → ε') :
    Guarded may (ExceptT.adapt f m) := by
  intro db r db' keys run
  rw [exec_adapt] at run
  rcases hm : exec m db with ⟨_ | _, _⟩ <;> rw [hm] at run <;> cases run <;>
    exact h db _ _ keys hm

theorem Guarded.guard (c : Prop) [Decidable c] (e : ε) {k : PUnit → DbM ε α}
    (hk : ∀ u, Guarded may (k u)) : Guarded may (if c then throw e >>= k else pure PUnit.unit >>= k) := by
  split
  · exact .bind_readOnly (readOnly_throw e) hk
  · exact .bind_readOnly (readOnly_pure _) hk

theorem Guarded.bind_need {x : Option α} {message : String} {f : α → Web β}
    (hf : ∀ a, x = some a → Guarded may (f a)) : Guarded may (Handlers.need x message >>= f) := by
  cases x with
  | none => exact ReadOnly.guarded fun _ => rfl
  | some a => exact hf a rfl

end Guarded

section Store

variable {user : Claims}

theorem update_guarded (id : String) (up : UpdateRestaurant) (now : Nat) :
    Guarded (fun owner => user.mayChange owner = true) (update user id up now) := by
  intro db r db' keys run row member gone
  rw [update_exec] at run
  split at run <;> [skip; split at run] <;> obtain ⟨-, rfl⟩ := Prod.mk.inj run
  · exact absurd member gone
  · rename_i r₀ looked may
    have same : row.id = id := by
      by_contra other
      exact gone (mem_updateRestaurant_of_ne member other _ _ _)
    have owner := owner_of_restaurantRow (by simpa using keys) (lookup_ok.mp looked).2
      (List.mem_map_of_mem (fun r => (r.id, r.ownerUserId)) member) same
    rw [(Prod.mk.inj owner).2]
    exact may
  · exact absurd member gone

theorem create_keeps (nr : NewRestaurant) (now : Nat) (newId : String) (db : Db) :
    db.restaurants ⊆ (exec (create user nr now newId) db).2.restaurants := by
  rw [create_exec]
  exact List.subset_append_left _ _

theorem createMenu_keeps (nm : NewMenu) (now : Nat) (newId : String) (db : Db) :
    db.restaurants ⊆ (exec (createMenu user nm now newId) db).2.restaurants := by
  rw [createMenu_exec]
  exact List.Subset.refl _

def Appends (db db' : Db) : Prop := ∃ rows menus, db' = ⟨db.restaurants ++ rows, db.menus ++ menus⟩

instance : IsRefl Db Appends := ⟨fun db => ⟨[], [], by simp only [List.append_nil]⟩⟩

theorem create_appends (nr : NewRestaurant) (now : Nat) (newId : String) :
    Moves Appends (create user nr now newId) := fun db =>
  ⟨[⟨newId, nr.name, nr.address, user.subject, now, now⟩], [],
    by simp only [create_exec, Db.insertRestaurant, List.append_nil]⟩

theorem createMenu_appends (nm : NewMenu) (now : Nat) (newId : String) :
    Moves Appends (createMenu user nm now newId) := fun db =>
  ⟨[], [⟨newId, nm.restaurantId, now, nm.menu, 0⟩],
    by simp only [createMenu_exec, Db.insertMenu, List.append_nil]⟩

end Store

def Handler.Guards (h : Handler) : Prop :=
  ∀ req, Guarded (fun owner => ∃ claims, req.claims = some claims ∧ claims.mayChange owner = true)
    (h req)

/-- Every restaurant row the handler removes or rewrites is one the caller whose token the
Authorization header carries may change. -/
def Handler.GuardsBearer (h : Handler) : Prop :=
  ∀ req, Guarded (fun owner => ∃ claims, req.bearer = some claims ∧ claims.mayChange owner = true)
    (h req)

/-- Every run of the handler relates the tables by `R` of the request's drawn id. -/
def Handler.Moves (R : String → Db → Db → Prop) (h : Handler) : Prop :=
  ∀ req, RestaurantApi.Moves (R req.uuid) (h req)

namespace Handlers

theorem restaurantList_readOnly (req : Request) : ReadOnly (restaurantList req) :=
  .bind (list_readOnly.adapt _) fun _ => readOnly_pure _

theorem restaurantRetrieve_readOnly (req : Request) : ReadOnly (restaurantRetrieve req) :=
  .bind ((retrieve_readOnly _).adapt _) fun _ => readOnly_pure _

theorem retrieveMenu_readOnly (req : Request) : ReadOnly (retrieveMenu req) :=
  .bind ((menuRetrieve_readOnly _).adapt _) fun _ => readOnly_pure _

theorem restaurantCreate_appends : Handler.Moves (fun _ => Appends) restaurantCreate := fun _ =>
  .bind_readOnly (need_readOnly _ _) fun _ => .bind_readOnly (need_readOnly _ _) fun _ =>
    .bind_readOnly (decode_readOnly _ _) fun _ =>
      ((create_appends _ _ _).adapt _).then_readOnly fun _ => readOnly_pure _

theorem createMenu_appends : Handler.Moves (fun _ => Appends) createMenu := fun _ =>
  .bind_readOnly (need_readOnly _ _) fun _ => .bind_readOnly (need_readOnly _ _) fun _ =>
    .bind_readOnly (decode_readOnly _ _) fun _ => .guard _ _ fun _ =>
      .bind_readOnly ((retrieve_readOnly _).adapt _) fun _ => .guard _ _ fun _ =>
        ((RestaurantApi.createMenu_appends _ _ _).adapt _).then_readOnly fun _ => readOnly_pure _

theorem restaurantList_guards : Handler.Guards restaurantList := fun _ =>
  (restaurantList_readOnly _).guarded

theorem restaurantRetrieve_guards : Handler.Guards restaurantRetrieve := fun _ =>
  (restaurantRetrieve_readOnly _).guarded

theorem retrieveMenu_guards : Handler.Guards retrieveMenu := fun _ =>
  (retrieveMenu_readOnly _).guarded

theorem restaurantCreate_guards : Handler.Guards restaurantCreate := fun _ =>
  .bind_need fun _ _ => .bind_need fun _ _ => .bind_readOnly (decode_readOnly _ _) fun _ =>
    ((guarded_of_keeps (create_keeps _ _ _)).adapt _).then_readOnly fun _ => readOnly_pure _

theorem restaurantUpdate_guards : Handler.Guards restaurantUpdate := fun _ =>
  .bind_need fun claims hc => .bind_need fun _ _ => .bind_readOnly (decode_readOnly _ _) fun _ =>
    (((update_guarded _ _ _).adapt _).then_readOnly fun _ => readOnly_pure _).mono
      fun _ may => ⟨claims, hc, may⟩

theorem createMenu_guards : Handler.Guards createMenu := fun _ =>
  .bind_need fun _ _ => .bind_need fun _ _ => .bind_readOnly (decode_readOnly _ _) fun _ =>
    .guard _ _ fun _ => .bind_readOnly ((retrieve_readOnly _).adapt _) fun _ =>
      .guard _ _ fun _ =>
        ((guarded_of_keeps (createMenu_keeps _ _ _)).adapt _).then_readOnly fun _ => readOnly_pure _

end Handlers

section Wrap

variable {R : String → Db → Db → Prop} [∀ newId, IsRefl Db (R newId)] {h : Handler}

theorem Handler.Moves.wrap (moves : h.Moves R) : ∀ mw : Middleware, (mw.wrap h).Moves R
  | .authenticate => fun req => by
    cases bearer : req.bearer with
    | none => exact ReadOnly.moves fun db => by simp only [Middleware.wrap, bearer]; rfl
    | some claims =>
      simp only [Middleware.wrap, bearer]
      exact moves { req with claims := some claims, bearer := some claims }
  | .hasRole _ => fun req =>
    .bind_readOnly (Handlers.need_readOnly _ _) fun _ => .guard _ _ fun _ => moves req

theorem Handler.Moves.route (moves : h.Moves R) (route : Route) : (route.wrap h).Moves R := by
  intro req
  refine .bind_readOnly (Handlers.need_readOnly _ _) fun _ => ?_
  induction route.middleware generalizing req with
  | nil => exact moves req
  | cons mw _ ih => exact Handler.Moves.wrap (fun req => ih req) mw req

theorem serve_moves {http : HttpRequest} {m : Web Reply} (served : serve http = some m)
    (moves : ∀ route params h, dispatch api http = some (route, params) →
      route.endpoint.handler = some h → h.Moves R) :
    Moves (R http.uuid) m := by
  simp only [serve, Option.bind_eq_bind, Option.bind_eq_some, Option.some.injEq] at served
  obtain ⟨⟨route, params⟩, found, h, handled, served⟩ := served
  obtain rfl : route.wrap h (http.toRequest params) = m := Option.some.inj served
  exact (moves route params h found handled).route route (http.toRequest params)

end Wrap

theorem Handler.Guards.authenticate {h : Handler} (guards : h.Guards) :
    (Middleware.authenticate.wrap h).GuardsBearer := by
  intro req
  cases bearer : req.bearer with
  | none => exact ReadOnly.guarded fun db => by simp only [Middleware.wrap, bearer]; rfl
  | some claims =>
    simp only [Middleware.wrap, bearer]
    exact (guards _).mono fun _ ⟨_, given, may⟩ => ⟨_, rfl, Option.some.inj given ▸ may⟩

theorem Handler.Guards.hasRole {h : Handler} (guards : h.Guards) (role : String) :
    ((Middleware.hasRole role).wrap h).Guards := fun req =>
  .bind_need fun _ _ => .guard _ _ fun _ => guards req

theorem Handler.GuardsBearer.logger {h : Handler} (guards : h.GuardsBearer) :
    (logger h).GuardsBearer := fun req =>
  .bind_need fun _ _ => guards req

theorem api_rewrites_unowned_rows_only_by_delete {http : HttpRequest} {m : Web Reply}
    (served : serve http = some m) :
    (∀ (db db' : Db) (r : Except WebError Reply), (db.restaurants.map (·.id)).Nodup →
      exec m db = (r, db') → ∀ row ∈ db.restaurants, row ∉ db'.restaurants →
        (∃ claims, http.bearer = some claims ∧ claims.mayChange row.ownerUserId = true) ∨
          (dispatch api http).map (·.1.endpoint) = some .restaurantDelete) ∧
      ((dispatch api http).map (·.1.endpoint) ∈
          [some .restaurantList, some .restaurantRetrieve, some .retrieveMenu, some .retrieveVotes] →
        ReadOnly m) ∧
      ((dispatch api http).map (·.1.endpoint) ∈ [some .restaurantCreate, some .createMenu] →
        ∀ db, ∃ rows menus, (exec m db).2 = ⟨db.restaurants ++ rows, db.menus ++ menus⟩) := by
  have reads := @serve_moves (fun _ => (· = ·)) _ http m served
  have appends := @serve_moves (fun _ => Appends) _ http m served
  simp only [serve, Option.bind_eq_bind, Option.bind_eq_some, Option.some.injEq] at served
  obtain ⟨⟨route, params⟩, found, h, handled, served⟩ := served
  obtain rfl : route.wrap h (http.toRequest params) = m := Option.some.inj served
  simp only [found, Option.map_some', List.mem_cons, Option.some.injEq, List.mem_singleton,
    List.not_mem_nil, or_false]
  have listed := dispatch_mem found
  simp only [api, List.mem_cons, List.mem_singleton, List.not_mem_nil, or_false] at listed
  refine ⟨fun db db' r keys run row member gone => ?_, fun read db => ?_, fun adding db => ?_⟩
  · have bearer : (route.middleware.foldr Middleware.wrap h).GuardsBearer →
        ∃ claims, http.bearer = some claims ∧ claims.mayChange row.ownerUserId = true :=
      fun guards => guards.logger _ db r db' keys run row member gone
    rcases listed with rfl | rfl | rfl | rfl | rfl | rfl | rfl | rfl | rfl | rfl | rfl | rfl <;>
      simp only [Endpoint.handler, reduceCtorEq, Option.some.injEq] at handled <;> subst handled
    · exact .inl (bearer Handlers.restaurantList_guards.authenticate)
    · exact .inl (bearer Handlers.restaurantCreate_guards.authenticate)
    · exact .inl (bearer Handlers.restaurantRetrieve_guards.authenticate)
    · exact .inl (bearer Handlers.restaurantUpdate_guards.authenticate)
    · exact .inr rfl
    · exact .inl (bearer Handlers.retrieveMenu_guards.authenticate)
    · exact .inl (bearer Handlers.retrieveMenu_guards.authenticate)
    · exact .inl (bearer (Handlers.createMenu_guards.hasRole _).authenticate)
  · refine (reads (fun route' _ h' found' handled' req => ?_) db).symm
    obtain ⟨rfl, -⟩ := Prod.mk.inj (Option.some.inj (found.symm.trans found'))
    rcases read with e | e | e | e <;> rw [e] at handled' <;> cases handled'
    exacts [ReadOnly.moves (Handlers.restaurantList_readOnly req),
      ReadOnly.moves (Handlers.restaurantRetrieve_readOnly req),
      ReadOnly.moves (Handlers.retrieveMenu_readOnly req),
      ReadOnly.moves (Handlers.retrieveMenu_readOnly req)]
  · refine appends (fun route' _ h' found' handled' => ?_) db
    obtain ⟨rfl, -⟩ := Prod.mk.inj (Option.some.inj (found.symm.trans found'))
    rcases adding with e | e <;> rw [e] at handled' <;> cases handled'
    exacts [Handlers.restaurantCreate_appends, Handlers.createMenu_appends]

theorem api_rewrites_unowned_rows_only_by_delete_on_put :
    let http : HttpRequest := ⟨"PUT", "/v1/restaurant/a224a8d6-3f9e-4b11-9900-e81a25d80702",
      some ⟨"alice", ["USER"]⟩, ⟨.error "", .ok ⟨some "Luigi", none⟩, .error "", .error ""⟩, 5, ""⟩
    let rest : Restaurant := ⟨"a224a8d6-3f9e-4b11-9900-e81a25d80702", "Trattoria", "Via Roma 1", "alice", 1, 1⟩
    ∃ m, serve http = some m ∧
      ((∃ claims, http.bearer = some claims ∧ claims.mayChange rest.ownerUserId = true) ∨
        (dispatch api http).map (·.1.endpoint) = some .restaurantDelete) := by
  intro http rest
  exact ⟨_, rfl, (@api_rewrites_unowned_rows_only_by_delete http _ rfl).1 ⟨[rest], []⟩
    ⟨[{ rest with name := "Luigi", dateUpdated := 5 }], []⟩ (.ok ⟨204, .empty⟩)
    (by decide) rfl rest (List.mem_singleton_self _) (by decide)⟩

theorem delete_route_removes_unowned_restaurant :
    let rest : Restaurant := ⟨"a224a8d6-3f9e-4b11-9900-e81a25d80702", "Alpha", "Main St", "alice", 1, 1⟩
    let bob : Claims := ⟨"bob", ["USER"]⟩
    let http : HttpRequest :=
      ⟨"DELETE", "/v1/restaurant/" ++ rest.id, some bob,
        ⟨.error "", .error "", .error "", .error ""⟩, 5, ""⟩
    bob.mayChange rest.ownerUserId = false ∧
      ∃ m, serve http = some m ∧ exec m ⟨[rest], []⟩ = (.ok ⟨204, .empty⟩, ⟨[], []⟩) :=
  ⟨rfl, _, rfl, rfl⟩

end RestaurantApi
