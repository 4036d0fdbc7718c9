import RestaurantApi.Errors
import RestaurantApi.Refinement
import RestaurantApi.Uuid

/-! The restaurant resource over HTTP.

A request passes the router, Logger and Authenticate, and a handler whose store call decides
the outcome; mid.Errors writes the status. The four routes on /v1/restaurant answer what
restaurant.Create, Retrieve, Update and Delete return, and ids that uuid.New draws round-trip
through them. The menu routes read the path's restaurant id as a menu_id, so a menu created at a
restaurant is never read back there, and no route answers a caller without a verified token. -/

namespace RestaurantApi

/-- What the app answers to a request on tables `db`, and the tables after it; `none` when no
route with a modelled handler takes the request. -/
def respond (http : HttpRequest) (db : Db) : Option (Except WebError Reply × Db) :=
  (serve http).map (exec · db)

def StoreError.request (e : StoreError) : WebError := .request (some e) e.status

theorem segments_eq {path : String} {parts : List String} (nonempty : parts ≠ [])
    (one : ∀ p ∈ parts, '/' ∉ p.data) (shape : path.data = ['/'].intercalate (parts.map String.data)) :
    segments path = parts := by
  rw [segments, shape, List.splitOn_intercalate, List.map_map]
  · exact List.map_id' _
  · simpa using one
  · simpa using nonempty

theorem restaurant_prefix_one : ∀ p ∈ ["", "v1", "restaurant"], '/' ∉ p.data := by decide

theorem segments_restaurant_id {id : String} (one : '/' ∉ id.data) :
    segments ("/v1/restaurant/" ++ id) = ["", "v1", "restaurant", id] :=
  segments_eq (by simp) (List.forall_mem_append.mpr ⟨restaurant_prefix_one, by simpa using one⟩) (by
    simp only [List.map_cons, List.map_nil, List.intercalate, List.intersperse, List.flatten_cons,
      List.flatten_nil, List.append_nil]
    rfl)

theorem segments_restaurant_child {id suffix child : String} (one : '/' ∉ id.data)
    (slash : suffix.data = '/' :: child.data) (plain : '/' ∉ child.data) :
    segments ("/v1/restaurant/" ++ id ++ suffix) = ["", "v1", "restaurant", id, child] :=
  segments_eq (by simp) (List.forall_mem_append.mpr ⟨restaurant_prefix_one, by simp [one, plain]⟩) (by
    simp only [List.map_cons, List.map_nil, List.intercalate, List.intersperse, List.flatten_cons,
      List.flatten_nil, List.append_nil, String.data_append, List.append_assoc, slash]
    rfl)

theorem dispatch_restaurant_id {method : String} {endpoint : Endpoint} {id : String}
    (one : '/' ∉ id.data)
    (listed : (method, endpoint) ∈
      [("GET", .restaurantRetrieve), ("PUT", .restaurantUpdate), ("DELETE", .restaurantDelete)])
    (bearer : Option Claims) (body : Body) (now : Nat) (uuid : String) :
    dispatch api ⟨method, "/v1/restaurant/" ++ id, bearer, body, now, uuid⟩ =
      some (⟨method, "/v1/restaurant/:id", endpoint, [.authenticate]⟩, [("id", id)]) := by
  simp only [List.mem_cons, Prod.mk.injEq, List.mem_singleton, List.not_mem_nil, or_false] at listed
  rcases listed with ⟨rfl, rfl⟩ | ⟨rfl, rfl⟩ | ⟨rfl, rfl⟩ <;>
    rw [dispatch, segments_restaurant_id one] <;> rfl

theorem dispatch_restaurant_child {suffix child : String} {endpoint : Endpoint} {id : String}
    (one : '/' ∉ id.data)
    (listed : (suffix, child, endpoint) ∈
      [("/menu", "menu", .retrieveMenu), ("/votes", "votes", .retrieveVotes)])
    (bearer : Option Claims) (body : Body) (now : Nat) (uuid : String) :
    dispatch api ⟨"GET", "/v1/restaurant/" ++ id ++ suffix, bearer, body, now, uuid⟩ =
      some (⟨"GET", "/v1/restaurant/:restaurantId/" ++ child, endpoint, [.authenticate]⟩,
        [("restaurantId", id)]) := by
  simp only [List.mem_cons, Prod.mk.injEq, List.mem_singleton, List.not_mem_nil, or_false] at listed
  rcases listed with ⟨rfl, rfl, rfl⟩ | ⟨rfl, rfl, rfl⟩ <;>
    rw [dispatch, segments_restaurant_child one rfl (by decide)] <;> rfl

theorem dispatch_menu_create {id : String} (one : '/' ∉ id.data) (bearer : Option Claims)
    (body : Body) (now : Nat) (uuid : String) :
    dispatch api ⟨"POST", "/v1/restaurant/" ++ id ++ "/menu", bearer, body, now, uuid⟩ =
      some (⟨"POST", "/v1/restaurant/:restaurantId/menu", .createMenu,
        [.authenticate, .hasRole roleAdmin]⟩, [("restaurantId", id)]) := by
  rw [dispatch, segments_restaurant_child one rfl (by decide)]
  rfl

theorem dispatch_restaurant_create (bearer : Option Claims) (body : Body) (now : Nat)
    (uuid : String) :
    dispatch api ⟨"POST", "/v1/restaurant", bearer, body, now, uuid⟩ =
      some (⟨"POST", "/v1/restaurant", .restaurantCreate, [.authenticate]⟩, []) := rfl

theorem respond_authenticated {http : HttpRequest} {route : Route} {params : List (String × String)}
    {h : Handler} (found : dispatch api http = some (route, params))
    (handled : route.endpoint.handler = some h) (guarded : route.middleware = [.authenticate])
    (db : Db) :
    respond http db = some (match http.bearer with
      | none => (.error (.denied 401), db)
      | some claims => exec (h { http.toRequest params with claims := some claims }) db) := by
  simp only [respond, serve, found, handled, Option.bind_eq_bind, Option.some_bind, Option.map_some',
    Option.some.injEq, Route.wrap, guarded, List.foldr, logger, Handlers.need, HttpRequest.toRequest]
  cases bearer : http.bearer <;> simp [Middleware.wrap, bearer]

theorem respond_role {http : HttpRequest} {route : Route} {params : List (String × String)}
    {h : Handler} {role : String} (found : dispatch api http = some (route, params))
    (handled : route.endpoint.handler = some h)
    (guarded : route.middleware = [.authenticate, .hasRole role]) (db : Db) :
    respond http db = some (match http.bearer with
      | none => (.error (.denied 401), db)
      | some claims =>
        if claims.hasRole role then exec (h { http.toRequest params with claims := some claims }) db
        else (.error (.denied 403), db)) := by
  simp only [respond, serve, found, handled, Option.bind_eq_bind, Option.some_bind, Option.map_some',
    Option.some.injEq, Route.wrap, guarded, List.foldr, logger, Handlers.need, HttpRequest.toRequest]
  cases bearer : http.bearer with
  | none => simp [Middleware.wrap, bearer]
  | some claims =>
    by_cases admin : claims.hasRole role <;> simp [Middleware.wrap, Handlers.need, bearer, admin]

/-- What a handler makes of its store call: the reply on success, and on failure the
RequestError with the error's own status. -/
def answer {α : Type} (reply : α → Reply) (outcome : Except StoreError α × Db) :
    Except WebError Reply × Db :=
  ((outcome.1.map reply).mapError StoreError.request, outcome.2)

theorem exec_adapt_listed {α : Type} {m : Store α} {cases : List (StoreError × Nat)}
    {context : String} (listed : Fails (fun e => cases.lookup e = some e.status) m)
    (reply : α → Reply) (db : Db) :
    exec (ExceptT.adapt (Handlers.requestError cases context) m >>= fun a => pure (reply a)) db =
      answer reply (exec m db) := by
  rw [exec_bind, exec_adapt]
  rcases run : exec m db with ⟨_ | a, db'⟩
  · simp [answer, Handlers.requestError, listed _ _ _ run, StoreError.request, Except.mapError,
      Except.map]
  · rfl

namespace Handlers

variable (db : Db)

theorem restaurantRetrieve_exec (req : Request) :
    exec (restaurantRetrieve req) db =
      answer (fun r => ⟨200, .restaurant r⟩) (exec (retrieve (req.param "id")) db) := by
  simp only [restaurantRetrieve]
  exact exec_adapt_listed
    (fun db e db' run => by rcases retrieve_fails _ db e db' run with rfl | rfl <;> rfl) _ db

theorem restaurantDelete_exec (req : Request) :
    exec (restaurantDelete req) db =
      answer (fun _ => ⟨204, .empty⟩) (exec (delete (req.param "id")) db) := by
  simp only [restaurantDelete]
  exact exec_adapt_listed (fun db e db' run => by rw [delete_fails _ db e db' run]; rfl) _ db

theorem restaurantCreate_exec {req : Request} {claims : Claims} {now : Nat}
    (signed : req.claims = some claims) (stamped : req.now = some now) :
    exec (restaurantCreate req) db =
      match req.body.newRestaurant with
      | .error cause => (.error (.decode "decoding new restaurant" cause), db)
      | .ok nr => answer (fun r => ⟨201, .restaurant r⟩) (exec (create claims nr now req.uuid) db) := by
  cases decoded : req.body.newRestaurant with
  | error cause => simp [restaurantCreate, need, decode, signed, stamped, decoded]
  | ok nr =>
    simp only [restaurantCreate, need, decode, signed, stamped, decoded, pure_bind]
    exact exec_adapt_listed (create_total _ _ _ _).fails _ db

theorem restaurantUpdate_exec {req : Request} {claims : Claims} {now : Nat}
    (signed : req.claims = some claims) (stamped : req.now = some now) :
    exec (restaurantUpdate req) db =
      match req.body.updateRestaurant with
      | .error cause => (.error (.decode "" cause), db)
      | .ok up =>
        answer (fun _ => ⟨204, .empty⟩) (exec (update claims (req.param "id") up now) db) := by
  cases decoded : req.body.updateRestaurant with
  | error cause => simp [restaurantUpdate, need, decode, signed, stamped, decoded]
  | ok up =>
    simp only [restaurantUpdate, need, decode, signed, stamped, decoded, pure_bind]
    exact exec_adapt_listed (fun _ e _ _ => by cases e <;> rfl) _ db

theorem retrieveMenu_answer (req : Request) :
    exec (retrieveMenu req) db =
      answer (fun m => ⟨200, .menu m⟩) (exec (menuRetrieve (req.param "restaurantId")) db) := by
  simp only [retrieveMenu]
  exact exec_adapt_listed
    (fun db e db' run => by rcases menuRetrieve_fails _ db e db' run with rfl | rfl <;> rfl) _ db

end Handlers

section Routes

variable (claims : Claims) (body : Body) (now : Nat) (uuid : String) (db : Db) {id : String}

theorem respond_get (one : '/' ∉ id.data) :
    respond ⟨"GET", "/v1/restaurant/" ++ id, some claims, body, now, uuid⟩ db =
      some (answer (fun r => ⟨200, .restaurant r⟩) (exec (retrieve id) db)) := by
  rw [respond_authenticated (dispatch_restaurant_id one (.head _) _ _ _ _) rfl rfl]
  exact congrArg some (Handlers.restaurantRetrieve_exec db _)

theorem respond_put (one : '/' ∉ id.data) :
    respond ⟨"PUT", "/v1/restaurant/" ++ id, some claims, body, now, uuid⟩ db =
      some (match body.updateRestaurant with
        | .error cause => (.error (.decode "" cause), db)
        | .ok up => answer (fun _ => ⟨204, .empty⟩) (exec (update claims id up now) db)) := by
  rw [respond_authenticated (dispatch_restaurant_id one (.tail _ (.head _)) _ _ _ _) rfl rfl]
  exact congrArg some (Handlers.restaurantUpdate_exec db rfl rfl)

theorem respond_delete (one : '/' ∉ id.data) :
    respond ⟨"DELETE", "/v1/restaurant/" ++ id, some claims, body, now, uuid⟩ db =
      some (answer (fun _ => ⟨204, .empty⟩) (exec (delete id) db)) := by
  rw [respond_authenticated (dispatch_restaurant_id one (.tail _ (.tail _ (.head _))) _ _ _ _) rfl rfl]
  exact congrArg some (Handlers.restaurantDelete_exec db _)

theorem respond_post :
    respond ⟨"POST", "/v1/restaurant", some claims, body, now, uuid⟩ db =
      some (match body.newRestaurant with
        | .error cause => (.error (.decode "decoding new restaurant" cause), db)
        | .ok nr => answer (fun r => ⟨201, .restaurant r⟩) (exec (create claims nr now uuid) db)) := by
  rw [respond_authenticated (dispatch_restaurant_create _ _ _ _) rfl rfl]
  exact congrArg some (Handlers.restaurantCreate_exec db rfl rfl)

theorem respond_menu (one : '/' ∉ id.data) :
    respond ⟨"GET", "/v1/restaurant/" ++ id ++ "/menu", some claims, body, now, uuid⟩ db =
      some (answer (fun m => ⟨200, .menu m⟩) (exec (menuRetrieve id) db)) := by
  rw [respond_authenticated (dispatch_restaurant_child one (.head _) _ _ _ _) rfl rfl]
  exact congrArg some (Handlers.retrieveMenu_answer db _)

theorem respond_votes (one : '/' ∉ id.data) :
    respond ⟨"GET", "/v1/restaurant/" ++ id ++ "/votes", some claims, body, now, uuid⟩ db =
      some (answer (fun m => ⟨200, .menu m⟩) (exec (menuRetrieve id) db)) := by
  rw [respond_authenticated (dispatch_restaurant_child one (.tail _ (.head _)) _ _ _ _) rfl rfl]
  exact congrArg some (Handlers.retrieveMenu_answer db _)

theorem restaurant_routes_run_store_calls (segment : id ≠ "" ∧ '/' ∉ id.data) :
    respond ⟨"GET", "/v1/restaurant/" ++ id, some claims, body, now, uuid⟩ db =
        some (answer (fun r => ⟨200, .restaurant r⟩) (exec (retrieve id) db)) ∧
      respond ⟨"PUT", "/v1/restaurant/" ++ id, some claims, body, now, uuid⟩ db =
        some (match body.updateRestaurant with
          | .error cause => (.error (.decode "" cause), db)
          | .ok up => answer (fun _ => ⟨204, .empty⟩) (exec (update claims id up now) db)) ∧
      respond ⟨"DELETE", "/v1/restaurant/" ++ id, some claims, body, now, uuid⟩ db =
        some (answer (fun _ => ⟨204, .empty⟩) (exec (delete id) db)) ∧
      respond ⟨"POST", "/v1/restaurant", some claims, body, now, uuid⟩ db =
        some (match body.newRestaurant with
          | .error cause => (.error (.decode "decoding new restaurant" cause), db)
          | .ok nr => answer (fun r => ⟨201, .restaurant r⟩) (exec (create claims nr now uuid) db)) :=
  ⟨respond_get claims body now uuid db segment.2, respond_put claims body now uuid db segment.2,
    respond_delete claims body now uuid db segment.2, respond_post claims body now uuid db⟩

theorem menu_routes_read_restaurant_id_as_menu_id (segment : id ≠ "" ∧ '/' ∉ id.data) :
    respond ⟨"GET", "/v1/restaurant/" ++ id ++ "/menu", some claims, body, now, uuid⟩ db =
        some (answer (fun m => ⟨200, .menu m⟩) (exec (menuRetrieve id) db)) ∧
      respond ⟨"GET", "/v1/restaurant/" ++ id ++ "/votes", some claims, body, now, uuid⟩ db =
        some (answer (fun m => ⟨200, .menu m⟩) (exec (menuRetrieve id) db)) :=
  ⟨respond_menu claims body now uuid db segment.2, respond_votes claims body now uuid db segment.2⟩

end Routes

theorem menu_routes_read_restaurant_id_as_menu_id_on_alpha :
    let id := "a224a8d6-3f9e-4b11-9900-e81a25d80702"
    let alice : Claims := ⟨"alice", ["USER"]⟩
    let body : Body := ⟨.error "", .error "", .error "", .error ""⟩
    let db : Db := ⟨[⟨id, "Alpha", "Main St", "alice", 1, 1⟩], []⟩
    (id ≠ "" ∧ '/' ∉ id.data) ∧
      respond ⟨"GET", "/v1/restaurant/" ++ id ++ "/menu", some alice, body, 2, ""⟩ db =
        some (answer (fun m => ⟨200, .menu m⟩) (exec (menuRetrieve id) db)) := by
  intro id alice body db
  have segment : id ≠ "" ∧ '/' ∉ id.data := by decide
  exact ⟨segment, (@menu_routes_read_restaurant_id_as_menu_id alice body 2 "" db id segment).1⟩

theorem restaurant_routes_run_store_calls_on_alpha :
    let id := "a224a8d6-3f9e-4b11-9900-e81a25d80702"
    let alice : Claims := ⟨"alice", ["USER"]⟩
    let body : Body := ⟨.ok ⟨"Alpha", "Main St"⟩, .ok ⟨some "Beta", none⟩, .error "", .error ""⟩
    let db : Db := ⟨[⟨id, "Alpha", "Main St", "alice", 1, 1⟩], []⟩
    (id ≠ "" ∧ '/' ∉ id.data) ∧
      respond ⟨"GET", "/v1/restaurant/" ++ id, some alice, body, 2, ""⟩ db =
        some (answer (fun r => ⟨200, .restaurant r⟩) (exec (retrieve id) db)) := by
  intro id alice body db
  have segment : id ≠ "" ∧ '/' ∉ id.data := by decide
  exact ⟨segment, (@restaurant_routes_run_store_calls alice body 2 "" db id segment).1⟩

theorem restaurant_lifecycle_over_http {db : Db} {random : Uuid}
    (fresh : db.restaurantRow (newRandom random).string = none) (creator reader : Claims)
    {nr : NewRestaurant} {up : UpdateRestaurant} {body : Body}
    (created : body.newRestaurant = .ok nr) (changed : body.updateRestaurant = .ok up)
    (t₁ t₂ t₃ t₄ t₅ t₆ : Nat) (uuid : String) :
    let id := (newRandom random).string
    let r : Restaurant := ⟨id, nr.name, nr.address, creator.subject, t₁, t₁⟩
    let db₁ := db.insertRestaurant r
    let db₂ := db₁.updateRestaurant id (up.name.getD r.name) (up.address.getD r.address) t₃
    let db₃ := db₂.deleteRestaurant id
    respond ⟨"POST", "/v1/restaurant", some creator, body, t₁, id⟩ db =
        some (.ok ⟨201, .restaurant r⟩, db₁) ∧
      respond ⟨"GET", "/v1/restaurant/" ++ id, some reader, body, t₂, uuid⟩ db₁ =
        some (.ok ⟨200, .restaurant r⟩, db₁) ∧
      respond ⟨"PUT", "/v1/restaurant/" ++ id, some creator, body, t₃, uuid⟩ db₁ =
        some (.ok ⟨204, .empty⟩, db₂) ∧
      respond ⟨"GET", "/v1/restaurant/" ++ id, some reader, body, t₄, uuid⟩ db₂ =
        some (.ok ⟨200, .restaurant (r.merge up t₃)⟩, db₂) ∧
      respond ⟨"DELETE", "/v1/restaurant/" ++ id, some creator, body, t₅, uuid⟩ db₂ =
        some (.ok ⟨204, .empty⟩, db₃) ∧
      respond ⟨"GET", "/v1/restaurant/" ++ id, some reader, body, t₆, uuid⟩ db₃ =
        some (.error StoreError.notFound.request, db₃) := by
  intro id r db₁ db₂ db₃
  have parse : uuidParse id = true := uuidParse_string _
  have one : '/' ∉ id.data := slash_not_mem_string _
  have looked₁ : db₁.lookup id = .ok r := lookup_ok.mpr ⟨parse, by
    simp [db₁, restaurantRow_insertRestaurant, fresh, r]⟩
  have looked₂ : db₂.lookup id = .ok (r.merge up t₃) :=
    lookup_updateRestaurant_of_lookup looked₁ _ _ _
  have gone : db₃.lookup id = .error .notFound := by
    simp [Db.lookup, parse, db₃, restaurantRow_deleteRestaurant]
  have owner : creator.mayChange r.ownerUserId = true := by simp [Claims.mayChange, r]
  refine ⟨?_, ?_, ?_, ?_, ?_, ?_⟩
  · rw [respond_post, created]
    rfl
  · rw [respond_get _ _ _ _ _ one, retrieve_exec, looked₁]
    rfl
  · simp only [respond_put _ _ _ _ _ one, changed, update_exec, looked₁, owner, if_true]
    rfl
  · rw [respond_get _ _ _ _ _ one, retrieve_exec, looked₂]
    rfl
  · rw [respond_delete _ _ _ _ _ one, delete_exec, if_pos parse]
    rfl
  · rw [respond_get _ _ _ _ _ one, retrieve_exec, gone]
    rfl

theorem restaurant_lifecycle_from_empty :
    let id := (newRandom fun _ => 0).string
    let body : Body := ⟨.ok ⟨"Alpha", "Main St"⟩, .ok ⟨some "Beta", none⟩, .error "", .error ""⟩
    let alice : Claims := ⟨"alice", ["USER"]⟩
    let r : Restaurant := ⟨id, "Alpha", "Main St", "alice", 1, 1⟩
    (⟨[], []⟩ : Db).restaurantRow id = none ∧ body.newRestaurant = .ok ⟨"Alpha", "Main St"⟩ ∧
      body.updateRestaurant = .ok ⟨some "Beta", none⟩ ∧
      respond ⟨"POST", "/v1/restaurant", some alice, body, 1, id⟩ ⟨[], []⟩ =
        some (.ok ⟨201, .restaurant r⟩, ⟨[r], []⟩) ∧
      respond ⟨"GET", "/v1/restaurant/" ++ id, some alice, body, 2, ""⟩ ⟨[r], []⟩ =
        some (.ok ⟨200, .restaurant r⟩, ⟨[r], []⟩) :=
  have lifecycle := @restaurant_lifecycle_over_http ⟨[], []⟩ (fun _ => 0) rfl ⟨"alice", ["USER"]⟩
    ⟨"alice", ["USER"]⟩ _ _ ⟨.ok ⟨"Alpha", "Main St"⟩, .ok ⟨some "Beta", none⟩, .error "", .error ""⟩
    rfl rfl 1 2 3 4 5 6 ""
  ⟨rfl, rfl, rfl, lifecycle.1, lifecycle.2.1⟩

theorem created_menu_never_read_at_its_restaurant {db db' : Db} {claims reader : Claims}
    {body body' : Body} {now now' : Nat} {uuid uuid' id : String} {menu : Menu}
    (one : '/' ∉ id.data) (fresh : db.restaurantRow uuid = none)
    (created : respond ⟨"POST", "/v1/restaurant/" ++ id ++ "/menu", some claims, body, now, uuid⟩ db =
      some (.ok ⟨201, .menu menu⟩, db')) :
    menu.restaurantId = id ∧ menu.id = uuid ∧ menu.id ≠ id ∧ db'.menus = db.menus ++ [menu] ∧
      (respond ⟨"GET", "/v1/restaurant/" ++ id ++ "/menu", some reader, body', now', uuid'⟩ db').map
          Prod.fst =
        (respond ⟨"GET", "/v1/restaurant/" ++ id ++ "/menu", some reader, body', now', uuid'⟩ db).map
          Prod.fst := by
  rw [respond_role (dispatch_menu_create one _ _ _ _) rfl rfl] at created
  by_cases admin : claims.hasRole roleAdmin <;>
    simp only [admin, if_true, if_false, Option.some.injEq, Prod.mk.injEq, reduceCtorEq,
      false_and] at created
  obtain ⟨_, now, nm, r, -, -, -, same, looked, -, rfl, replied⟩ := Handlers.createMenu_ok created
  obtain rfl : nm.restaurantId = id := same
  simp only [Reply.mk.injEq, Payload.menu.injEq, true_and] at replied
  subst replied
  have other : uuid ≠ nm.restaurantId := fun drawn => by
    simpa [drawn ▸ fresh] using (lookup_ok.mp looked).2
  refine ⟨rfl, rfl, other, rfl, ?_⟩
  simp only [respond_menu _ _ _ _ _ one, menuRetrieve_exec, Db.lookupMenu, menuRow_insertMenu,
    HttpRequest.toRequest, other, if_false, Option.or_none, Option.map_some', answer]

theorem created_menu_never_read_on_alpha :
    let id := "a224a8d6-3f9e-4b11-9900-e81a25d80702"
    let uuid := "b335b9e7-4a0f-4c22-8a11-f92b36e81813"
    let alice : Claims := ⟨"alice", ["ADMIN"]⟩
    let body : Body := ⟨.error "", .error "", .ok ⟨id, 2, "Soup"⟩, .error ""⟩
    let db : Db := ⟨[⟨id, "Alpha", "Main St", "alice", 1, 1⟩], []⟩
    let menu : Menu := ⟨uuid, id, 2, "Soup", 0⟩
    '/' ∉ id.data ∧ db.restaurantRow uuid = none ∧
      respond ⟨"POST", "/v1/restaurant/" ++ id ++ "/menu", some alice, body, 2, uuid⟩ db =
        some (.ok ⟨201, .menu menu⟩, ⟨db.restaurants, [menu]⟩) ∧
      (respond ⟨"GET", "/v1/restaurant/" ++ id ++ "/menu", some alice, body, 3, ""⟩
          ⟨db.restaurants, [menu]⟩).map Prod.fst =
        (respond ⟨"GET", "/v1/restaurant/" ++ id ++ "/menu", some alice, body, 3, ""⟩ db).map
          Prod.fst := by
  intro id uuid alice body db menu
  have one : '/' ∉ id.data := by decide
  have fresh : db.restaurantRow uuid = none := by decide
  have created : respond ⟨"POST", "/v1/restaurant/" ++ id ++ "/menu", some alice, body, 2, uuid⟩ db =
      some (.ok ⟨201, .menu menu⟩, ⟨db.restaurants, [menu]⟩) := by
    rfl
  exact ⟨one, fresh, created,
    (@created_menu_never_read_at_its_restaurant db _ alice alice body body 2 3 uuid "" id menu one fresh
      created).2.2.2.2⟩

theorem exec_wrap_unverified {route : Route} {rest : List Middleware} {h : Handler}
    {http : HttpRequest} (params : List (String × String)) (first : route.middleware = .authenticate :: rest)
    (unverified : http.bearer = none) (db : Db) :
    exec (route.wrap h (http.toRequest params)) db = (.error (.denied 401), db) := by
  simp [Route.wrap, first, logger, Handlers.need, Middleware.wrap, HttpRequest.toRequest, unverified]

theorem api_denies_unverified_callers {http : HttpRequest} {m : Web Reply}
    (served : serve http = some m) (db : Db) :
    (http.bearer = none → exec m db = (.error (.denied 401), db)) ∧
      ∀ claims, http.bearer = some claims → claims.hasRole roleAdmin = false →
        (dispatch api http).map (·.1.endpoint) = some .createMenu →
        exec m db = (.error (.denied 403), db) := by
  simp only [serve, Option.bind_eq_bind, Option.bind_eq_some, Option.some.injEq] at served
  obtain ⟨⟨route, params⟩, found, h, handled, served⟩ := served
  obtain rfl : route.wrap h (http.toRequest params) = m := Option.some.inj served
  have listed := dispatch_mem found
  simp only [api, List.mem_cons, List.mem_singleton, List.not_mem_nil, or_false] at listed
  refine ⟨fun unverified => ?_, fun claims verified plain menu => ?_⟩
  · rcases listed with rfl | rfl | rfl | rfl | rfl | rfl | rfl | rfl | rfl | rfl | rfl | rfl <;>
      first | exact exec_wrap_unverified params rfl unverified db | cases handled
  · simp only [found, Option.map_some', Option.some.injEq] at menu
    rcases listed with rfl | rfl | rfl | rfl | rfl | rfl | rfl | rfl | rfl | rfl | rfl | rfl <;>
      cases menu
    simp [Route.wrap, logger, Handlers.need, Middleware.wrap, HttpRequest.toRequest, verified, plain]

theorem api_denies_unverified_callers_on_menu :
    let http : HttpRequest := ⟨"POST", "/v1/restaurant/a224a8d6-3f9e-4b11-9900-e81a25d80702/menu",
      some ⟨"bob", ["USER"]⟩, ⟨.error "", .error "", .error "", .error ""⟩, 5, ""⟩
    ∃ m, serve http = some m ∧ exec m ⟨[], []⟩ = (.error (.denied 403), ⟨[], []⟩) := by
  intro http
  exact ⟨_, rfl, (@api_denies_unverified_callers http _ rfl ⟨[], []⟩).2 _ rfl rfl rfl⟩

end RestaurantApi
