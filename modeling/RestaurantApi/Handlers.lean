import RestaurantApi.Store

/-! The handlers of handlers.Restaurant and handlers.Menu.

A handler reads its request, calls package restaurant and either writes a reply or
returns an error for the middleware to translate. -/

namespace RestaurantApi

/-- The errors a handler returns: web.NewRequestError(err, status) with `none` for a nil `err`,
web.NewShutdownError, a predefined error of package restaurant returned bare or wrapped with a
context by errors.Wrap(f), the error of web.Decode wrapped with a context, and, modelled from
the spec, the 401 of mid.Authenticate and the 403 of mid.HasRole. -/
inductive WebError
  | request (err : Option StoreError) (status : Nat)
  | shutdown (message : String)
  | bare (err : StoreError)
  | wrapped (context : String) (err : StoreError)
  | decode (context : String) (cause : String)
  | denied (status : Nat)
  deriving DecidableEq, Repr

abbrev Web := DbM WebError

structure Body where
  newRestaurant : Except String NewRestaurant
  updateRestaurant : Except String UpdateRestaurant
  newMenu : Except String NewMenu
  updateMenu : Except String UpdateMenu

/-- What a handler reads: the context's claims and `Now`, the path parameters, the body,
and the id `uuid.New()` draws if the handler inserts a row. `bearer` is read by
mid.Authenticate only: the claims the Authorization header verifies to, if it does. A missing
parameter reads as the empty string, as from a Go map. -/
structure Request where
  claims : Option Claims
  now : Option Nat
  params : List (String × String)
  body : Body
  uuid : String
  bearer : Option Claims

def Request.param (req : Request) (key : String) : String := (req.params.lookup key).getD ""

inductive Payload
  | restaurants (rs : List Restaurant)
  | restaurant (r : Restaurant)
  | menu (m : Menu)
  | empty
  deriving DecidableEq, Repr

structure Reply where
  status : Nat
  payload : Payload
  deriving DecidableEq, Repr

namespace Handlers

def requestError (cases : List (StoreError × Nat)) (context : String) (e : StoreError) : WebError :=
  match cases.lookup e with
  | some status => .request (some e) status
  | none => .wrapped context e

def need {α : Type} (x : Option α) (message : String) : Web α :=
  match x with
  | some a => pure a
  | none => throw (.shutdown message)

def decode {α : Type} (x : Except String α) (context : String) : Web α :=
  match x with
  | .ok a => pure a
  | .error cause => throw (.decode context cause)

def restaurantList (_req : Request) : Web Reply := do
  let restaurants ← ExceptT.adapt .bare list
  pure ⟨200, .restaurants restaurants⟩

def restaurantRetrieve (req : Request) : Web Reply := do
  let id := req.param "id"
  let r ← ExceptT.adapt (requestError [(.invalidID, 400), (.notFound, 404)] ("ID: " ++ id))
    (retrieve id)
  pure ⟨200, .restaurant r⟩

def restaurantCreate (req : Request) : Web Reply := do
  let claims ← need req.claims "claims missing from context"
  let now ← need req.now "web value missing from context"
  let nr ← decode req.body.newRestaurant "decoding new restaurant"
  let r ← ExceptT.adapt (requestError [] "creating new restaurant") (create claims nr now req.uuid)
  pure ⟨201, .restaurant r⟩

def restaurantUpdate (req : Request) : Web Reply := do
  let claims ← need req.claims "claims missing from context"
  let now ← need req.now "web value missing from context"
  let up ← decode req.body.updateRestaurant ""
  let id := req.param "id"
  ExceptT.adapt
    (requestError [(.invalidID, 400), (.notFound, 404), (.forbidden, 403)]
      ("updating restaurant " ++ id)) (update claims id up now)
  pure ⟨204, .empty⟩

def restaurantDelete (req : Request) : Web Reply := do
  let id := req.param "id"
  ExceptT.adapt (requestError [(.invalidID, 400)] ("Id: " ++ id)) (delete id)
  pure ⟨204, .empty⟩

def menuList (req : Request) : Web Reply := restaurantList req

def retrieveMenu (req : Request) : Web Reply := do
  let m ← ExceptT.adapt
    (requestError [(.invalidID, 400), (.notFound, 404)] ("ID: " ++ req.param "id"))
    (menuRetrieve (req.param "restaurantId"))
  pure ⟨200, .menu m⟩

def retrieveVotes (req : Request) : Web Reply := retrieveMenu req

/-- Menu.CreateMenu. The owner check returns `web.NewRequestError(err, ...)` where `err`, the
error of Retrieve, is nil. Its final `restaurantRes == nil` test cannot fire: Retrieve returns a
row whenever it returns no error. -/
def createMenu (req : Request) : Web Reply := do
  let claims ← need req.claims "claims missing from context"
  let now ← need req.now "web value missing from context"
  let restaurantId := req.param "restaurantId"
  let nm ← decode req.body.newMenu "decoding new menu"
  if nm.restaurantId != restaurantId then throw (.bare .invalidID)
  let restaurantRes ← ExceptT.adapt
    (requestError [(.invalidID, 400), (.notFound, 404), (.forbidden, 403)]
      ("retrieving restaurant id: " ++ restaurantId)) (retrieve restaurantId)
  if restaurantRes.ownerUserId != claims.subject then throw (.request none 403)
  let restResult ← ExceptT.adapt (requestError [] "creating new menu")
    (RestaurantApi.createMenu claims nm now req.uuid)
  pure ⟨201, .menu restResult⟩

def menuUpdate (req : Request) : Web Unit := do
  let claims ← need req.claims "claims missing from context"
  let now ← need req.now "web value missing from context"
  let up ← decode req.body.updateMenu "request decode"
  let restaurantId := req.param "restaurantId"
  ExceptT.adapt
    (requestError [(.invalidID, 400), (.notFound, 404), (.forbidden, 403)]
      ("updating menu " ++ restaurantId)) (RestaurantApi.menuUpdate claims restaurantId up now)

section Calls

variable {α : Type} {db db' : Db}

theorem need_readOnly (x : Option α) (message : String) : ReadOnly (need x message) := by
  intro db
  cases x <;> rfl

theorem decode_readOnly (x : Except String α) (context : String) : ReadOnly (decode x context) := by
  intro db
  cases x <;> rfl

theorem exec_need_ok {x : Option α} {message : String} {a : α} :
    exec (need x message) db = (.ok a, db') ↔ x = some a ∧ db' = db := by
  cases x <;> simp [need, eq_comm]

theorem exec_decode_ok {x : Except String α} {context : String} {a : α} :
    exec (decode x context) db = (.ok a, db') ↔ x = .ok a ∧ db' = db := by
  cases x <;> simp [decode, eq_comm]

end Calls

theorem createMenu_atomic (req : Request) : Atomic (createMenu req) :=
  .bind_readOnly (need_readOnly _ _) fun _ => .bind_readOnly (need_readOnly _ _) fun _ =>
    .bind_readOnly (decode_readOnly _ _) fun _ => .guard _ _ fun _ =>
      .bind_readOnly ((retrieve_readOnly _).adapt _) fun _ => .guard _ _ fun _ =>
        .bind_total ((createMenu_total _ _ _ _).atomic.adapt _) fun _ => total_pure _

theorem createMenu_ok {req : Request} {db db' : Db} {reply : Reply}
    (run : exec (createMenu req) db = (.ok reply, db')) :
    ∃ claims now nm r, req.claims = some claims ∧ req.now = some now ∧
      req.body.newMenu = .ok nm ∧ nm.restaurantId = req.param "restaurantId" ∧
      db.lookup nm.restaurantId = .ok r ∧ r.ownerUserId = claims.subject ∧
      db' = db.insertMenu ⟨req.uuid, nm.restaurantId, now, nm.menu, 0⟩ ∧
      reply = ⟨201, .menu ⟨req.uuid, nm.restaurantId, now, nm.menu, 0⟩⟩ := by
  simp only [createMenu, exec_bind_ok, exec_guard_ok, exec_need_ok, exec_decode_ok,
    exec_adapt_ok, retrieve_exec, createMenu_exec, exec_pure, Prod.mk.injEq, Except.ok.injEq,
    bne_iff_ne, ne_eq, not_not] at run
  obtain ⟨claims, _, ⟨hc, rfl⟩, now, _, ⟨hn, rfl⟩, nm, _, ⟨hb, rfl⟩, hid, r, _, ⟨hr, rfl⟩, howner,
    _, _, ⟨rfl, rfl⟩, rfl, rfl⟩ := run
  exact ⟨claims, now, nm, r, hc, hn, hb, hid, hid ▸ hr, howner, rfl, rfl⟩

end Handlers

end RestaurantApi
