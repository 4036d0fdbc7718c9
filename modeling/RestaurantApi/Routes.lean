import RestaurantApi.Handlers

/-! The route table of handlers.API and the application around it.

The router, mid.Authenticate, mid.HasRole and mid.Errors are not in the repository's sources:
they are modelled from the spec. mid.Logger is. Check.Health and the User handlers are not in
the sources either, so their endpoints have no handler. -/

namespace RestaurantApi

abbrev Handler := Request → Web Reply

inductive Endpoint
  | health
  | userList
  | userCreate
  | userToken
  | restaurantList
  | restaurantCreate
  | restaurantRetrieve
  | restaurantUpdate
  | restaurantDelete
  | retrieveMenu
  | retrieveVotes
  | createMenu
  deriving DecidableEq, Repr

def Endpoint.handler : Endpoint → Option Handler
  | .restaurantList => some Handlers.restaurantList
  | .restaurantCreate => some Handlers.restaurantCreate
  | .restaurantRetrieve => some Handlers.restaurantRetrieve
  | .restaurantUpdate => some Handlers.restaurantUpdate
  | .restaurantDelete => some Handlers.restaurantDelete
  | .retrieveMenu => some Handlers.retrieveMenu
  | .retrieveVotes => some Handlers.retrieveVotes
  | .createMenu => some Handlers.createMenu
  | _ => none

inductive Middleware
  | authenticate
  | hasRole (role : String)
  deriving DecidableEq, Repr

structure Route where
  method : String
  pattern : String
  endpoint : Endpoint
  middleware : List Middleware
  deriving DecidableEq, Repr

def api : List Route :=
  [⟨"GET", "/v1/health", .health, []⟩,
   ⟨"GET", "/v1/users", .userList, [.authenticate, .hasRole roleAdmin]⟩,
   ⟨"POST", "/v1/users", .userCreate, [.authenticate, .hasRole roleAdmin]⟩,
   ⟨"GET", "/v1/users/token", .userToken, []⟩,
   ⟨"GET", "/v1/restaurant", .restaurantList, [.authenticate]⟩,
   ⟨"POST", "/v1/restaurant", .restaurantCreate, [.authenticate]⟩,
   ⟨"GET", "/v1/restaurant/:id", .restaurantRetrieve, [.authenticate]⟩,
   ⟨"PUT", "/v1/restaurant/:id", .restaurantUpdate, [.authenticate]⟩,
   ⟨"DELETE", "/v1/restaurant/:id", .restaurantDelete, [.authenticate]⟩,
   ⟨"GET", "/v1/restaurant/:restaurantId/menu", .retrieveMenu, [.authenticate]⟩,
   ⟨"GET", "/v1/restaurant/:restaurantId/votes", .retrieveVotes, [.authenticate]⟩,
   ⟨"POST", "/v1/restaurant/:restaurantId/menu", .createMenu, [.authenticate, .hasRole roleAdmin]⟩]

def segments (path : String) : List String := (path.data.splitOn '/').map String.mk

/-- Modelled from the spec: a pattern's segments are literals or named parameters (`:name`);
a path matches when it has as many segments and every literal is equal. -/
def matchSegments : List String → List String → Option (List (String × String))
  | [], [] => some []
  | p :: ps, s :: ss =>
    match p.data with
    | ':' :: name => ((String.mk name, s) :: ·) <$> matchSegments ps ss
    | _ => if p = s then matchSegments ps ss else none
  | _, _ => none

structure HttpRequest where
  method : String
  path : String
  bearer : Option Claims
  body : Body
  now : Nat
  uuid : String

def dispatch (routes : List Route) (http : HttpRequest) : Option (Route × List (String × String)) :=
  routes.findSome? fun r =>
    if r.method = http.method then
      (matchSegments (segments r.pattern) (segments http.path)).map (r, ·)
    else none

theorem dispatch_mem {routes : List Route} {http : HttpRequest} {route : Route}
    {params : List (String × String)} (found : dispatch routes http = some (route, params)) :
    route ∈ routes := by
  obtain ⟨r, member, picked⟩ := List.exists_of_findSome?_eq_some found
  split at picked
  · obtain ⟨_, -, ⟨⟩⟩ := Option.map_eq_some'.mp picked
    exact member
  · cases picked

def Middleware.wrap : Middleware → Handler → Handler
  | .authenticate, before => fun req =>
    match req.bearer with
    | none => throw (.denied 401)
    | some claims => before { req with claims := some claims }
  | .hasRole role, before => fun req => do
    let claims ← Handlers.need req.claims "claims missing from context"
    if !claims.hasRole role then throw (.denied 403)
    before req

def logger (before : Handler) : Handler := fun req => do
  let _ ← Handlers.need req.now "web value missing from context"
  before req

/-- The route's middleware around the handler, the first outermost, and Logger around all.
mid.Errors turns an error into its answer (`WebError.status`); mid.Metrics and mid.Panics
change no outcome of a handler that returns. -/
def Route.wrap (route : Route) (h : Handler) : Handler :=
  logger (route.middleware.foldr Middleware.wrap h)

def HttpRequest.toRequest (http : HttpRequest) (params : List (String × String)) : Request :=
  { claims := none, now := some http.now, params, body := http.body, uuid := http.uuid,
    bearer := http.bearer }

def serve (http : HttpRequest) : Option (Web Reply) := do
  let (route, params) ← dispatch api http
  let h ← route.endpoint.handler
  pure (route.wrap h (http.toRequest params))

/-- Modelled from the spec: the status mid.Errors answers for an error. A request error
answers its own status, a failed decode is a validation error, and an unclassified error is
an internal error. -/
def WebError.status : WebError → Nat
  | .request _ status => status
  | .denied status => status
  | .decode _ _ => 400
  | .shutdown _ => 500
  | .bare _ => 500
  | .wrapped _ _ => 500

end RestaurantApi
