import RestaurantApi.Errors

/-! The shutdown select at the end of main.run.

run registers the channel `shutdown` with signal.Notify for os.Interrupt and SIGTERM and hands
it to handlers.API; ListenAndServe runs on a goroutine that sends its error on `serverErrors`.
The select takes the first value either channel delivers. A server error ends run at once. A
signal starts Shutdown under cfg.Web.ShutdownTimeout, falls back to Close when Shutdown does not
complete, and ends run with the integrity error for SIGSTOP, else with the error of the stop.

Modelled from the spec, since package web and net/http are not in the sources: web.App sends
SIGSTOP on `shutdown` when a handler chain fails with a shutdown error; Shutdown closes the
listener and waits for the open requests until its context expires; Close closes what is left. -/

namespace RestaurantApi

structure Signal where
  number : Nat
  deriving DecidableEq, Repr

def sigint : Signal := ⟨2⟩

def sigterm : Signal := ⟨15⟩

def sigstop : Signal := ⟨19⟩

def notified : List Signal := [sigint, sigterm]

def wrap (err : Option String) (message : String) : Option String := err.map (message ++ ": " ++ ·)

structure Server where
  listening : Bool
  inFlight : List Nat
  deriving DecidableEq, Repr

/-- Server.Shutdown under a context that expires after `timeout`: the listener closes, the
requests that finish in time complete, and at the deadline Shutdown returns the context's error
with the others still open. The last component is how long it waited. -/
def Server.shutdown (api : Server) (timeout : Nat) : Option String × Server × Nat :=
  let late := api.inFlight.filter (timeout < ·)
  if late = [] then (none, ⟨false, []⟩, api.inFlight.foldr max 0)
  else (some "context deadline exceeded", ⟨false, late⟩, timeout)

def Server.close (_api : Server) : Server := ⟨false, []⟩

inductive Delivery
  | serverError (err : String)
  | signal (sig : Signal)
  deriving DecidableEq, Repr

/-- What run's select ends with: run's error, the server, the requests Close cut (by the time
each needed), and how long the select waited for Shutdown. -/
structure Stopped where
  err : Option String
  api : Server
  cut : List Nat
  waited : Nat
  deriving DecidableEq, Repr

/-- The select of run on the value it receives, with `closed` what api.Close returns; the error
ListenAndServe sends is never nil. -/
def runSelect (timeout : Nat) (closed : Option String) (api : Server) : Delivery → Stopped
  | .serverError err => ⟨wrap (some err) "server error", api, [], 0⟩
  | .signal sig =>
    let (err, stopping, waited) := api.shutdown timeout
    let (err, after, cut) := match err with
      | some _ => (closed, stopping.close, stopping.inFlight)
      | none => (none, stopping, [])
    ⟨if sig = sigstop then some "integrity issue caused shutdown"
      else wrap err "could not stop server gracefully", after, cut, waited⟩

example : runSelect 5 none ⟨true, [3, 8]⟩ (.signal sigterm) = ⟨none, ⟨false, []⟩, [8], 5⟩ := by
  decide

theorem runSelect_signal (timeout : Nat) (closed : Option String) (api : Server) (sig : Signal) :
    runSelect timeout closed api (.signal sig) =
      if api.inFlight.filter (timeout < ·) = [] then
        ⟨if sig = sigstop then some "integrity issue caused shutdown" else none, ⟨false, []⟩, [],
          api.inFlight.foldr max 0⟩
      else
        ⟨if sig = sigstop then some "integrity issue caused shutdown"
          else wrap closed "could not stop server gracefully", ⟨false, []⟩,
          api.inFlight.filter (timeout < ·), timeout⟩ := by
  by_cases late : api.inFlight.filter (timeout < ·) = [] <;>
    simp only [runSelect, Server.shutdown, Server.close, late, if_true, if_false, wrap,
      Option.map_none']

theorem prefix_ne_integrity (message : String) {c : Char} (first : message.data.head? = some c)
    (other : c ≠ 'i') (e : String) : message ++ e ≠ "integrity issue caused shutdown" := fun same => by
  have heads := congrArg (fun s : String => s.data.head?) same
  cases data : message.data with
  | nil => simp [data] at first
  | cons c' cs =>
    simp only [data, List.head?_cons, Option.some.injEq] at first
    simp only [String.data_append, data, List.cons_append, List.head?_cons] at heads
    exact other (first ▸ Option.some.inj heads)

theorem integrity_iff_sigstop (timeout : Nat) (closed : Option String) (api : Server)
    (d : Delivery) :
    (runSelect timeout closed api d).err = some "integrity issue caused shutdown" ↔
      d = .signal sigstop := by
  cases d with
  | serverError err =>
    simp only [runSelect, wrap, Option.map_some', Option.some.injEq, reduceCtorEq, iff_false]
    exact prefix_ne_integrity "server error: " rfl (by decide) err
  | signal sig =>
    have graceful (e : String) : "could not stop server gracefully: " ++ e ≠
        "integrity issue caused shutdown" :=
      prefix_ne_integrity "could not stop server gracefully: " rfl (by decide) e
    rw [runSelect_signal]
    by_cases stop : sig = sigstop
    · subst stop
      split <;> simp
    · split <;> cases closed <;> simp [stop, wrap, graceful]

def WebError.isShutdown : WebError → Bool
  | .shutdown _ => true
  | _ => false

/-- Modelled from the spec: what reaches `shutdown` while requests with the outcomes `outcomes`
are served. signal.Notify relays the signals it was registered for, and the app sends SIGSTOP
once a request fails with a shutdown error. -/
inductive Sends (outcomes : List (Except WebError Reply)) : Signal → Prop
  | notify {sig : Signal} : sig ∈ notified → Sends outcomes sig
  | app {message : String} : .error (.shutdown message) ∈ outcomes → Sends outcomes sigstop

/-- The handler fails with a shutdown error only on a request without claims or web values. -/
def Handler.Stamped (h : Handler) : Prop :=
  ∀ req : Request, req.claims.isSome → req.now.isSome → Fails (·.isShutdown = false) (h req)

namespace Handlers

section Stamped

variable {α : Type} {P : WebError → Prop}

theorem need_fails {x : Option α} (given : x.isSome) (message : String) : Fails P (need x message) := by
  obtain ⟨a, rfl⟩ := Option.isSome_iff_exists.mp given
  exact fails_pure a

theorem decode_not_shutdown (x : Except String α) (context : String) :
    Fails (·.isShutdown = false) (decode x context) := by
  cases x
  · exact fails_throw rfl
  · exact fails_pure _

theorem requestError_not_shutdown (cases : List (StoreError × Nat)) (context : String)
    (e : StoreError) : (requestError cases context e).isShutdown = false := by
  unfold requestError
  split <;> rfl

theorem restaurantList_stamped : Handler.Stamped restaurantList := fun _ _ _ =>
  .bind (fails_adapt fun _ => rfl) fun _ => fails_pure _

theorem restaurantRetrieve_stamped : Handler.Stamped restaurantRetrieve := fun _ _ _ =>
  .bind (fails_adapt (requestError_not_shutdown _ _)) fun _ => fails_pure _

theorem restaurantCreate_stamped : Handler.Stamped restaurantCreate := fun _ signed stamped =>
  .bind (need_fails signed _) fun _ => .bind (need_fails stamped _) fun _ =>
    .bind (decode_not_shutdown _ _) fun _ =>
      .bind (fails_adapt (requestError_not_shutdown _ _)) fun _ => fails_pure _

theorem restaurantUpdate_stamped : Handler.Stamped restaurantUpdate := fun _ signed stamped =>
  .bind (need_fails signed _) fun _ => .bind (need_fails stamped _) fun _ =>
    .bind (decode_not_shutdown _ _) fun _ =>
      .bind (fails_adapt (requestError_not_shutdown _ _)) fun _ => fails_pure _

theorem restaurantDelete_stamped : Handler.Stamped restaurantDelete := fun _ _ _ =>
  .bind (fails_adapt (requestError_not_shutdown _ _)) fun _ => fails_pure _

theorem retrieveMenu_stamped : Handler.Stamped retrieveMenu := fun _ _ _ =>
  .bind (fails_adapt (requestError_not_shutdown _ _)) fun _ => fails_pure _

theorem createMenu_stamped : Handler.Stamped createMenu := fun _ signed stamped =>
  .bind (need_fails signed _) fun _ => .bind (need_fails stamped _) fun _ =>
    .bind (decode_not_shutdown _ _) fun _ => .guard _ (by rfl) fun _ =>
      .bind (fails_adapt (requestError_not_shutdown _ _)) fun _ => .guard _ (by rfl) fun _ =>
        .bind (fails_adapt (requestError_not_shutdown _ _)) fun _ => fails_pure _

end Stamped

end Handlers

theorem Handler.Stamped.route {h : Handler} (stamped : h.Stamped) {route : Route}
    (guarded : route.middleware = [.authenticate] ∨ ∃ role, route.middleware = [.authenticate, .hasRole role])
    (http : HttpRequest) (params : List (String × String)) :
    Fails (·.isShutdown = false) (route.wrap h (http.toRequest params)) := by
  have inner : ∀ h : Handler, h.Stamped →
      Fails (·.isShutdown = false) (Middleware.authenticate.wrap h (http.toRequest params)) := by
    intro h stamped
    simp only [Middleware.wrap]
    split
    · exact fails_throw rfl
    · exact stamped _ rfl rfl
  refine .bind (Handlers.need_fails (by rfl) _) fun _ => ?_
  rcases guarded with only | ⟨role, only⟩ <;> simp only [only, List.foldr]
  · exact inner h stamped
  · exact inner _ fun req signed _ =>
      .bind (Handlers.need_fails signed _) fun _ => .guard _ (by rfl) fun _ => stamped req signed ‹_›

theorem serve_not_shutdown {http : HttpRequest} {m : Web Reply} (served : serve http = some m) :
    Fails (·.isShutdown = false) m := by
  simp only [serve, Option.bind_eq_bind, Option.bind_eq_some, Option.some.injEq] at served
  obtain ⟨⟨route, params⟩, found, h, handled, served⟩ := served
  obtain rfl : route.wrap h (http.toRequest params) = m := Option.some.inj served
  have listed := dispatch_mem found
  simp only [api, List.mem_cons, List.mem_singleton, List.not_mem_nil, or_false] at listed
  rcases listed with rfl | rfl | rfl | rfl | rfl | rfl | rfl | rfl | rfl | rfl | rfl | rfl <;>
    simp only [Endpoint.handler, reduceCtorEq, Option.some.injEq] at handled <;> subst handled
  exacts [Handlers.restaurantList_stamped.route (.inl rfl) http params,
    Handlers.restaurantCreate_stamped.route (.inl rfl) http params,
    Handlers.restaurantRetrieve_stamped.route (.inl rfl) http params,
    Handlers.restaurantUpdate_stamped.route (.inl rfl) http params,
    Handlers.restaurantDelete_stamped.route (.inl rfl) http params,
    Handlers.retrieveMenu_stamped.route (.inl rfl) http params,
    Handlers.retrieveMenu_stamped.route (.inl rfl) http params,
    Handlers.createMenu_stamped.route (.inr ⟨_, rfl⟩) http params]

theorem served_requests_never_signal_integrity {outcomes : List (Except WebError Reply)}
    (served : ∀ o ∈ outcomes, ∃ http m db, serve http = some m ∧ (exec m db).1 = o)
    {sig : Signal} (sent : Sends outcomes sig) (timeout : Nat) (closed : Option String)
    (api : Server) :
    (∀ o ∈ outcomes, ∀ message, o ≠ .error (.shutdown message)) ∧ sig ∈ notified ∧
      (runSelect timeout closed api (.signal sig)).err ≠ some "integrity issue caused shutdown" := by
  have never : ∀ o ∈ outcomes, ∀ message, o ≠ .error (.shutdown message) := by
    rintro o member message rfl
    obtain ⟨http, m, db, handled, run⟩ := served _ member
    cases serve_not_shutdown handled db _ _ (Prod.ext run rfl)
  have relayed : sig ∈ notified := by
    cases sent with
    | notify member => exact member
    | app failed => exact absurd rfl (never _ failed _)
  refine ⟨never, relayed, fun integrity => ?_⟩
  have stop := (integrity_iff_sigstop timeout closed api _).mp integrity
  simp only [notified, Delivery.signal.injEq] at relayed stop
  subst stop
  revert relayed
  decide

theorem served_requests_never_signal_integrity_after_put :
    let http : HttpRequest := ⟨"PUT", "/v1/restaurant/a224a8d6-3f9e-4b11-9900-e81a25d80702",
      some ⟨"alice", ["USER"]⟩, ⟨.error "", .ok ⟨some "Luigi", none⟩, .error "", .error ""⟩, 5, ""⟩
    ∃ m, serve http = some m ∧ Sends [(exec m ⟨[], []⟩).1] sigterm ∧
      (∀ o ∈ [(exec m ⟨[], []⟩).1], ∀ message, o ≠ .error (.shutdown message)) ∧
      sigterm ∈ notified ∧
      (runSelect 5 none ⟨true, [8]⟩ (.signal sigterm)).err ≠ some "integrity issue caused shutdown" := by
  intro http
  obtain ⟨m, served⟩ : ∃ m, serve http = some m := ⟨_, rfl⟩
  have sent : Sends [(exec m ⟨[], []⟩).1] sigterm := .notify (by decide)
  exact ⟨m, served, sent, @served_requests_never_signal_integrity _
    (fun _ member => ⟨http, m, ⟨[], []⟩, served, (List.mem_singleton.mp member).symm⟩) sigterm sent 5
    none ⟨true, [8]⟩⟩

end RestaurantApi
