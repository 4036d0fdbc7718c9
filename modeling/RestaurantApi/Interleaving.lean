import RestaurantApi.Handlers

/-! Concurrent requests against one database.

Each request runs on its own goroutine, with no lock and no transaction: each Retrieve and
each SQL statement is one atomic step on the shared tables, and the steps of different requests
interleave in any order. A call in flight is the request and the step it takes next. -/

namespace RestaurantApi

/-- A store call in flight, named by the step it takes next. Create, with the id `uuid.New()`
drew, next runs its INSERT; Update its Retrieve, check and merge, then (`updateWrite`) its UPDATE
with the merged row; the CreateMenu handler past its decode its id check and Retrieve, then its
INSERT; MenuUpdate its Retrieve and owner check, then MenuRetrieve, then its UPDATE. -/
inductive Call
  | create (user : Claims) (nr : NewRestaurant) (now : Nat) (newId : String)
  | update (user : Claims) (id : String) (up : UpdateRestaurant) (now : Nat)
  | updateWrite (user : Claims) (id : String) (r : Restaurant)
  | delete (id : String)
  | createMenu (user : Claims) (restaurantId : String) (nm : NewMenu) (now : Nat) (newId : String)
  | createMenuInsert (user : Claims) (nm : NewMenu) (now : Nat) (newId : String)
  | menuUpdate (user : Claims) (restaurantId : String) (u : UpdateMenu) (now : Nat)
  | menuUpdateRead (u : UpdateMenu)
  | menuUpdateWrite (u : UpdateMenu)
  | done (result : Except StoreError Unit)

def Call.after {α : Type} (r : Except StoreError α × Db) (next : α → Call) : Call × Db :=
  match r with
  | (.ok a, db) => (next a, db)
  | (.error e, db) => (.done (.error e), db)

def Call.step : Call → Db → Option (Call × Db)
  | .create user nr now newId, db =>
    some (Call.after (exec (RestaurantApi.create user nr now newId) db) fun _ => .done (.ok ()))
  | .update user id up now, db =>
    some (Call.after (exec (RestaurantApi.updateMerge user id up now) db) (.updateWrite user id))
  | .updateWrite _ id r, db =>
    some (.done (.ok ()), db.updateRestaurant id r.name r.address r.dateUpdated)
  | .delete id, db => some (Call.after (exec (RestaurantApi.delete id) db) fun _ => .done (.ok ()))
  | .createMenu user restaurantId nm now newId, db =>
    if nm.restaurantId != restaurantId then some (.done (.error .invalidID), db)
    else some (Call.after (exec (retrieve restaurantId) db) fun r =>
      if r.ownerUserId != user.subject then .done (.error .forbidden)
      else .createMenuInsert user nm now newId)
  | .createMenuInsert user nm now newId, db =>
    some (Call.after (exec (RestaurantApi.createMenu user nm now newId) db) fun _ => .done (.ok ()))
  | .menuUpdate user restaurantId u _, db =>
    some (Call.after (exec (retrieve restaurantId) db) fun r =>
      if r.ownerUserId != user.subject then .done (.error .forbidden) else .menuUpdateRead u)
  | .menuUpdateRead u, db => some (Call.after (exec (menuRetrieve u.id) db) fun _ => .menuUpdateWrite u)
  | .menuUpdateWrite u, db => some (.done (.ok ()), db.updateMenu u.id u.menu u.date)
  | .done _, _ => none

def Call.draws : Call → Option String
  | .create _ _ _ newId => some newId
  | .createMenuInsert _ _ _ newId => some newId
  | _ => none

def Call.isStart : Call → Bool
  | .create .. | .update .. | .delete _ | .createMenu .. | .menuUpdate .. => true
  | _ => false

structure Config where
  db : Db
  calls : List Call
  used : List String

/-- Call `i` takes its next step; a step that would draw an id drawn before is not one `uuid.New`
takes. -/
def Config.step (c : Config) (i : Nat) : Option Config :=
  match c.calls[i]? with
  | none => none
  | some call =>
    if call.draws.any c.used.contains then none
    else (call.step c.db).map fun (next, db) => ⟨db, c.calls.set i next, call.draws.toList ++ c.used⟩

def Config.run (c : Config) : List Nat → Option Config
  | [] => some c
  | i :: is => (c.step i).bind (·.run is)

theorem Call.after_eq {α : Type} {r : Except StoreError α × Db} {k : α → Call} {next : Call} {db : Db}
    (h : Call.after r k = (next, db)) :
    (∃ a, r = (.ok a, db) ∧ next = k a) ∨ (∃ e, r = (.error e, db) ∧ next = .done (.error e)) := by
  rcases r with ⟨_ | a, _⟩ <;> simp only [Call.after, Prod.mk.injEq] at h <;> obtain ⟨rfl, rfl⟩ := h
  · exact .inr ⟨_, rfl, rfl⟩
  · exact .inl ⟨_, rfl, rfl⟩

theorem Call.after_readOnly {α : Type} {m : Store α} (hm : ReadOnly m) {db db' : Db} {k : α → Call}
    {next : Call} (h : Call.after (exec m db) k = (next, db')) :
    db' = db ∧ ((∃ e, next = .done e) ∨ ∃ a, next = k a) := by
  have keep := hm db
  rcases Call.after_eq h with ⟨a, run, rfl⟩ | ⟨e, run, rfl⟩ <;> rw [run] at keep
  · exact ⟨keep, .inr ⟨a, rfl⟩⟩
  · exact ⟨keep, .inl ⟨_, rfl⟩⟩

theorem Call.step_owners {call next : Call} {db db' : Db} (h : call.step db = some (next, db')) :
    (db'.owners = db.owners ∧ ∀ user id r, next ≠ .updateWrite user id r) ∨
    (∃ user id up now r₀, call = .update user id up now ∧ db.lookup id = .ok r₀ ∧
      user.mayChange r₀.ownerUserId = true ∧ next = .updateWrite user id (r₀.merge up now) ∧
      db' = db) ∨
    (∃ newId subject, call.draws = some newId ∧ db'.owners = db.owners ++ [(newId, subject)] ∧
      next = .done (.ok ())) ∨
    (∃ id, db'.owners = db.owners.filter (·.1 != id) ∧ next = .done (.ok ())) := by
  have reads : ∀ {α : Type} {m : Store α} {k : α → Call}, ReadOnly m →
      (∀ a user id r, k a ≠ .updateWrite user id r) → Call.after (exec m db) k = (next, db') →
      db'.owners = db.owners ∧ ∀ user id r, next ≠ .updateWrite user id r := by
    intro α m k hm hk run
    obtain ⟨rfl, (⟨e, rfl⟩ | ⟨a, rfl⟩)⟩ := Call.after_readOnly hm run
    · exact ⟨rfl, fun _ _ _ => Call.noConfusion⟩
    · exact ⟨rfl, hk a⟩
  cases call with
  | create user nr now newId =>
    simp only [Call.step, create_exec, Call.after, Option.some.injEq, Prod.mk.injEq] at h
    obtain ⟨rfl, rfl⟩ := h
    exact .inr (.inr (.inl ⟨newId, user.subject, rfl, owners_insertRestaurant _ _, rfl⟩))
  | update user id up now =>
    simp only [Call.step, Option.some.injEq] at h
    rcases Call.after_eq h with ⟨r, run, rfl⟩ | ⟨e, run, rfl⟩
    · rw [updateMerge_ok] at run
      obtain ⟨r₀, looked, may, rfl, rfl⟩ := run
      exact .inr (.inl ⟨user, id, up, now, r₀, rfl, looked, may, rfl, rfl⟩)
    · have keep := updateMerge_readOnly user id up now db
      rw [run] at keep
      obtain rfl : db' = db := keep
      exact .inl ⟨rfl, fun _ _ _ => Call.noConfusion⟩
  | updateWrite user id r =>
    simp only [Call.step, Option.some.injEq, Prod.mk.injEq] at h
    obtain ⟨rfl, rfl⟩ := h
    exact .inl ⟨owners_updateRestaurant _ _ _ _ _, fun _ _ _ => Call.noConfusion⟩
  | delete id =>
    simp only [Call.step, Option.some.injEq, delete_exec] at h
    split at h <;> simp only [Call.after, Prod.mk.injEq] at h <;> obtain ⟨rfl, rfl⟩ := h
    · exact .inr (.inr (.inr ⟨id, owners_deleteRestaurant _ _, rfl⟩))
    · exact .inl ⟨rfl, fun _ _ _ => Call.noConfusion⟩
  | createMenu user restaurantId nm now newId =>
    simp only [Call.step] at h
    split at h
    · simp only [Option.some.injEq, Prod.mk.injEq] at h
      obtain ⟨rfl, rfl⟩ := h
      exact .inl ⟨rfl, fun _ _ _ => Call.noConfusion⟩
    · simp only [Option.some.injEq] at h
      exact .inl (reads (retrieve_readOnly _) (fun _ _ _ _ => by split <;> exact Call.noConfusion) h)
  | createMenuInsert user nm now newId =>
    simp only [Call.step, createMenu_exec, Call.after, Option.some.injEq, Prod.mk.injEq] at h
    obtain ⟨rfl, rfl⟩ := h
    exact .inl ⟨owners_insertMenu _ _, fun _ _ _ => Call.noConfusion⟩
  | menuUpdate user restaurantId u now =>
    simp only [Call.step, Option.some.injEq] at h
    exact .inl (reads (retrieve_readOnly _) (fun _ _ _ _ => by split <;> exact Call.noConfusion) h)
  | menuUpdateRead u =>
    simp only [Call.step, Option.some.injEq] at h
    exact .inl (reads (menuRetrieve_readOnly _) (fun _ _ _ _ => Call.noConfusion) h)
  | menuUpdateWrite u =>
    simp only [Call.step, Option.some.injEq, Prod.mk.injEq] at h
    obtain ⟨rfl, rfl⟩ := h
    exact .inl ⟨owners_updateMenu _ _ _ _, fun _ _ _ => Call.noConfusion⟩
  | done result => cases h

theorem Config.step_some {c c' : Config} {i : Nat} (h : c.step i = some c') :
    ∃ call next db, c.calls[i]? = some call ∧ (∀ x, call.draws = some x → x ∉ c.used) ∧
      call.step c.db = some (next, db) ∧ c' = ⟨db, c.calls.set i next, call.draws.toList ++ c.used⟩ := by
  unfold Config.step at h
  split at h
  · cases h
  · rename_i call got
    split at h
    · cases h
    · rename_i fresh
      obtain ⟨⟨next, db⟩, stepped, rfl⟩ := Option.map_eq_some'.mp h
      refine ⟨call, next, db, got, fun x drawn used => fresh ?_, stepped, rfl⟩
      simp [drawn, used]

theorem Config.run_step {c c' : Config} {i : Nat} (h : c.step i = some c') (is : List Nat) :
    c.run (i :: is) = c'.run is := by
  rw [Config.run, h, Option.some_bind]

theorem Config.step_update {c : Config} {i : Nat} {user : Claims} {id : String} {up : UpdateRestaurant}
    {now : Nat} {r : Restaurant} (got : c.calls[i]? = some (.update user id up now))
    (looked : c.db.lookup id = .ok r) (may : user.mayChange r.ownerUserId = true) :
    c.step i = some ⟨c.db, c.calls.set i (.updateWrite user id (r.merge up now)), c.used⟩ := by
  simp [Config.step, got, Call.draws, Call.step, updateMerge_exec, looked, may, Call.after]

theorem Config.step_updateWrite {c : Config} {i : Nat} {user : Claims} {id : String} {r : Restaurant}
    (got : c.calls[i]? = some (.updateWrite user id r)) :
    c.step i = some ⟨c.db.updateRestaurant id r.name r.address r.dateUpdated,
      c.calls.set i (.done (.ok ())), c.used⟩ := by
  simp [Config.step, got, Call.draws, Call.step]

theorem getElem?_set_eq_some {α : Type} {l : List α} {i j : Nat} {a x : α}
    (h : (l.set i a)[j]? = some x) : a = x ∨ l[j]? = some x := by
  rw [List.getElem?_set] at h
  split_ifs at h <;> simp_all

/-- What every reachable configuration keeps: row ids are distinct and were all drawn, and the
pending UPDATE of an Update is for a drawn id whose rows its caller may change. -/
structure Config.Safe (c : Config) : Prop where
  nodup : (c.db.owners.map Prod.fst).Nodup
  known : ∀ p ∈ c.db.owners, p.1 ∈ c.used
  pending : ∀ (i : Nat) (user : Claims) (id : String) (r : Restaurant),
    c.calls[i]? = some (.updateWrite user id r) →
    id ∈ c.used ∧ ∀ p ∈ c.db.owners, p.1 = id → user.mayChange p.2 = true

structure Config.Initial (c : Config) : Prop where
  nodup : (c.db.restaurants.map (·.id)).Nodup
  known : ∀ r ∈ c.db.restaurants, r.id ∈ c.used
  start : ∀ call ∈ c.calls, call.isStart = true

theorem Config.Initial.safe {c : Config} (init : c.Initial) : c.Safe where
  nodup := by simpa [Db.owners] using init.nodup
  known := by simpa [Db.owners] using init.known
  pending := fun _ _ _ _ got => by simpa [Call.isStart] using init.start _ (List.getElem?_mem got)

theorem Config.Safe.step {c c' : Config} {i : Nat} (safe : c.Safe) (h : c.step i = some c') :
    c'.Safe := by
  obtain ⟨call, next, db, -, fresh, stepped, rfl⟩ := Config.step_some h
  have grow : ∀ x ∈ c.used, x ∈ call.draws.toList ++ c.used := fun _ => List.mem_append_right _
  -- a pending UPDATE carries over to tables whose rows are old ones or have an id never drawn
  have carry : (∀ p ∈ db.owners, p ∈ c.db.owners ∨ p.1 ∉ c.used) →
      ∀ (j : Nat) (user : Claims) (id : String) (r : Restaurant),
        c.calls[j]? = some (.updateWrite user id r) →
        id ∈ call.draws.toList ++ c.used ∧ ∀ p ∈ db.owners, p.1 = id → user.mayChange p.2 = true := by
    intro rows j user id r old
    obtain ⟨drawnBefore, may⟩ := safe.pending j user id r old
    refine ⟨grow _ drawnBefore, fun p hp key => ?_⟩
    rcases rows p hp with hp | undrawn
    exacts [may p hp key, absurd (key ▸ drawnBefore) undrawn]
  have finished : next = .done (.ok ()) → ∀ (j : Nat) (user : Claims) (id : String) (r : Restaurant),
      (c.calls.set i next)[j]? = some (.updateWrite user id r) →
        c.calls[j]? = some (.updateWrite user id r) := by
    rintro rfl j user id r got
    exact (getElem?_set_eq_some got).resolve_left Call.noConfusion
  rcases Call.step_owners stepped with ⟨same, other⟩ |
      ⟨user, id, up, now, r₀, rfl, looked, may, rfl, rfl⟩ |
      ⟨newId, subject, drawn, added, done⟩ | ⟨id, kept, done⟩
  · have rows : ∀ p ∈ db.owners, p ∈ c.db.owners ∨ p.1 ∉ c.used := fun p hp => .inl (same ▸ hp)
    refine ⟨same ▸ safe.nodup, fun p hp => grow _ (safe.known p (same ▸ hp)), ?_⟩
    intro j user id r got
    rcases getElem?_set_eq_some got with now | old
    exacts [absurd now (other user id r), carry rows j user id r old]
  · obtain ⟨-, found⟩ := lookup_ok.mp looked
    refine ⟨safe.nodup, fun p hp => grow _ (safe.known p hp), ?_⟩
    intro j user' id' r' got
    rcases getElem?_set_eq_some got with now | old
    · obtain ⟨rfl, rfl, -⟩ : user = user' ∧ id = id' ∧ _ := by simpa using now
      refine ⟨grow _ (safe.known _ (mem_owners_of_restaurantRow found)), fun p hp key => ?_⟩
      rw [owner_of_restaurantRow safe.nodup found hp key]
      exact may
    · exact carry (fun p hp => .inl hp) j user' id' r' old
  · have unused := fresh newId drawn
    have absent : newId ∉ c.db.owners.map Prod.fst := fun mem => by
      obtain ⟨p, hp, key⟩ := List.mem_map.mp mem
      exact unused (key ▸ safe.known p hp)
    have rows : ∀ p ∈ db.owners, p ∈ c.db.owners ∨ p.1 ∉ c.used := by
      rw [added]
      rintro p hp
      rcases List.mem_append.mp hp with hp | hp
      exacts [.inl hp, .inr (List.mem_singleton.mp hp ▸ unused)]
    refine ⟨?_, ?_, fun j user id r got => carry rows j user id r (finished done j user id r got)⟩
    · rw [added, List.map_append]
      exact safe.nodup.append (List.nodup_singleton _) (List.disjoint_singleton.mpr absent)
    · rw [added]
      rintro p hp
      rcases List.mem_append.mp hp with hp | hp
      exacts [grow _ (safe.known p hp), List.mem_append_left _ (by simp [List.mem_singleton.mp hp, drawn])]
  · have rows : ∀ p ∈ db.owners, p ∈ c.db.owners ∨ p.1 ∉ c.used :=
      fun p hp => .inl (List.mem_of_mem_filter (kept ▸ hp))
    refine ⟨?_, fun p hp => grow _ (safe.known p (List.mem_of_mem_filter (kept ▸ hp))),
      fun j user id r got => carry rows j user id r (finished done j user id r got)⟩
    rw [kept]
    exact safe.nodup.sublist ((List.filter_sublist _).map _)

theorem Config.Safe.run {c c' : Config} {is : List Nat} (safe : c.Safe) (h : c.run is = some c') :
    c'.Safe := by
  induction is generalizing c with
  | nil => exact Option.some.inj h ▸ safe
  | cons i is ih =>
    obtain ⟨c₁, stepped, rest⟩ := Option.bind_eq_some.mp h
    exact ih (safe.step stepped) rest

theorem update_write_owner_checked {c₀ c : Config} {is : List Nat} (init : c₀.Initial)
    (run : c₀.run is = some c) {i : Nat} {user : Claims} {id : String} {r : Restaurant}
    (pending : c.calls[i]? = some (.updateWrite user id r)) :
    ∀ row ∈ c.db.restaurants, row.id = id → user.mayChange row.ownerUserId = true := fun _ member key =>
  ((init.safe.run run).pending i user id r pending).2 _ (List.mem_map_of_mem _ member) key

theorem update_write_owner_checked_after_create :
    Config.Initial
      ⟨⟨[⟨"a224a8d6-3f9e-4b11-9900-e81a25d80702", "Trattoria", "Via Roma 1", "alice", 1, 1⟩], []⟩,
        [.update ⟨"alice", ["USER"]⟩ "a224a8d6-3f9e-4b11-9900-e81a25d80702" ⟨some "Luigi", none⟩ 5,
          .create ⟨"bob", ["USER"]⟩ ⟨"Bistro", "Rue Neuve 2"⟩ 6 "9b468f90-1cf1-4377-b3fa-68b450d632a0"],
        ["a224a8d6-3f9e-4b11-9900-e81a25d80702"]⟩ ∧
    Config.run
      ⟨⟨[⟨"a224a8d6-3f9e-4b11-9900-e81a25d80702", "Trattoria", "Via Roma 1", "alice", 1, 1⟩], []⟩,
        [.update ⟨"alice", ["USER"]⟩ "a224a8d6-3f9e-4b11-9900-e81a25d80702" ⟨some "Luigi", none⟩ 5,
          .create ⟨"bob", ["USER"]⟩ ⟨"Bistro", "Rue Neuve 2"⟩ 6 "9b468f90-1cf1-4377-b3fa-68b450d632a0"],
        ["a224a8d6-3f9e-4b11-9900-e81a25d80702"]⟩ [0, 1] =
      some ⟨⟨[⟨"a224a8d6-3f9e-4b11-9900-e81a25d80702", "Trattoria", "Via Roma 1", "alice", 1, 1⟩,
          ⟨"9b468f90-1cf1-4377-b3fa-68b450d632a0", "Bistro", "Rue Neuve 2", "bob", 6, 6⟩], []⟩,
        [.updateWrite ⟨"alice", ["USER"]⟩ "a224a8d6-3f9e-4b11-9900-e81a25d80702"
            ⟨"a224a8d6-3f9e-4b11-9900-e81a25d80702", "Luigi", "Via Roma 1", "alice", 1, 5⟩,
          .done (.ok ())],
        ["9b468f90-1cf1-4377-b3fa-68b450d632a0", "a224a8d6-3f9e-4b11-9900-e81a25d80702"]⟩ ∧
    (⟨"alice", ["USER"]⟩ : Claims).mayChange "alice" = true := by
  refine ⟨?init, ?ran,
    @update_write_owner_checked _ _ _ ?init ?ran 0 _ _ _ rfl _ (List.mem_cons_self _ _) rfl⟩
  · exact ⟨by decide, by decide, by decide⟩
  · rfl

end RestaurantApi
