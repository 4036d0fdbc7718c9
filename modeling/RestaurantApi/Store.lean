import RestaurantApi.Exec

/-! The functions of package restaurant over the two tables, and what each call does.

The functions of restaurant.go come first, then the menu functions. Each has one equation: its
result and the tables after it, read off the database. -/

namespace RestaurantApi

abbrev Store := DbM StoreError

def list : Store (List Restaurant) := do
  let db ← get
  pure db.restaurants

/-- Create, given the id `uuid.New().String()` returned. -/
def create (user : Claims) (nr : NewRestaurant) (now : Nat) (newId : String) : Store Restaurant := do
  let r : Restaurant :=
    { id := newId, name := nr.name, address := nr.address, ownerUserId := user.subject,
      dateCreated := now, dateUpdated := now }
  modify (·.insertRestaurant r)
  pure r

def retrieve (id : String) : Store Restaurant := do
  if !uuidParse id then throw .invalidID
  let db ← get
  match db.restaurantRow id with
  | none => throw .notFound
  | some r => pure r

/-- Update up to its UPDATE statement: Retrieve, the access check, and the row it writes. -/
def updateMerge (user : Claims) (id : String) (update : UpdateRestaurant) (now : Nat) :
    Store Restaurant := do
  let r ← retrieve id
  if !user.hasRole roleAdmin && r.ownerUserId != user.subject then throw .forbidden
  pure { r with
    name := update.name.getD r.name
    address := update.address.getD r.address
    dateUpdated := now }

def update (user : Claims) (id : String) (update : UpdateRestaurant) (now : Nat) : Store Unit := do
  let r ← updateMerge user id update now
  modify (·.updateRestaurant id r.name r.address r.dateUpdated)

def delete (id : String) : Store Unit := do
  if !uuidParse id then throw .invalidID
  modify (·.deleteRestaurant id)

def createMenu (_user : Claims) (nm : NewMenu) (now : Nat) (newId : String) : Store Menu := do
  let m : Menu := { id := newId, restaurantId := nm.restaurantId, date := now, menu := nm.menu, votes := 0 }
  modify (·.insertMenu m)
  pure m

def menuRetrieve (id : String) : Store Menu := do
  if !uuidParse id then throw .invalidID
  let db ← get
  match db.menuRow id with
  | none => throw .notFound
  | some m => pure m

def menuMerge (m : Menu) (update : UpdateMenu) : Menu :=
  if update.menu != "" then { m with menu := update.menu, date := update.date } else m

def menuUpdateMerge (user : Claims) (restaurantId : String) (update : UpdateMenu) :
    Store Menu := do
  let r ← retrieve restaurantId
  if r.ownerUserId != user.subject then throw .forbidden
  let m ← menuRetrieve update.id
  pure (menuMerge m update)

/-- The statement's arguments are the request's fields, not the merged menu. -/
def menuUpdate (user : Claims) (restaurantId : String) (update : UpdateMenu) (_now : Nat) :
    Store Unit := do
  let _m ← menuUpdateMerge user restaurantId update
  modify (·.updateMenu update.id update.menu update.date)

def Db.lookup (db : Db) (id : String) : Except StoreError Restaurant :=
  if uuidParse id then
    match db.restaurantRow id with
    | none => .error .notFound
    | some r => .ok r
  else .error .invalidID

def Db.lookupMenu (db : Db) (id : String) : Except StoreError Menu :=
  if uuidParse id then
    match db.menuRow id with
    | none => .error .notFound
    | some m => .ok m
  else .error .invalidID

def Claims.mayChange (user : Claims) (owner : String) : Bool :=
  user.hasRole roleAdmin || owner == user.subject

def Restaurant.merge (r : Restaurant) (update : UpdateRestaurant) (now : Nat) : Restaurant :=
  { r with
    name := update.name.getD r.name
    address := update.address.getD r.address
    dateUpdated := now }

@[simp] theorem deny_eq_not_mayChange (user : Claims) (owner : String) :
    (!user.hasRole roleAdmin && owner != user.subject) = !user.mayChange owner := by
  simp [Claims.mayChange, bne, Bool.not_or]

variable (db : Db)

theorem lookup_ok {db : Db} {id : String} {r : Restaurant} :
    db.lookup id = .ok r ↔ uuidParse id = true ∧ db.restaurantRow id = some r := by
  unfold Db.lookup
  split <;> [skip; simp_all]
  split <;> simp_all

theorem lookupMenu_ok {db : Db} {id : String} {m : Menu} :
    db.lookupMenu id = .ok m ↔ uuidParse id = true ∧ db.menuRow id = some m := by
  unfold Db.lookupMenu
  split <;> [skip; simp_all]
  split <;> simp_all

theorem lookup_updateRestaurant_self (id name address : String) (t : Nat) :
    (db.updateRestaurant id name address t).lookup id =
      (db.lookup id).map fun r => { r with name, address, dateUpdated := t } := by
  unfold Db.lookup
  rw [restaurantRow_updateRestaurant]
  split
  · cases db.restaurantRow id <;> simp [Except.map]
  · rfl

theorem lookup_updateRestaurant_of_lookup {db : Db} {id : String} {r : Restaurant}
    (looked : db.lookup id = .ok r) (name address : String) (t : Nat) :
    (db.updateRestaurant id name address t).lookup id = .ok { r with name, address, dateUpdated := t } := by
  rw [lookup_updateRestaurant_self, looked]
  rfl

theorem list_exec : exec list db = (.ok db.restaurants, db) := rfl

theorem create_exec (user : Claims) (nr : NewRestaurant) (now : Nat) (newId : String) :
    exec (create user nr now newId) db =
      let r : Restaurant := ⟨newId, nr.name, nr.address, user.subject, now, now⟩
      (.ok r, db.insertRestaurant r) := rfl

theorem retrieve_exec (id : String) : exec (retrieve id) db = (db.lookup id, db) := by
  unfold retrieve Db.lookup
  cases h : uuidParse id <;> simp [h]
  cases db.restaurantRow id <;> rfl

theorem updateMerge_exec (user : Claims) (id : String) (up : UpdateRestaurant) (now : Nat) :
    exec (updateMerge user id up now) db =
      match db.lookup id with
      | .error e => (.error e, db)
      | .ok r => (if user.mayChange r.ownerUserId then .ok (r.merge up now) else .error .forbidden, db) := by
  simp only [updateMerge, exec_bind, retrieve_exec]
  rcases db.lookup id with e | r
  · rfl
  · cases h : user.mayChange r.ownerUserId <;> simp [h, Restaurant.merge]

theorem updateMerge_ok {user : Claims} {id : String} {up : UpdateRestaurant} {now : Nat}
    {r : Restaurant} {db' : Db} :
    exec (updateMerge user id up now) db = (.ok r, db') ↔
      ∃ r₀, db.lookup id = .ok r₀ ∧ user.mayChange r₀.ownerUserId = true ∧
        r₀.merge up now = r ∧ db = db' := by
  rw [updateMerge_exec]
  cases looked : db.lookup id with
  | error e => simp
  | ok r₀ => by_cases may : user.mayChange r₀.ownerUserId <;> simp [may]

theorem update_exec (user : Claims) (id : String) (up : UpdateRestaurant) (now : Nat) :
    exec (update user id up now) db =
      match db.lookup id with
      | .error e => (.error e, db)
      | .ok r =>
        if user.mayChange r.ownerUserId then
          (.ok (), db.updateRestaurant id (up.name.getD r.name) (up.address.getD r.address) now)
        else (.error .forbidden, db) := by
  simp only [update, exec_bind, updateMerge_exec]
  rcases db.lookup id with e | r
  · rfl
  · by_cases h : user.mayChange r.ownerUserId <;> simp [h, Restaurant.merge]

theorem delete_exec (id : String) :
    exec (delete id) db =
      if uuidParse id then (.ok (), db.deleteRestaurant id) else (.error .invalidID, db) := by
  unfold delete
  cases uuidParse id <;> rfl

theorem createMenu_exec (user : Claims) (nm : NewMenu) (now : Nat) (newId : String) :
    exec (createMenu user nm now newId) db =
      let m : Menu := ⟨newId, nm.restaurantId, now, nm.menu, 0⟩
      (.ok m, db.insertMenu m) := rfl

theorem menuRetrieve_exec (id : String) : exec (menuRetrieve id) db = (db.lookupMenu id, db) := by
  unfold menuRetrieve Db.lookupMenu
  cases h : uuidParse id <;> simp [h]
  cases db.menuRow id <;> rfl

theorem menuUpdateMerge_exec (user : Claims) (restaurantId : String) (u : UpdateMenu) :
    exec (menuUpdateMerge user restaurantId u) db =
      (match db.lookup restaurantId with
      | .error e => .error e
      | .ok r =>
        if r.ownerUserId = user.subject then (menuMerge · u) <$> db.lookupMenu u.id
        else .error .forbidden, db) := by
  simp only [menuUpdateMerge, exec_bind, retrieve_exec]
  rcases db.lookup restaurantId with e | r
  · rfl
  · by_cases h : r.ownerUserId = user.subject <;> simp [h, menuRetrieve_exec]
    rcases db.lookupMenu u.id <;> rfl

theorem menuUpdate_exec (user : Claims) (restaurantId : String) (u : UpdateMenu) (now : Nat) :
    exec (menuUpdate user restaurantId u now) db =
      match (exec (menuUpdateMerge user restaurantId u) db).1 with
      | .error e => (.error e, db)
      | .ok _ => (.ok (), db.updateMenu u.id u.menu u.date) := by
  have keeps : (exec (menuUpdateMerge user restaurantId u) db).2 = db := by
    rw [menuUpdateMerge_exec]
  simp only [menuUpdate, exec_bind]
  rcases h : exec (menuUpdateMerge user restaurantId u) db with ⟨_ | _, db'⟩ <;>
    rw [h] at keeps <;> subst keeps <;> rfl

theorem updateMerge_readOnly (user : Claims) (id : String) (up : UpdateRestaurant) (now : Nat) :
    ReadOnly (updateMerge user id up now) := fun db => by
  rw [updateMerge_exec]
  split <;> rfl

theorem retrieve_readOnly (id : String) : ReadOnly (retrieve id) := fun db => by
  rw [retrieve_exec]

theorem menuRetrieve_readOnly (id : String) : ReadOnly (menuRetrieve id) := fun db => by
  rw [menuRetrieve_exec]

theorem list_readOnly : ReadOnly list := fun _ => rfl

theorem list_total : Total list := fun _ => ⟨_, rfl⟩

theorem create_total (user : Claims) (nr : NewRestaurant) (now : Nat) (newId : String) :
    Total (create user nr now newId) := fun _ => ⟨_, rfl⟩

theorem createMenu_total (user : Claims) (nm : NewMenu) (now : Nat) (newId : String) :
    Total (createMenu user nm now newId) := fun _ => ⟨_, rfl⟩

theorem update_atomic (user : Claims) (id : String) (up : UpdateRestaurant) (now : Nat) :
    Atomic (update user id up now) := by
  intro db e db' run
  rw [update_exec] at run
  split at run <;> [skip; split at run] <;> cases run <;> rfl

theorem delete_atomic (id : String) : Atomic (delete id) := by
  intro db e db' run
  rw [delete_exec] at run
  split at run <;> cases run
  rfl

theorem menuUpdate_atomic (user : Claims) (restaurantId : String) (u : UpdateMenu) (now : Nat) :
    Atomic (menuUpdate user restaurantId u now) := by
  intro db e db' run
  rw [menuUpdate_exec] at run
  split at run <;> cases run
  rfl

theorem lookup_fails {db : Db} {id : String} {e : StoreError} (h : db.lookup id = .error e) :
    e = .invalidID ∨ e = .notFound := by
  unfold Db.lookup at h
  split at h <;> [split at h; skip] <;> cases h <;> simp

theorem lookupMenu_fails {db : Db} {id : String} {e : StoreError} (h : db.lookupMenu id = .error e) :
    e = .invalidID ∨ e = .notFound := by
  unfold Db.lookupMenu at h
  split at h <;> [split at h; skip] <;> cases h <;> simp

theorem retrieve_fails (id : String) :
    Fails (fun e => e = .invalidID ∨ e = .notFound) (retrieve id) := by
  intro db e db' run
  rw [retrieve_exec, Prod.mk.injEq] at run
  exact lookup_fails run.1

theorem menuRetrieve_fails (id : String) :
    Fails (fun e => e = .invalidID ∨ e = .notFound) (menuRetrieve id) := by
  intro db e db' run
  rw [menuRetrieve_exec, Prod.mk.injEq] at run
  exact lookupMenu_fails run.1

theorem delete_fails (id : String) : Fails (· = .invalidID) (delete id) := by
  intro db e db' run
  rw [delete_exec] at run
  split at run <;> cases run
  rfl

end RestaurantApi
