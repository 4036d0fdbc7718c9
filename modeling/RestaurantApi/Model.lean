import Mathlib.Data.List.Nodup

/-! The data model of package restaurant and the two tables it reads and writes.

Times are instants (`time.Time` up to its location: `now.UTC()` names the same instant).
A table is the list of its rows; the SQL statements of restaurant.go and the menu file
are functions on `Db`, one per statement. -/

namespace RestaurantApi

/-- Modelled from the spec: auth.Claims as the handlers read it, a subject and a role set, with
RoleAdmin and HasRole below. -/
structure Claims where
  subject : String
  roles : List String
  deriving DecidableEq, Repr

def roleAdmin : String := "ADMIN"

def Claims.hasRole (c : Claims) (role : String) : Bool := c.roles.contains role

structure Restaurant where
  id : String
  name : String
  address : String
  ownerUserId : String
  dateCreated : Nat
  dateUpdated : Nat
  deriving DecidableEq, Repr

structure NewRestaurant where
  name : String
  address : String
  deriving DecidableEq, Repr

/-- A nil pointer field is `none`. -/
structure UpdateRestaurant where
  name : Option String
  address : Option String
  deriving DecidableEq, Repr

structure Menu where
  id : String
  restaurantId : String
  date : Nat
  menu : String
  votes : Nat
  deriving DecidableEq, Repr

structure NewMenu where
  restaurantId : String
  date : Nat
  menu : String
  deriving DecidableEq, Repr

structure UpdateMenu where
  id : String
  menu : String
  date : Nat
  deriving DecidableEq, Repr

inductive StoreError
  | notFound
  | invalidID
  | forbidden
  deriving DecidableEq, Repr

def utf8 (s : String) : List UInt8 := s.data.flatMap String.utf8EncodeChar

def isHexByte (b : UInt8) : Bool :=
  (48 ≤ b && b ≤ 57) || (97 ≤ b && b ≤ 102) || (65 ≤ b && b ≤ 70)

def xtob (s : List UInt8) (x : Nat) : Bool :=
  match s.get? x, s.get? (x + 1) with
  | some a, some b => isHexByte a && isHexByte b
  | _, _ => false

def dashed (s : List UInt8) : Bool :=
  [8, 13, 18, 23].all (fun i => s.get? i == some 45) &&
    [0, 2, 4, 6, 9, 11, 14, 16, 19, 21, 24, 26, 28, 30, 32, 34].all (xtob s)

def lowerByte (b : UInt8) : UInt8 := if 65 ≤ b && b ≤ 90 then b + 32 else b

/-- Whether `uuid.Parse` of github.com/google/uuid v1.1.1 returns no error, which is all the code
reads; the library reads the string's bytes, and the braced form only drops its first byte. -/
def uuidParse (id : String) : Bool :=
  let s := utf8 id
  match s.length with
  | 36 => dashed s
  | 45 => (s.take 9).map lowerByte == utf8 "urn:uuid:" && dashed (s.drop 9)
  | 38 => dashed (s.drop 1)
  | 32 => (List.range 16).all fun i => xtob s (2 * i)
  | _ => false

example : uuidParse "a224a8d6-3f9e-4b11-9900-e81a25d80702" = true := by decide
example : uuidParse "12345" = false := by decide

structure Db where
  restaurants : List Restaurant
  menus : List Menu
  deriving DecidableEq, Repr

/-- Query `SELECT r.* FROM restaurant AS r WHERE r.restaurant_id = $1` read by GetContext:
the first row, `none` for sql.ErrNoRows. -/
def Db.restaurantRow (db : Db) (id : String) : Option Restaurant :=
  db.restaurants.find? (·.id == id)

def Db.insertRestaurant (db : Db) (r : Restaurant) : Db :=
  { db with restaurants := db.restaurants ++ [r] }

def Db.updateRestaurant (db : Db) (id name address : String) (dateUpdated : Nat) : Db :=
  { db with restaurants := db.restaurants.map fun r =>
      if r.id = id then { r with name, address, dateUpdated } else r }

def Db.deleteRestaurant (db : Db) (id : String) : Db :=
  { db with restaurants := db.restaurants.filter (·.id != id) }

def Db.menuRow (db : Db) (id : String) : Option Menu :=
  db.menus.find? (·.id == id)

def Db.insertMenu (db : Db) (m : Menu) : Db :=
  { db with menus := db.menus ++ [m] }

def Db.updateMenu (db : Db) (id menu : String) (date : Nat) : Db :=
  { db with menus := db.menus.map fun m => if m.id = id then { m with menu, date } else m }

@[simp] theorem insertRestaurant_menus (db : Db) (r : Restaurant) :
    (db.insertRestaurant r).menus = db.menus := rfl
@[simp] theorem updateRestaurant_menus (db : Db) (id name address : String) (t : Nat) :
    (db.updateRestaurant id name address t).menus = db.menus := rfl
@[simp] theorem deleteRestaurant_menus (db : Db) (id : String) :
    (db.deleteRestaurant id).menus = db.menus := rfl
@[simp] theorem insertMenu_restaurants (db : Db) (m : Menu) :
    (db.insertMenu m).restaurants = db.restaurants := rfl
@[simp] theorem updateMenu_restaurants (db : Db) (id menu : String) (date : Nat) :
    (db.updateMenu id menu date).restaurants = db.restaurants := rfl

theorem find?_map_of_key {α : Type} (key : α → String) (f : α → α) (keeps : ∀ a, key (f a) = key a)
    (l : List α) (x : String) :
    (l.map f).find? (key · == x) = (l.find? (key · == x)).map f := by
  rw [List.find?_map]
  congr
  funext a
  simp [keeps]

theorem restaurantRow_insertRestaurant (db : Db) (r : Restaurant) (x : String) :
    (db.insertRestaurant r).restaurantRow x =
      (db.restaurantRow x).or (if r.id = x then some r else none) := by
  by_cases h : r.id = x <;> simp [Db.restaurantRow, Db.insertRestaurant, h]

theorem restaurantRow_updateRestaurant (db : Db) (id name address x : String) (t : Nat) :
    (db.updateRestaurant id name address t).restaurantRow x =
      (db.restaurantRow x).map fun r =>
        if x = id then { r with name, address, dateUpdated := t } else r := by
  rw [Db.restaurantRow, Db.updateRestaurant, find?_map_of_key _ _ (fun r => by split <;> rfl)]
  refine Option.map_congr fun r found => ?_
  obtain rfl : r.id = x := by simpa using List.find?_some found
  rfl

theorem restaurantRow_deleteRestaurant (db : Db) (id x : String) :
    (db.deleteRestaurant id).restaurantRow x = if x = id then none else db.restaurantRow x := by
  unfold Db.restaurantRow Db.deleteRestaurant
  rw [List.find?_filter]
  split
  · subst x
    simp
  · congr
    funext r
    by_cases h : r.id = x <;> simp [h, *]

theorem menuRow_insertMenu (db : Db) (m : Menu) (x : String) :
    (db.insertMenu m).menuRow x = (db.menuRow x).or (if m.id = x then some m else none) := by
  by_cases h : m.id = x <;> simp [Db.menuRow, Db.insertMenu, h]

theorem menuRow_updateMenu (db : Db) (id menu x : String) (date : Nat) :
    (db.updateMenu id menu date).menuRow x =
      (db.menuRow x).map fun m => if x = id then { m with menu, date } else m := by
  rw [Db.menuRow, Db.updateMenu, find?_map_of_key _ _ (fun m => by split <;> rfl)]
  refine Option.map_congr fun m found => ?_
  obtain rfl : m.id = x := by simpa using List.find?_some found
  rfl

def Db.owners (db : Db) : List (String × String) :=
  db.restaurants.map fun r => (r.id, r.ownerUserId)

@[simp] theorem owners_insertRestaurant (db : Db) (r : Restaurant) :
    (db.insertRestaurant r).owners = db.owners ++ [(r.id, r.ownerUserId)] := by
  simp [Db.owners, Db.insertRestaurant]

@[simp] theorem owners_updateRestaurant (db : Db) (id name address : String) (t : Nat) :
    (db.updateRestaurant id name address t).owners = db.owners := by
  simp only [Db.owners, Db.updateRestaurant, List.map_map]
  congr 1
  funext r
  by_cases h : r.id = id <;> simp [h]

@[simp] theorem owners_deleteRestaurant (db : Db) (id : String) :
    (db.deleteRestaurant id).owners = db.owners.filter (·.1 != id) := by
  rw [Db.owners, Db.owners, Db.deleteRestaurant, List.filter_map]
  rfl

@[simp] theorem owners_insertMenu (db : Db) (m : Menu) : (db.insertMenu m).owners = db.owners := rfl
@[simp] theorem owners_updateMenu (db : Db) (id menu : String) (date : Nat) :
    (db.updateMenu id menu date).owners = db.owners := rfl

@[simp] theorem owners_map_fst (db : Db) : db.owners.map Prod.fst = db.restaurants.map (·.id) := by
  simp [Db.owners]

theorem mem_updateRestaurant_of_ne {db : Db} {row : Restaurant} {id : String}
    (member : row ∈ db.restaurants) (other : row.id ≠ id) (name address : String) (t : Nat) :
    row ∈ (db.updateRestaurant id name address t).restaurants :=
  List.mem_map.mpr ⟨row, member, if_neg other⟩

theorem owner_of_restaurantRow {db : Db} {id : String} {r : Restaurant} {p : String × String}
    (nodup : (db.owners.map Prod.fst).Nodup) (found : db.restaurantRow id = some r)
    (member : p ∈ db.owners) (same : p.1 = id) : p = (id, r.ownerUserId) := by
  have key : r.id = id := by simpa using List.find?_some found
  have row : (r.id, r.ownerUserId) ∈ db.owners := List.mem_map_of_mem _ (List.mem_of_find?_eq_some found)
  rw [← key]
  exact List.inj_on_of_nodup_map nodup member row (same.trans key.symm)

theorem mem_owners_of_restaurantRow {db : Db} {id : String} {r : Restaurant}
    (found : db.restaurantRow id = some r) : (id, r.ownerUserId) ∈ db.owners := by
  have key : r.id = id := by simpa using List.find?_some found
  rw [← key]
  exact List.mem_map_of_mem _ (List.mem_of_find?_eq_some found)

end RestaurantApi
