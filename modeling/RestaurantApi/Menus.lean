import RestaurantApi.Routes

/-! Menus: what MenuUpdate writes, which rows CreateMenu inserts, and where the menu
endpoint looks a menu up. -/

namespace RestaurantApi

section MenuUpdate

variable {db db' : Db} {user : Claims} {restaurantId : String} {u : UpdateMenu} {now : Nat}

/-- MenuUpdate succeeds exactly when the path's restaurant is the caller's and the menu exists;
it then runs its UPDATE with the request's fields. Nothing ties the menu to the restaurant. -/
theorem menuUpdate_ok_iff :
    exec (menuUpdate user restaurantId u now) db = (.ok (), db') ↔
      (∃ r m, db.lookup restaurantId = .ok r ∧ r.ownerUserId = user.subject ∧
        db.lookupMenu u.id = .ok m) ∧ db' = db.updateMenu u.id u.menu u.date := by
  rw [menuUpdate_exec, menuUpdateMerge_exec]
  rcases hr : db.lookup restaurantId with e | r <;> simp only [Prod.mk.injEq]
  · simp
  · by_cases owner : r.ownerUserId = user.subject <;> simp only [owner, if_true, if_false]
    · rcases db.lookupMenu u.id with e | m <;> simp [owner, eq_comm]
    · simp [owner]

theorem menuUpdate_rows (run : exec (menuUpdate user restaurantId u now) db = (.ok (), db')) :
    (∀ m, db.menuRow u.id = some m → db'.menuRow u.id = some { m with menu := u.menu, date := u.date }) ∧
      (∀ x, x ≠ u.id → db'.menuRow x = db.menuRow x) ∧ db'.restaurants = db.restaurants := by
  obtain ⟨-, rfl⟩ := menuUpdate_ok_iff.mp run
  refine ⟨fun m found => ?_, fun x other => ?_, rfl⟩ <;> rw [menuRow_updateMenu]
  · simp [found]
  · simp [other, Option.map_id']

end MenuUpdate

theorem menuUpdate_given_text_stores_merge {db db' : Db} {user : Claims} {restaurantId : String}
    {u : UpdateMenu} {now : Nat} (run : exec (menuUpdate user restaurantId u now) db = (.ok (), db'))
    (given : u.menu ≠ "") (m : Menu) (found : db.menuRow u.id = some m) :
    db'.menuRow u.id = some (menuMerge m u) ∧ (∀ x, x ≠ u.id → db'.menuRow x = db.menuRow x) ∧
      db'.restaurants = db.restaurants := by
  obtain ⟨row, others, restaurants⟩ := menuUpdate_rows run
  refine ⟨?_, others, restaurants⟩
  simp [row m found, menuMerge, given]

theorem menuUpdate_given_text_stores_merge_at_alpha :
    let rest : Restaurant := ⟨"a224a8d6-3f9e-4b11-9900-e81a25d80702", "Alpha", "Main St", "alice", 1, 1⟩
    let m : Menu := ⟨"0c3bdd21-8f3c-4b2e-9a7e-2d4f8b6c1e5a", rest.id, 3, "soup", 0⟩
    let u : UpdateMenu := ⟨m.id, "pizza", 9⟩
    let db : Db := ⟨[rest], [m]⟩
    let db' : Db := ⟨[rest], [{ m with menu := "pizza", date := 9 }]⟩
    exec (menuUpdate ⟨"alice", []⟩ rest.id u 9) db = (.ok (), db') ∧ u.menu ≠ "" ∧
      db.menuRow u.id = some m ∧ db'.menuRow u.id = some (menuMerge m u) ∧
      (∀ x, x ≠ u.id → db'.menuRow x = db.menuRow x) ∧ db'.restaurants = db.restaurants := by
  intro rest m u db db'
  have run : exec (menuUpdate ⟨"alice", []⟩ rest.id u 9) db = (.ok (), db') := rfl
  exact ⟨run, by decide, rfl, menuUpdate_given_text_stores_merge run (by decide) m rfl⟩

theorem menuUpdate_empty_text_overwrites :
    let rest : Restaurant := ⟨"a224a8d6-3f9e-4b11-9900-e81a25d80702", "Alpha", "Main St", "alice", 1, 1⟩
    let m : Menu := ⟨"0c3bdd21-8f3c-4b2e-9a7e-2d4f8b6c1e5a", rest.id, 3, "soup", 0⟩
    let u : UpdateMenu := ⟨m.id, "", 9⟩
    exec (menuUpdate ⟨"alice", []⟩ rest.id u 9) ⟨[rest], [m]⟩ =
        (.ok (), ⟨[rest], [{ m with menu := "", date := 9 }]⟩) ∧
      menuMerge m u = m ∧ m ≠ { m with menu := "", date := 9 } :=
  ⟨rfl, rfl, by decide⟩

theorem menuUpdate_rewrites_menu_of_other_owner :
    let restA : Restaurant := ⟨"a224a8d6-3f9e-4b11-9900-e81a25d80702", "Alpha", "Main St", "alice", 1, 1⟩
    let restB : Restaurant := ⟨"9b468f90-1cf1-4377-b3fa-68b450d632a0", "Beta", "High St", "bob", 1, 1⟩
    let menuB : Menu := ⟨"0c3bdd21-8f3c-4b2e-9a7e-2d4f8b6c1e5a", restB.id, 2, "soup", 0⟩
    let db : Db := ⟨[restA, restB], [menuB]⟩
    exec (menuUpdate ⟨"alice", []⟩ restA.id ⟨menuB.id, "pizza", 7⟩ 7) db =
        (.ok (), ⟨[restA, restB], [{ menuB with menu := "pizza", date := 7 }]⟩) ∧
      db.restaurantRow menuB.restaurantId = some restB ∧ restB.ownerUserId ≠ "alice" :=
  ⟨rfl, rfl, by decide⟩

theorem createMenu_inserts_only_for_owner {req : Request} {db db' : Db} {reply : Reply}
    (run : exec (Handlers.createMenu req) db = (.ok reply, db')) :
    ∃ claims m r, req.claims = some claims ∧ db'.menus = db.menus ++ [m] ∧
      m.restaurantId = req.param "restaurantId" ∧ db.restaurantRow m.restaurantId = some r ∧
      r.ownerUserId = claims.subject ∧ db'.restaurants = db.restaurants := by
  obtain ⟨claims, now, nm, r, hc, -, -, hid, hr, owner, rfl, -⟩ := Handlers.createMenu_ok run
  exact ⟨claims, _, r, hc, rfl, hid, (lookup_ok.mp hr).2, owner, rfl⟩

theorem createMenu_inserts_only_for_owner_at_alpha :
    let rest : Restaurant := ⟨"a224a8d6-3f9e-4b11-9900-e81a25d80702", "Alpha", "Main St", "alice", 1, 1⟩
    let req : Request :=
      ⟨some ⟨"alice", [roleAdmin]⟩, some 9, [("restaurantId", rest.id)],
        ⟨.error "", .error "", .ok ⟨rest.id, 5, "soup"⟩, .error ""⟩,
        "0c3bdd21-8f3c-4b2e-9a7e-2d4f8b6c1e5a", none⟩
    let created : Menu := ⟨req.uuid, rest.id, 9, "soup", 0⟩
    let db : Db := ⟨[rest], []⟩
    let db' : Db := ⟨[rest], [created]⟩
    exec (Handlers.createMenu req) db = (.ok ⟨201, .menu created⟩, db') ∧
      ∃ claims m r, req.claims = some claims ∧ db'.menus = db.menus ++ [m] ∧
        m.restaurantId = req.param "restaurantId" ∧ db.restaurantRow m.restaurantId = some r ∧
        r.ownerUserId = claims.subject ∧ db'.restaurants = db.restaurants := by
  intro _ req created db db'
  have run : exec (Handlers.createMenu req) db = (.ok ⟨201, .menu created⟩, db') := rfl
  exact ⟨run, createMenu_inserts_only_for_owner run⟩

theorem created_menu_not_found_at_restaurant :
    let rest : Restaurant := ⟨"a224a8d6-3f9e-4b11-9900-e81a25d80702", "Alpha", "Main St", "alice", 1, 1⟩
    let nm : NewMenu := ⟨rest.id, 5, "soup"⟩
    let req : Request :=
      ⟨some ⟨"alice", [roleAdmin]⟩, some 9, [("restaurantId", rest.id)],
        ⟨.error "", .error "", .ok nm, .error ""⟩, "0c3bdd21-8f3c-4b2e-9a7e-2d4f8b6c1e5a", none⟩
    let created : Menu := ⟨req.uuid, rest.id, 9, "soup", 0⟩
    exec (Handlers.createMenu req) ⟨[rest], []⟩ = (.ok ⟨201, .menu created⟩, ⟨[rest], [created]⟩) ∧
      exec (Handlers.retrieveMenu req) ⟨[rest], [created]⟩ =
        (.error (.request (some .notFound) 404), ⟨[rest], [created]⟩) ∧ created.date ≠ nm.date :=
  ⟨rfl, rfl, by decide⟩

end RestaurantApi
