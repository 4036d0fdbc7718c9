import RestaurantApi.Routes

/-! Failed calls: what they leave in the tables, and how the handlers classify them. -/

namespace RestaurantApi

theorem failed_calls_keep_tables :
    (∀ id, ReadOnly (retrieve id)) ∧ (∀ user id up now, Atomic (update user id up now)) ∧
      (∀ id, Atomic (delete id)) ∧ (∀ id, ReadOnly (menuRetrieve id)) ∧
      (∀ user restaurantId u now, Atomic (menuUpdate user restaurantId u now)) ∧
      (∀ req, Atomic (Handlers.createMenu req)) :=
  ⟨retrieve_readOnly, update_atomic, delete_atomic, menuRetrieve_readOnly, menuUpdate_atomic,
    Handlers.createMenu_atomic⟩

def StoreError.status : StoreError → Nat
  | .invalidID => 400
  | .notFound => 404
  | .forbidden => 403

/-- An error as the spec's taxonomy wants it from a handler: a predefined error reaches the
client only inside a web.RequestError with its own status, and no RequestError wraps nil. -/
def WebError.Classified : WebError → Prop
  | .request (some e) status => status = e.status
  | .request none _ => False
  | .bare _ => False
  | .wrapped _ _ => False
  | _ => True

namespace Handlers

theorem requestError_classified {cases : List (StoreError × Nat)} {context : String}
    {e : StoreError} (listed : cases.lookup e = some e.status) :
    (requestError cases context e).Classified := by
  simp [requestError, listed, WebError.Classified]

theorem need_classified {α : Type} (x : Option α) (message : String) :
    Fails WebError.Classified (need x message) := by
  cases x
  · exact fails_throw trivial
  · exact fails_pure _

theorem decode_classified {α : Type} (x : Except String α) (context : String) :
    Fails WebError.Classified (decode x context) := by
  cases x
  · exact fails_throw trivial
  · exact fails_pure _

end Handlers

open Handlers in
theorem handlers_classify_errors (req : Request) :
    Fails WebError.Classified (restaurantList req) ∧
      Fails WebError.Classified (restaurantRetrieve req) ∧
      Fails WebError.Classified (restaurantCreate req) ∧
      Fails WebError.Classified (restaurantUpdate req) ∧
      Fails WebError.Classified (restaurantDelete req) ∧
      Fails WebError.Classified (menuList req) ∧
      Fails WebError.Classified (retrieveMenu req) ∧
      Fails WebError.Classified (retrieveVotes req) ∧
      Fails WebError.Classified (Handlers.menuUpdate req) := by
  have every : ∀ {α : Type} (m : Store α), Fails (fun _ => True) m := fun _ _ _ _ _ => trivial
  have list : Fails WebError.Classified (restaurantList req) :=
    .bind (list_total.adapt _).fails fun _ => fails_pure _
  have menu : Fails WebError.Classified (retrieveMenu req) :=
    .bind ((menuRetrieve_fails _).adapt fun _ h => requestError_classified (by
      rcases h with rfl | rfl <;> rfl)) fun _ => fails_pure _
  refine ⟨list, ?_, ?_, ?_, ?_, list, menu, menu, ?_⟩
  · exact .bind ((retrieve_fails _).adapt fun _ h => requestError_classified (by
      rcases h with rfl | rfl <;> rfl)) fun _ => fails_pure _
  · exact .bind (need_classified _ _) fun _ => .bind (need_classified _ _) fun _ =>
      .bind (decode_classified _ _) fun _ =>
        .bind (create_total _ _ _ _ |>.adapt _).fails fun _ => fails_pure _
  · exact .bind (need_classified _ _) fun _ => .bind (need_classified _ _) fun _ =>
      .bind (decode_classified _ _) fun _ =>
        .bind ((every _).adapt fun e _ => requestError_classified (by cases e <;> rfl))
          fun _ => fails_pure _
  · exact .bind ((delete_fails _).adapt fun _ h => requestError_classified (by subst h; rfl))
      fun _ => fails_pure _
  · exact .bind (need_classified _ _) fun _ => .bind (need_classified _ _) fun _ =>
      .bind (decode_classified _ _) fun _ =>
        (every _).adapt fun e _ => requestError_classified (by cases e <;> rfl)

theorem createMenu_returns_unclassified_errors :
    let rest : Restaurant := ⟨"a224a8d6-3f9e-4b11-9900-e81a25d80702", "Alpha", "Main St", "bob", 1, 1⟩
    let req (nm : NewMenu) : Request :=
      ⟨some ⟨"alice", [roleAdmin]⟩, some 9, [("restaurantId", rest.id)],
        ⟨.error "", .error "", .ok nm, .error ""⟩, "0c3bdd21-8f3c-4b2e-9a7e-2d4f8b6c1e5a", none⟩
    exec (Handlers.createMenu (req ⟨"", 0, ""⟩)) ⟨[rest], []⟩ =
        (.error (.bare .invalidID), ⟨[rest], []⟩) ∧
      (WebError.bare .invalidID).status = 500 ∧ ¬(WebError.bare .invalidID).Classified ∧
      exec (Handlers.createMenu (req ⟨rest.id, 0, "soup"⟩)) ⟨[rest], []⟩ =
        (.error (.request none 403), ⟨[rest], []⟩) ∧ ¬(WebError.request none 403).Classified :=
  ⟨rfl, rfl, id, rfl, id⟩

end RestaurantApi
