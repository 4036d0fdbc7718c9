import RestaurantApi.Model

/-! Calls against the database.

A call reads and writes `Db` and may fail; a write made before a failure stays, as it would
in the database. `ReadOnly`, `Atomic`, `Total`, `Moves` and `Fails` say what a call can do to
the tables and how it can fail, and are assembled from the parts of a call: a call is atomic
when everything before its last write is read-only and the write cannot fail. -/

namespace RestaurantApi

abbrev DbM (ε α : Type) := ExceptT ε (StateM Db) α

def exec {ε α : Type} (m : DbM ε α) (db : Db) : Except ε α × Db := m.run.run db

section Exec

variable {ε ε' α β : Type} (db : Db)

@[simp] theorem exec_bind (m : DbM ε α) (f : α → DbM ε β) :
    exec (m >>= f) db = match exec m db with
      | (.ok a, db') => exec (f a) db'
      | (.error e, db') => (.error e, db') := by
  simp only [exec, ExceptT.run_bind, StateT.run_bind]
  rcases m.run.run db with ⟨_ | _, _⟩ <;> rfl

@[simp] theorem exec_map (f : α → β) (m : DbM ε α) :
    exec (f <$> m) db = match exec m db with
      | (.ok a, db') => (.ok (f a), db')
      | (.error e, db') => (.error e, db') := by
  simp only [exec, ExceptT.run_map, StateT.run_map]
  rcases m.run.run db with ⟨_ | _, _⟩ <;> rfl

@[simp] theorem exec_adapt (f : ε → ε') (m : DbM ε α) :
    exec (ExceptT.adapt f m) db = match exec m db with
      | (.ok a, db') => (.ok a, db')
      | (.error e, db') => (.error (f e), db') := by
  unfold exec
  show (fun p => (p.1.mapError f, p.2)) <$> m.run.run db = _
  rcases m.run.run db with ⟨_ | _, _⟩ <;> rfl

@[simp] theorem exec_pure (a : α) : exec (pure a : DbM ε α) db = (.ok a, db) := rfl
@[simp] theorem exec_throw (e : ε) : exec (throw e : DbM ε α) db = (.error e, db) := rfl
@[simp] theorem exec_get : exec (get : DbM ε Db) db = (.ok db, db) := rfl
@[simp] theorem exec_modify (f : Db → Db) : exec (modify f : DbM ε Unit) db = (.ok (), f db) := rfl

@[simp] theorem exec_ite (c : Prop) [Decidable c] (a b : DbM ε α) :
    exec (if c then a else b) db = if c then exec a db else exec b db := by
  split <;> rfl

theorem exec_bind_ok {m : DbM ε α} {f : α → DbM ε β} {b : β} {db' : Db} :
    exec (m >>= f) db = (.ok b, db') ↔
      ∃ a db₁, exec m db = (.ok a, db₁) ∧ exec (f a) db₁ = (.ok b, db') := by
  rw [exec_bind]
  rcases exec m db with ⟨_ | a, db₁⟩ <;> simp [and_assoc]

theorem exec_adapt_ok (f : ε → ε') {m : DbM ε α} {a : α} {db' : Db} :
    exec (ExceptT.adapt f m) db = (.ok a, db') ↔ exec m db = (.ok a, db') := by
  rw [exec_adapt]
  rcases exec m db with ⟨_ | _, _⟩ <;> simp

end Exec

section Frame

variable {ε ε' α β : Type}

def ReadOnly (m : DbM ε α) : Prop := ∀ db, (exec m db).2 = db

def Atomic (m : DbM ε α) : Prop := ∀ db e db', exec m db = (.error e, db') → db' = db

def Total (m : DbM ε α) : Prop := ∀ db, ∃ a, (exec m db).1 = .ok a

theorem ReadOnly.atomic {m : DbM ε α} (h : ReadOnly m) : Atomic m := by
  intro db e db' run
  simpa [run] using h db

theorem Total.atomic {m : DbM ε α} (h : Total m) : Atomic m := by
  intro db e db' run
  obtain ⟨a, ok⟩ := h db
  rw [run] at ok
  cases ok

theorem readOnly_pure (a : α) : ReadOnly (pure a : DbM ε α) := fun _ => rfl
theorem readOnly_throw (e : ε) : ReadOnly (throw e : DbM ε α) := fun _ => rfl
theorem readOnly_get : ReadOnly (get : DbM ε Db) := fun _ => rfl

theorem ReadOnly.bind {m : DbM ε α} {f : α → DbM ε β} (hm : ReadOnly m)
    (hf : ∀ a, ReadOnly (f a)) : ReadOnly (m >>= f) := by
  intro db
  have keep := hm db
  rw [exec_bind]
  rcases h : exec m db with ⟨_ | a, db₁⟩ <;> rw [h] at keep <;> subst keep
  · rfl
  · exact hf a _

theorem ReadOnly.adapt {m : DbM ε α} (h : ReadOnly m) (f : ε → ε') : ReadOnly (ExceptT.adapt f m) := by
  intro db
  have keep := h db
  rw [exec_adapt]
  rcases hm : exec m db with ⟨_ | _, _⟩ <;> rw [hm] at keep <;> exact keep

theorem readOnly_ite (c : Prop) [Decidable c] {a b : DbM ε α} (ha : ReadOnly a) (hb : ReadOnly b) :
    ReadOnly (if c then a else b) := by
  split <;> assumption

theorem Atomic.bind_readOnly {m : DbM ε α} {f : α → DbM ε β} (hm : ReadOnly m)
    (hf : ∀ a, Atomic (f a)) : Atomic (m >>= f) := by
  intro db e db' run
  have keep := hm db
  rw [exec_bind] at run
  rcases h : exec m db with ⟨_ | a, db₁⟩ <;> rw [h] at keep run <;> subst keep
  · exact (Prod.mk.inj run).2.symm
  · exact hf a _ _ _ run

theorem Atomic.bind_total {m : DbM ε α} {f : α → DbM ε β} (hm : Atomic m)
    (hf : ∀ a, Total (f a)) : Atomic (m >>= f) := by
  intro db e db' run
  rw [exec_bind] at run
  rcases h : exec m db with ⟨_ | a, db₁⟩ <;> rw [h] at run
  · exact hm db _ _ (by rw [h, ← (Prod.mk.inj run).2])
  · obtain ⟨b, ok⟩ := hf a db₁
    simp only at run
    rw [run] at ok
    cases ok

theorem Atomic.adapt {m : DbM ε α} (h : Atomic m) (f : ε → ε') : Atomic (ExceptT.adapt f m) := by
  intro db e db' run
  rw [exec_adapt] at run
  rcases hm : exec m db with ⟨_ | _, _⟩ <;> rw [hm] at run <;> cases run
  exact h db _ _ hm

theorem atomic_ite (c : Prop) [Decidable c] {a b : DbM ε α} (ha : Atomic a) (hb : Atomic b) :
    Atomic (if c then a else b) := by
  split <;> assumption

/-- A check that throws or goes on, as `if c then throw e` compiles in a `do` block. -/
theorem Atomic.guard (c : Prop) [Decidable c] (e : ε) {k : PUnit → DbM ε α}
    (hk : ∀ u, Atomic (k u)) : Atomic (if c then throw e >>= k else pure PUnit.unit >>= k) :=
  atomic_ite c (.bind_readOnly (readOnly_throw e) hk) (.bind_readOnly (readOnly_pure _) hk)

theorem exec_guard_ok (c : Prop) [Decidable c] (e : ε) {k : PUnit → DbM ε α} {a : α} {db db' : Db} :
    exec (if c then throw e >>= k else pure PUnit.unit >>= k) db = (.ok a, db') ↔
      ¬c ∧ exec (k PUnit.unit) db = (.ok a, db') := by
  by_cases h : c <;> simp [h]

theorem atomic_modify (g : Db → Db) : Atomic (modify g : DbM ε Unit) := by
  intro db e db' run
  cases run

theorem total_pure (a : α) : Total (pure a : DbM ε α) := fun _ => ⟨a, rfl⟩

theorem Total.bind {m : DbM ε α} {f : α → DbM ε β} (hm : Total m) (hf : ∀ a, Total (f a)) :
    Total (m >>= f) := by
  intro db
  obtain ⟨a, ok⟩ := hm db
  rw [exec_bind]
  rcases h : exec m db with ⟨_ | a', db₁⟩ <;> rw [h] at ok <;> cases ok
  exact hf a db₁

theorem Total.adapt {m : DbM ε α} (h : Total m) (f : ε → ε') : Total (ExceptT.adapt f m) := by
  intro db
  obtain ⟨a, ok⟩ := h db
  rw [exec_adapt]
  rcases hm : exec m db with ⟨_ | _, _⟩ <;> rw [hm] at ok <;> cases ok
  exact ⟨a, rfl⟩

theorem total_modify (g : Db → Db) : Total (modify g : DbM ε Unit) := fun _ => ⟨(), rfl⟩

/-- Every run of the call takes the tables to tables `R`-related to them. -/
def Moves (R : Db → Db → Prop) (m : DbM ε α) : Prop := ∀ db, R db (exec m db).2

theorem ReadOnly.moves {R : Db → Db → Prop} [IsRefl Db R] {m : DbM ε α} (h : ReadOnly m) :
    Moves R m := fun db => by
  rw [h db]
  exact refl_of R db

theorem Moves.bind_readOnly {R : Db → Db → Prop} [IsRefl Db R] {m : DbM ε α} {f : α → DbM ε β}
    (hm : ReadOnly m) (hf : ∀ a, Moves R (f a)) : Moves R (m >>= f) := by
  intro db
  have keep := hm db
  rw [exec_bind]
  rcases h : exec m db with ⟨_ | a, db₁⟩ <;> rw [h] at keep <;> subst keep
  · exact refl_of R _
  · exact hf a _

theorem Moves.then_readOnly {R : Db → Db → Prop} {m : DbM ε α} {f : α → DbM ε β} (hm : Moves R m)
    (hf : ∀ a, ReadOnly (f a)) : Moves R (m >>= f) := by
  intro db
  have moved := hm db
  rw [exec_bind]
  rcases h : exec m db with ⟨_ | a, db₁⟩ <;> rw [h] at moved
  · exact moved
  · rw [hf a db₁]
    exact moved

theorem Moves.adapt {R : Db → Db → Prop} {m : DbM ε α} (h : Moves R m) (f : ε → ε') :
    Moves R (ExceptT.adapt f m) := fun db => by
  have moved := h db
  rw [exec_adapt]
  rcases hm : exec m db with ⟨_ | _, _⟩ <;> rw [hm] at moved <;> exact moved

theorem Moves.guard {R : Db → Db → Prop} [IsRefl Db R] (c : Prop) [Decidable c] (e : ε)
    {k : PUnit → DbM ε α} (hk : ∀ u, Moves R (k u)) :
    Moves R (if c then throw e >>= k else pure PUnit.unit >>= k) := by
  split
  · exact .bind_readOnly (readOnly_throw e) hk
  · exact .bind_readOnly (readOnly_pure _) hk

end Frame

section Failures

variable {ε ε' α β : Type} {P : ε → Prop}

def Fails (P : ε → Prop) (m : DbM ε α) : Prop := ∀ db e db', exec m db = (.error e, db') → P e

theorem fails_pure (a : α) : Fails P (pure a : DbM ε α) := fun _ _ _ run => by cases run

theorem fails_throw {e : ε} (h : P e) : Fails P (throw e : DbM ε α) := fun _ _ _ run => by
  cases run
  exact h

theorem Total.fails {m : DbM ε α} (h : Total m) : Fails P m := fun db e db' run => by
  obtain ⟨a, ok⟩ := h db
  rw [run] at ok
  cases ok

theorem Fails.bind {m : DbM ε α} {f : α → DbM ε β} (hm : Fails P m) (hf : ∀ a, Fails P (f a)) :
    Fails P (m >>= f) := by
  intro db e db' run
  rw [exec_bind] at run
  rcases h : exec m db with ⟨_ | a, db₁⟩ <;> rw [h] at run
  · cases run
    exact hm db _ _ h
  · exact hf a _ _ _ run

theorem Fails.adapt {Q : ε → Prop} {P : ε' → Prop} {m : DbM ε α} (hm : Fails Q m) {f : ε → ε'}
    (hf : ∀ e, Q e → P (f e)) : Fails P (ExceptT.adapt f m) := by
  intro db e db' run
  rw [exec_adapt] at run
  rcases h : exec m db with ⟨_ | _, _⟩ <;> rw [h] at run <;> cases run
  exact hf _ (hm db _ _ h)

theorem fails_adapt {m : DbM ε α} {f : ε → ε'} {P : ε' → Prop} (hf : ∀ e, P (f e)) :
    Fails P (ExceptT.adapt f m) :=
  Fails.adapt (fun _ _ _ _ => trivial : Fails (fun _ => True) m) fun e _ => hf e

theorem fails_ite (c : Prop) [Decidable c] {a b : DbM ε α} (ha : Fails P a) (hb : Fails P b) :
    Fails P (if c then a else b) := by
  split <;> assumption

theorem Fails.guard (c : Prop) [Decidable c] {e : ε} (he : P e) {k : PUnit → DbM ε α}
    (hk : ∀ u, Fails P (k u)) : Fails P (if c then throw e >>= k else pure PUnit.unit >>= k) :=
  fails_ite c (.bind (fails_throw he) hk) (.bind (fails_pure _) hk)

end Failures

end RestaurantApi
