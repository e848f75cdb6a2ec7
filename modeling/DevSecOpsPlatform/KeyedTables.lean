import Mathlib.Data.List.Nodup

/-!
# Tables of rows under serial keys

A table lists its rows in insertion order, each under the key that the table's
sequence gave it. Keys are pairwise distinct and below the next sequence value, so
an inserted row never takes the key of a row that is or was there. The operations
are the four a row store needs: insertion, an update computed from key and row,
deletion by a predicate, and selection by a predicate.
-/

namespace DevSecOpsPlatform.KeyedTables

/-- Rows in insertion order, with the sequence that numbers them. -/
structure Table (α : Type) where
  rows : List (ℕ × α)
  nextId : ℕ
  keys_lt : ∀ r ∈ rows, r.1 < nextId
  keys_nodup : (rows.map Prod.fst).Nodup

namespace Table

variable {α : Type}

@[ext] theorem ext {t u : Table α} (hr : t.rows = u.rows) (hn : t.nextId = u.nextId) : t = u := by
  cases t; cases u; cases hr; cases hn; rfl

def empty : Table α where
  rows := []
  nextId := 1
  keys_lt := by simp
  keys_nodup := by simp

/-- The row under a key. -/
def get? (t : Table α) (id : ℕ) : Option α :=
  (t.rows.find? (fun r => r.1 == id)).map Prod.snd

/-- The rows satisfying `p`, in insertion order. -/
def select (t : Table α) (p : ℕ → α → Bool) : List (ℕ × α) := t.rows.filter (fun r => p r.1 r.2)

def insert (t : Table α) (a : α) : Table α where
  rows := t.rows ++ [(t.nextId, a)]
  nextId := t.nextId + 1
  keys_lt := by
    intro r hr
    rcases List.mem_append.mp hr with hr | hr
    · exact Nat.lt_succ_of_lt (t.keys_lt r hr)
    · simp [List.mem_singleton.mp hr]
  keys_nodup := by
    rw [List.map_append, List.nodup_append]
    refine ⟨t.keys_nodup, by simp, ?_⟩
    intro k hk l hl
    obtain ⟨r, hr, rfl⟩ := List.mem_map.mp hk
    have hlt := t.keys_lt r hr
    simp only [List.map_cons, List.map_nil, List.mem_singleton] at hl
    omega

/-- The rows inserted one after the other. -/
def insertAll (t : Table α) (as : List α) : Table α := as.foldl insert t

/-- Every row replaced by a function of its key and contents. -/
def mapRows (t : Table α) (f : ℕ → α → α) : Table α where
  rows := t.rows.map (fun r => (r.1, f r.1 r.2))
  nextId := t.nextId
  keys_lt := by
    intro r hr
    obtain ⟨r', hr', rfl⟩ := List.mem_map.mp hr
    exact t.keys_lt r' hr'
  keys_nodup := by simpa [List.map_map, Function.comp_def] using t.keys_nodup

def deleteWhere (t : Table α) (p : ℕ → α → Bool) : Table α where
  rows := t.rows.filter (fun r => !p r.1 r.2)
  nextId := t.nextId
  keys_lt := fun r hr => t.keys_lt r (List.mem_of_mem_filter hr)
  keys_nodup := (List.filter_sublist.map Prod.fst).nodup t.keys_nodup

def update (t : Table α) (id : ℕ) (f : α → α) : Table α :=
  t.mapRows (fun k a => if k = id then f a else a)

def updateWhere (t : Table α) (p : ℕ → α → Bool) (f : α → α) : Table α :=
  t.mapRows (fun k a => if p k a then f a else a)

def delete (t : Table α) (id : ℕ) : Table α := t.deleteWhere (fun k _ => k == id)

/-- Replace the row under a key, or bring a row back under a key the table once gave. -/
def put (t : Table α) (id : ℕ) (a : α) : Table α :=
  if h : id < t.nextId then
    { rows := (t.delete id).rows ++ [(id, a)]
      nextId := t.nextId
      keys_lt := by
        intro r hr
        rcases List.mem_append.mp hr with hr | hr
        · exact (t.delete id).keys_lt r hr
        · simpa [List.mem_singleton.mp hr] using h
      keys_nodup := by
        rw [List.map_append, List.nodup_append]
        refine ⟨(t.delete id).keys_nodup, by simp, ?_⟩
        intro k hk l hl
        obtain ⟨r, hr, rfl⟩ := List.mem_map.mp hk
        have hne := (List.mem_filter.mp hr).2
        simp_all }
  else t

/-- Write a row under its key, where it is or where it was. -/
def store (t : Table α) (id : ℕ) (a : α) : Table α :=
  match t.get? id with
  | some _ => t.update id (fun _ => a)
  | none => t.put id a

theorem mem_rows_iff (t : Table α) (id : ℕ) (a : α) : (id, a) ∈ t.rows ↔ t.get? id = some a := by
  constructor
  · intro h
    cases hf : t.rows.find? (fun r => r.1 == id) with
    | none => simpa using List.find?_eq_none.mp hf _ h
    | some r =>
      have hm := List.mem_of_find?_eq_some hf
      have hk : r.1 = id := by simpa using List.find?_some hf
      have he := List.inj_on_of_nodup_map t.keys_nodup hm h hk
      simp [get?, hf, he]
  · intro h
    obtain ⟨r, hf, rfl⟩ := Option.map_eq_some_iff.mp h
    have hk : r.1 = id := by simpa using List.find?_some hf
    exact hk ▸ List.mem_of_find?_eq_some hf

theorem lt_nextId_of_get? {t : Table α} {id : ℕ} {a : α} (h : t.get? id = some a) :
    id < t.nextId :=
  t.keys_lt _ ((t.mem_rows_iff id a).mpr h)

@[simp] theorem get?_nextId (t : Table α) : t.get? t.nextId = none := by
  cases h : t.get? t.nextId with
  | none => rfl
  | some a => exact absurd (lt_nextId_of_get? h) (Nat.lt_irrefl _)

/-- Two tables with the same key lookup on every key hold the same rows. -/
theorem get?_eq_iff {t u : Table α} {id : ℕ} :
    t.get? id = u.get? id ↔ ∀ a, (id, a) ∈ t.rows ↔ (id, a) ∈ u.rows := by
  simp only [mem_rows_iff]
  constructor
  · intro h a
    rw [h]
  · intro h
    cases ht : t.get? id with
    | some a => exact ((h a).mp ht).symm
    | none =>
      cases hu : u.get? id with
      | none => rfl
      | some a => exact absurd ((h a).mpr hu) (by simp [ht])

@[simp] theorem get?_empty (id : ℕ) : (empty : Table α).get? id = none := rfl

theorem get?_insert (t : Table α) (a : α) (id : ℕ) :
    (t.insert a).get? id = if id = t.nextId then some a else t.get? id := by
  split
  · rename_i h
    exact ((t.insert a).mem_rows_iff id a).mp (by simp [insert, h])
  · rename_i h
    refine get?_eq_iff.mpr (fun b => ?_)
    simp [insert, h]

@[simp] theorem get?_insert_nextId (t : Table α) (a : α) : (t.insert a).get? t.nextId = some a := by
  simp [get?_insert]

theorem get?_insert_of_some {t : Table α} {a b : α} {id : ℕ} (h : t.get? id = some b) :
    (t.insert a).get? id = some b := by
  rw [get?_insert, if_neg (Nat.ne_of_lt (lt_nextId_of_get? h)), h]

@[simp] theorem get?_mapRows (t : Table α) (f : ℕ → α → α) (id : ℕ) :
    (t.mapRows f).get? id = (t.get? id).map (f id) := by
  cases h : t.get? id with
  | some a =>
    have hm := (t.mem_rows_iff id a).mpr h
    exact ((t.mapRows f).mem_rows_iff id _).mp (List.mem_map.mpr ⟨(id, a), hm, rfl⟩)
  | none =>
    cases hu : (t.mapRows f).get? id with
    | none => rfl
    | some b =>
      obtain ⟨⟨k, a⟩, hm, he⟩ := List.mem_map.mp (((t.mapRows f).mem_rows_iff id b).mpr hu)
      obtain ⟨rfl, -⟩ := Prod.mk.inj he
      simp [(t.mem_rows_iff k a).mp hm] at h

theorem get?_update (t : Table α) (id k : ℕ) (f : α → α) :
    (t.update id f).get? k = if k = id then (t.get? k).map f else t.get? k := by
  rw [update, get?_mapRows]
  split <;> simp

@[simp] theorem get?_update_self (t : Table α) (id : ℕ) (f : α → α) :
    (t.update id f).get? id = (t.get? id).map f := by simp [get?_update]

theorem update_congr {t : Table α} {id : ℕ} {f g : α → α}
    (h : ∀ a, t.get? id = some a → f a = g a) : t.update id f = t.update id g := by
  ext1
  · refine List.map_congr_left fun r hr => ?_
    by_cases hid : r.1 = id
    · have hget : t.get? id = some r.2 := (t.mem_rows_iff id r.2).mp (hid ▸ hr)
      simp [hid, h r.2 hget]
    · simp [hid]
  · rfl

/-- An update of a row that is not there changes nothing. -/
theorem update_of_get?_eq_none {t : Table α} {id : ℕ} (h : t.get? id = none) (f : α → α) :
    t.update id f = t := by
  have hself : ∀ r ∈ t.rows, (r.1, if r.1 = id then f r.2 else r.2) = r := by
    intro r hr
    have hne : r.1 ≠ id := fun heq => by
      simp [heq ▸ (t.mem_rows_iff r.1 r.2).mp hr] at h
    simp [hne]
  ext1
  · simp only [update, mapRows]
    rw [List.map_congr_left hself, List.map_id']
  · rfl

theorem update_update (t : Table α) (id : ℕ) (f g : α → α) :
    (t.update id f).update id g = t.update id (fun a => g (f a)) := by
  ext1
  · simp only [update, mapRows, List.map_map]
    refine List.map_congr_left (fun r _ => ?_)
    by_cases h : r.1 = id <;> simp [h]
  · rfl

@[simp] theorem get?_updateWhere (t : Table α) (p : ℕ → α → Bool) (f : α → α) (id : ℕ) :
    (t.updateWhere p f).get? id = (t.get? id).map (fun a => if p id a then f a else a) :=
  get?_mapRows t _ id

@[simp] theorem get?_deleteWhere (t : Table α) (p : ℕ → α → Bool) (id : ℕ) :
    (t.deleteWhere p).get? id = (t.get? id).filter (fun a => !p id a) := by
  have hmem (a : α) : (t.deleteWhere p).get? id = some a ↔ t.get? id = some a ∧ p id a = false := by
    simp [← mem_rows_iff, deleteWhere]
  ext a
  simp [hmem, Option.filter_eq_some_iff]

theorem get?_put_of_ne (t : Table α) (a : α) {id k : ℕ} (h : k ≠ id) :
    (t.put id a).get? k = t.get? k := by
  unfold put
  split
  · refine get?_eq_iff.mpr (fun b => ?_)
    simp [delete, deleteWhere, h]
  · rfl

theorem get?_store_of_ne (t : Table α) (a : α) {id k : ℕ} (h : k ≠ id) :
    (t.store id a).get? k = t.get? k := by
  unfold store
  split
  · rw [get?_update, if_neg h]
  · exact get?_put_of_ne t a h

theorem get?_put_self (t : Table α) (a : α) (id : ℕ) :
    (t.put id a).get? id = if id < t.nextId then some a else t.get? id := by
  unfold put
  split
  · rename_i h
    exact (mem_rows_iff _ id a).mp (List.mem_append_right _ (List.mem_singleton.mpr rfl))
  · rfl

/-- The row under a key after it was written: that row, or none under a key never given. -/
theorem get?_store_self (t : Table α) (a : α) (id : ℕ) :
    (t.store id a).get? id = if id < t.nextId then some a else none := by
  unfold store
  split
  · rename_i b hb
    rw [get?_update_self, hb, if_pos (lt_nextId_of_get? hb)]
    rfl
  · rename_i hb
    rw [get?_put_self, hb]

theorem mem_select (t : Table α) (p : ℕ → α → Bool) (id : ℕ) (a : α) :
    (id, a) ∈ t.select p ↔ t.get? id = some a ∧ p id a = true := by
  simp [select, mem_rows_iff]

theorem select_insert (t : Table α) (p : ℕ → α → Bool) (a : α) :
    (t.insert a).select p = t.select p ++ (if p t.nextId a then [(t.nextId, a)] else []) := by
  simp [select, insert, List.filter_append, List.filter_cons]

theorem select_mapRows (t : Table α) (p : ℕ → α → Bool) (f : ℕ → α → α) :
    (t.mapRows f).select p =
      (t.select (fun k a => p k (f k a))).map (fun r => (r.1, f r.1 r.2)) := by
  simp [select, mapRows, List.filter_map, Function.comp_def]

theorem select_deleteWhere (t : Table α) (p q : ℕ → α → Bool) :
    (t.deleteWhere q).select p = t.select (fun k a => p k a && !q k a) := by
  simp [select, deleteWhere, List.filter_filter]

theorem select_congr {t : Table α} {p q : ℕ → α → Bool}
    (h : ∀ id a, t.get? id = some a → p id a = q id a) : t.select p = t.select q :=
  List.filter_congr (fun r hr => h r.1 r.2 ((t.mem_rows_iff r.1 r.2).mp hr))

theorem select_eq_nil {t : Table α} {p : ℕ → α → Bool} :
    t.select p = [] ↔ ∀ id a, t.get? id = some a → p id a = false := by
  rw [List.eq_nil_iff_forall_not_mem]
  constructor
  · intro h id a ha
    cases hp : p id a with
    | false => rfl
    | true => exact absurd ((mem_select t p id a).mpr ⟨ha, hp⟩) (h (id, a))
  · intro h r hr
    obtain ⟨ha, hp⟩ := (mem_select t p r.1 r.2).mp hr
    simp [h r.1 r.2 ha] at hp

theorem select_key {t : Table α} {id : ℕ} {a : α} (h : t.get? id = some a) :
    t.select (fun k _ => k == id) = [(id, a)] := by
  have hnodup : (t.select (fun k _ => k == id)).Nodup := t.keys_nodup.of_map.filter _
  refine List.perm_singleton.mp ((List.perm_ext_iff_of_nodup hnodup (by simp)).mpr fun r => ?_)
  constructor
  · intro hr
    obtain ⟨hget, hk⟩ := (t.mem_select _ r.1 r.2).mp hr
    obtain rfl : r.1 = id := by simpa using hk
    obtain rfl := Option.some.inj (hget.symm.trans h)
    simp
  · intro hr
    obtain rfl := List.mem_singleton.mp hr
    exact (t.mem_select _ id a).mpr ⟨h, by simp⟩

theorem mapRows_congr {t : Table α} {f g : ℕ → α → α}
    (h : ∀ id a, t.get? id = some a → f id a = g id a) : t.mapRows f = t.mapRows g := by
  ext1
  · exact List.map_congr_left fun r hr => by rw [h r.1 r.2 ((t.mem_rows_iff r.1 r.2).mp hr)]
  · rfl

/-- A row map that leaves every row as it is leaves the table. -/
theorem mapRows_eq_self {t : Table α} {f : ℕ → α → α}
    (h : ∀ id a, t.get? id = some a → f id a = a) : t.mapRows f = t := by
  rw [mapRows_congr h]
  ext1
  · exact List.map_id _
  · rfl

theorem mapRows_mapRows (t : Table α) (f g : ℕ → α → α) :
    (t.mapRows f).mapRows g = t.mapRows (fun id a => g id (f id a)) := by
  ext1
  · simp [mapRows]
  · rfl

/-- A row map that leaves the selected rows as they are leaves the selection. -/
theorem select_mapRows_eq_self {t : Table α} {p : ℕ → α → Bool} {f : ℕ → α → α}
    (hp : ∀ id a, t.get? id = some a → p id (f id a) = p id a)
    (hf : ∀ id a, t.get? id = some a → p id a = true → f id a = a) :
    (t.mapRows f).select p = t.select p := by
  have hself : ∀ r ∈ t.select p, (r.1, f r.1 r.2) = id r := by
    intro r hr
    obtain ⟨hget, hsel⟩ := (t.mem_select p r.1 r.2).mp hr
    rw [hf r.1 r.2 hget hsel]
    rfl
  rw [select_mapRows, select_congr hp, List.map_congr_left hself, List.map_id]

/-- A row map after which only one row is selected. -/
theorem select_mapRows_key {t : Table α} {p : ℕ → α → Bool} {f : ℕ → α → α} {id : ℕ} {a : α}
    (h : t.get? id = some a) (hp : ∀ k b, t.get? k = some b → p k (f k b) = (k == id)) :
    (t.mapRows f).select p = [(id, f id a)] := by
  rw [select_mapRows, select_congr hp, select_key h]
  rfl

/-- Updating the row just inserted is inserting the updated row. -/
theorem update_insert_nextId (t : Table α) (a : α) (f : α → α) :
    (t.insert a).update t.nextId f = t.insert (f a) := by
  have hold : ∀ r ∈ t.rows, (r.1, if r.1 = t.nextId then f r.2 else r.2) = r := by
    intro r hr
    rw [if_neg (Nat.ne_of_lt (t.keys_lt r hr))]
  ext1
  · simp only [update, mapRows, insert, List.map_append, List.map_cons, List.map_nil, if_true]
    rw [List.map_congr_left hold, List.map_id']
  · rfl

theorem insertAll_cons (t : Table α) (a : α) (as : List α) :
    t.insertAll (a :: as) = (t.insert a).insertAll as := rfl

theorem select_nodup (t : Table α) (p : ℕ → α → Bool) : ((t.select p).map Prod.fst).Nodup :=
  (List.filter_sublist.map Prod.fst).nodup t.keys_nodup

end Table

end DevSecOpsPlatform.KeyedTables
