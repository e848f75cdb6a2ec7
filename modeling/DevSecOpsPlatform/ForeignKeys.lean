import DevSecOpsPlatform.KeyedTables

/-!
# Foreign keys

A column of a table may refer to the rows of another table, and a column may hold no value
twice. An insertion and an update keep this when the new values do; a deletion in the table
referred to does when the rows that refer to what is deleted go with it, or let go of it.
-/

namespace DevSecOpsPlatform.KeyedTables

variable {α β γ : Type}

/-- The table has a row under every key that is not null. -/
def Table.HasKey (u : Table β) (key : Option ℕ) : Prop :=
  ∀ k, key = some k → (u.get? k).isSome = true

instance (u : Table β) (key : Option ℕ) : Decidable (u.HasKey key) :=
  decidable_of_iff (key.all (fun k => (u.get? k).isSome) = true)
    (by cases key <;> simp [Table.HasKey])

/-- Every key of the one table is one of the other. -/
def Table.Within (u v : Table β) : Prop := ∀ k, (u.get? k).isSome = true → (v.get? k).isSome = true

theorem Table.HasKey.mono {u v : Table β} {key : Option ℕ} (h : u.HasKey key) (huv : u.Within v) :
    v.HasKey key := fun k hk => huv k (h k hk)

theorem Table.within_insert (u : Table β) (b : β) : u.Within (u.insert b) := by
  intro k hk
  obtain ⟨c, hc⟩ := Option.isSome_iff_exists.mp hk
  rw [Table.get?_insert_of_some hc]
  rfl

theorem Table.within_mapRows (u : Table β) (f : ℕ → β → β) : u.Within (u.mapRows f) := by
  intro k hk
  rw [Table.get?_mapRows, Option.isSome_map]
  exact hk

theorem Table.within_update (u : Table β) (id : ℕ) (f : β → β) : u.Within (u.update id f) :=
  u.within_mapRows _

theorem Table.within_store (u : Table β) (id : ℕ) (b : β) : u.Within (u.store id b) := by
  intro k hk
  by_cases hid : k = id
  · obtain ⟨c, hc⟩ := Option.isSome_iff_exists.mp hk
    rw [hid, Table.get?_store_self, if_pos (hid ▸ Table.lt_nextId_of_get? hc)]
    rfl
  · rw [Table.get?_store_of_ne u b hid]
    exact hk

/-! ### References -/

/-- The column of the table `t` refers to rows of the table `u`, where it is not null. -/
def References (col : α → Option ℕ) (t : Table α) (u : Table β) : Prop :=
  ∀ id a, t.get? id = some a → u.HasKey (col a)

instance (col : α → Option ℕ) (t : Table α) (u : Table β) : Decidable (References col t u) :=
  decidable_of_iff (∀ r ∈ t.rows, u.HasKey (col r.2))
    ⟨fun h id a ha => h (id, a) ((t.mem_rows_iff id a).mpr ha),
      fun h r hr => h r.1 r.2 ((t.mem_rows_iff r.1 r.2).mp hr)⟩

variable {col : α → Option ℕ} {t : Table α} {u v : Table β}

theorem References.mono (h : References col t u) (huv : u.Within v) : References col t v :=
  fun id a ha => (h id a ha).mono huv

theorem References.insert (h : References col t u) {a : α} (ha : u.HasKey (col a)) :
    References col (t.insert a) u := by
  intro id b hb
  rw [Table.get?_insert] at hb
  split at hb
  · exact Option.some.inj hb ▸ ha
  · exact h id b hb

/-- Rows may be changed into rows that refer to rows again. -/
theorem References.mapRows (h : References col t u) {f : ℕ → α → α}
    (hf : ∀ id a, u.HasKey (col a) → u.HasKey (col (f id a))) :
    References col (t.mapRows f) u := by
  intro id b hb
  rw [Table.get?_mapRows] at hb
  obtain ⟨a, ha, rfl⟩ := Option.map_eq_some_iff.mp hb
  exact hf id a (h id a ha)

theorem References.update (h : References col t u) {k : ℕ} {f : α → α}
    (hf : ∀ a, u.HasKey (col a) → u.HasKey (col (f a))) : References col (t.update k f) u := by
  refine h.mapRows fun id a ha => ?_
  split
  · exact hf a ha
  · exact ha

theorem References.updateWhere (h : References col t u) {p : ℕ → α → Bool} {f : α → α}
    (hf : ∀ a, u.HasKey (col a) → u.HasKey (col (f a))) : References col (t.updateWhere p f) u := by
  refine h.mapRows fun id a ha => ?_
  split
  · exact hf a ha
  · exact ha

theorem References.deleteWhere (h : References col t u) (p : ℕ → α → Bool) :
    References col (t.deleteWhere p) u := by
  intro id a ha
  rw [Table.get?_deleteWhere, Option.filter_eq_some_iff] at ha
  exact h id a ha.1

theorem References.store (h : References col t u) {k : ℕ} {a : α} (ha : u.HasKey (col a)) :
    References col (t.store k a) u := by
  intro id b hb
  by_cases hid : id = k
  · rw [hid, Table.get?_store_self] at hb
    split at hb
    · exact Option.some.inj hb ▸ ha
    · cases hb
  · rw [Table.get?_store_of_ne t a hid] at hb
    exact h id b hb

/-- The rows that are left refer to no row that is deleted. -/
theorem References.afterDelete (h : References col t u) {q : ℕ → β → Bool}
    (hq : ∀ id a k b, t.get? id = some a → col a = some k → u.get? k = some b → q k b = false) :
    References col t (u.deleteWhere q) := by
  intro id a ha k hk
  obtain ⟨b, hb⟩ := Option.isSome_iff_exists.mp (h id a ha k hk)
  rw [Table.get?_deleteWhere, hb, Option.filter_some, hq id a k b ha hk hb]
  rfl

/-- The rows that refer to the deleted row are deleted with it. -/
theorem References.cascade (h : References col t u) (k : ℕ) {p : ℕ → α → Bool}
    (hp : ∀ id a, col a = some k → p id a = true) :
    References col (t.deleteWhere p) (u.delete k) := by
  refine (h.deleteWhere p).afterDelete fun id a l b ha hl _ => ?_
  rw [Table.get?_deleteWhere, Option.filter_eq_some_iff] at ha
  have hkept := ha.2
  rw [beq_eq_false_iff_ne]
  rintro rfl
  simp [hp id a hl] at hkept

/-- The rows that refer to the deleted row refer to nothing afterwards. -/
theorem References.setNull (h : References col t u) (k : ℕ) {p : ℕ → α → Bool} {f : α → α}
    (hp : ∀ id a, col a = some k → p id a = true) (hf : ∀ a, col (f a) = none) :
    References col (t.updateWhere p f) (u.delete k) := by
  intro id b hb l hl
  rw [Table.get?_updateWhere] at hb
  obtain ⟨a, ha, rfl⟩ := Option.map_eq_some_iff.mp hb
  split at hl
  · simp [hf] at hl
  · rename_i hkept
    obtain ⟨c, hc⟩ := Option.isSome_iff_exists.mp (h id a ha l hl)
    have hne : l ≠ k := fun heq => hkept (hp id a (heq ▸ hl))
    rw [Table.delete, Table.get?_deleteWhere, hc, Option.filter_some]
    simp [hne]

/-! ### Values that are there once -/

/-- No two rows have the same value in the column. -/
def Distinct (col : α → γ) (t : Table α) : Prop :=
  ∀ id id' a b, t.get? id = some a → t.get? id' = some b → col a = col b → id = id'

instance [DecidableEq γ] (col : α → γ) (t : Table α) : Decidable (Distinct col t) :=
  decidable_of_iff (∀ r ∈ t.rows, ∀ s ∈ t.rows, col r.2 = col s.2 → r.1 = s.1)
    ⟨fun h id id' a b ha hb => h (id, a) ((t.mem_rows_iff id a).mpr ha) (id', b)
        ((t.mem_rows_iff id' b).mpr hb),
      fun h r hr s hs => h r.1 s.1 r.2 s.2 ((t.mem_rows_iff r.1 r.2).mp hr)
        ((t.mem_rows_iff s.1 s.2).mp hs)⟩

variable {key : α → γ}

theorem Distinct.insert (h : Distinct key t) {a : α}
    (ha : ∀ id b, t.get? id = some b → key b ≠ key a) : Distinct key (t.insert a) := by
  intro id id' b c hb hc heq
  rw [Table.get?_insert] at hb hc
  split at hb <;> split at hc
  · rename_i hid hid'
    rw [hid, hid']
  · obtain rfl := Option.some.inj hb
    exact absurd heq.symm (ha id' c hc)
  · obtain rfl := Option.some.inj hc
    exact absurd heq (ha id b hb)
  · exact h id id' b c hb hc heq

theorem Distinct.mapRows (h : Distinct key t) {f : ℕ → α → α}
    (hf : ∀ id a, key (f id a) = key a) : Distinct key (t.mapRows f) := by
  intro id id' b c hb hc heq
  rw [Table.get?_mapRows] at hb hc
  obtain ⟨a, ha, rfl⟩ := Option.map_eq_some_iff.mp hb
  obtain ⟨d, hd, rfl⟩ := Option.map_eq_some_iff.mp hc
  rw [hf, hf] at heq
  exact h id id' a d ha hd heq

theorem Distinct.update (h : Distinct key t) {k : ℕ} {f : α → α} (hf : ∀ a, key (f a) = key a) :
    Distinct key (t.update k f) := by
  refine h.mapRows fun id a => ?_
  split
  · exact hf a
  · rfl

theorem Distinct.deleteWhere (h : Distinct key t) (p : ℕ → α → Bool) :
    Distinct key (t.deleteWhere p) := by
  intro id id' b c hb hc
  rw [Table.get?_deleteWhere, Option.filter_eq_some_iff] at hb hc
  exact h id id' b c hb.1 hc.1

theorem Distinct.store (h : Distinct key t) {k : ℕ} {a : α}
    (ha : ∀ id b, id ≠ k → t.get? id = some b → key b ≠ key a) : Distinct key (t.store k a) := by
  intro id id' b c hb hc heq
  by_cases hid : id = k <;> by_cases hid' : id' = k
  · rw [hid, hid']
  · rw [hid, Table.get?_store_self] at hb
    rw [Table.get?_store_of_ne t a hid'] at hc
    split at hb
    · obtain rfl := Option.some.inj hb
      exact absurd heq.symm (ha id' c hid' hc)
    · cases hb
  · rw [hid', Table.get?_store_self] at hc
    rw [Table.get?_store_of_ne t a hid] at hb
    split at hc
    · obtain rfl := Option.some.inj hc
      exact absurd heq (ha id b hid hb)
    · cases hc
  · rw [Table.get?_store_of_ne t a hid] at hb
    rw [Table.get?_store_of_ne t a hid'] at hc
    exact h id id' b c hb hc heq

/-! ### Values that are not there -/

/-- No row has the value in the column. -/
def Lacks (col : α → γ) (v : γ) (t : Table α) : Prop := ∀ r ∈ t.rows, col r.2 ≠ v

instance [DecidableEq γ] (col : α → γ) (v : γ) (t : Table α) : Decidable (Lacks col v t) :=
  inferInstanceAs (Decidable (∀ r ∈ t.rows, col r.2 ≠ v))

variable {v : γ}

theorem Lacks.insert (h : Lacks key v t) {a : α} (ha : key a ≠ v) : Lacks key v (t.insert a) := by
  intro r hr
  rcases List.mem_append.mp hr with hr | hr
  · exact h r hr
  · obtain rfl := List.mem_singleton.mp hr
    exact ha

theorem Lacks.mapRows (h : Lacks key v t) {f : ℕ → α → α} (hf : ∀ id a, key (f id a) = key a) :
    Lacks key v (t.mapRows f) := by
  intro r hr
  obtain ⟨s, hs, rfl⟩ := List.mem_map.mp hr
  rw [hf]
  exact h s hs

theorem Lacks.update (h : Lacks key v t) {k : ℕ} {f : α → α} (hf : ∀ a, key (f a) = key a) :
    Lacks key v (t.update k f) := by
  refine h.mapRows fun id a => ?_
  split
  · exact hf a
  · rfl

theorem Lacks.updateWhere (h : Lacks key v t) {p : ℕ → α → Bool} {f : α → α}
    (hf : ∀ a, key (f a) = key a) : Lacks key v (t.updateWhere p f) := by
  refine h.mapRows fun id a => ?_
  split
  · exact hf a
  · rfl

theorem Lacks.deleteWhere (h : Lacks key v t) (p : ℕ → α → Bool) :
    Lacks key v (t.deleteWhere p) := fun r hr => h r (List.mem_of_mem_filter hr)

theorem Lacks.get? (h : Lacks key v t) {id : ℕ} {a : α} (ha : t.get? id = some a) : key a ≠ v :=
  h (id, a) ((t.mem_rows_iff id a).mpr ha)

/-! ### Keys that had a row -/

/-- The key has been given and has no row. -/
def Table.Gone (t : Table α) (id : ℕ) : Prop := t.get? id = none ∧ id < t.nextId

instance (t : Table α) (id : ℕ) : Decidable (t.Gone id) :=
  decidable_of_iff ((t.get? id).isNone = true ∧ id < t.nextId) (by
    rw [Option.isNone_iff_eq_none, Table.Gone])

theorem Table.Gone.insert {id : ℕ} (h : t.Gone id) (a : α) : (t.insert a).Gone id := by
  refine ⟨?_, Nat.lt_succ_of_lt h.2⟩
  rw [Table.get?_insert, if_neg (Nat.ne_of_lt h.2)]
  exact h.1

theorem Table.Gone.mapRows {id : ℕ} (h : t.Gone id) (f : ℕ → α → α) : (t.mapRows f).Gone id := by
  refine ⟨?_, h.2⟩
  rw [Table.get?_mapRows, h.1]
  rfl

theorem Table.Gone.deleteWhere {id : ℕ} (h : t.Gone id) (p : ℕ → α → Bool) :
    (t.deleteWhere p).Gone id := by
  refine ⟨?_, h.2⟩
  rw [Table.get?_deleteWhere, h.1]
  rfl

theorem Table.nextId_store (t : Table α) (k : ℕ) (a : α) : (t.store k a).nextId = t.nextId := by
  unfold Table.store Table.put
  split
  · rfl
  · split <;> rfl

theorem Table.Gone.store {id k : ℕ} (h : t.Gone id) (hk : id ≠ k) (a : α) :
    (t.store k a).Gone id := by
  refine ⟨?_, ?_⟩
  · rw [Table.get?_store_of_ne t a hk]
    exact h.1
  · rw [Table.nextId_store]
    exact h.2

/-- Nothing refers to a row that is gone. -/
theorem References.lacks (h : References col t u) {k : ℕ} (hk : u.Gone k) :
    Lacks col (some k) t := by
  intro r hr hcol
  have hget := h r.1 r.2 ((t.mem_rows_iff r.1 r.2).mp hr) k hcol
  simp [hk.1] at hget

end DevSecOpsPlatform.KeyedTables
