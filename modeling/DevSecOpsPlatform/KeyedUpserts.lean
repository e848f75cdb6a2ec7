import DevSecOpsPlatform.KeyedTables
import Mathlib.Data.Finset.Card
import Mathlib.Data.Finset.Dedup
import Mathlib.Logic.Function.Basic

/-!
# Keyed upserts

A table's rows have keys. An upsert of a value modifies the row that has its key, or inserts
a row when its key has none. When an upsert writes some columns, and the key is one of them, a
sequence of upserts is on these columns a sequence of writes to a map: the last write of a key
stands, and writes of other keys may come in any order.
-/

namespace DevSecOpsPlatform.KeyedUpserts

open KeyedTables

/-! ### Writes to a map -/

section

variable {F K : Type} [DecidableEq K] (key : F → K)

def write (m : K → Option F) (f : F) : K → Option F := Function.update m (key f) (some f)

def writeAll (m : K → Option F) (fs : List F) : K → Option F := fs.foldl (write key) m

/-- The last value with the key. -/
def last (fs : List F) (k : K) : Option F := fs.reverse.find? (fun f => key f = k)

variable {key}

theorem last_cons (f : F) (fs : List F) (k : K) :
    last key (f :: fs) k = (last key fs k).or (if key f = k then some f else none) := by
  rw [last, List.reverse_cons, List.find?_append, List.find?_singleton]
  simp [last]

theorem last_eq_none {fs : List F} {k : K} : last key fs k = none ↔ ∀ f ∈ fs, key f ≠ k := by
  simp [last]

theorem key_of_last {fs : List F} {k : K} {f : F} (h : last key fs k = some f) :
    f ∈ fs ∧ key f = k := by
  have hkey := List.find?_some h
  exact ⟨List.mem_reverse.mp (List.mem_of_find?_eq_some h), by simpa using hkey⟩

/-- The last value with its key. -/
theorem last_append_cons {before after : List F} {f : F} (h : ∀ g ∈ after, key g ≠ key f) :
    last key (before ++ f :: after) (key f) = some f := by
  have hafter : last key after (key f) = none := last_eq_none.mpr h
  induction before with
  | nil => rw [List.nil_append, last_cons, hafter, if_pos rfl, Option.none_or]
  | cons b before ih => rw [List.cons_append, last_cons, ih, Option.some_or]

theorem writeAll_apply (m : K → Option F) (fs : List F) (k : K) :
    writeAll key m fs k = (last key fs k).or (m k) := by
  induction fs generalizing m with
  | nil => rfl
  | cons f fs ih =>
    have hrest : writeAll key m (f :: fs) k = writeAll key (write key m f) fs k := rfl
    rw [hrest, ih, last_cons, write, Function.update_apply]
    by_cases hk : key f = k
    · subst hk
      cases last key fs (key f) <;> simp
    · rw [if_neg hk, if_neg (Ne.symm hk), Option.or_none]

/-- Writes of other keys may come before or after. -/
theorem writeAll_comm (m : K → Option F) {fs gs : List F}
    (h : ∀ f ∈ fs, ∀ g ∈ gs, key f ≠ key g) :
    writeAll key (writeAll key m fs) gs = writeAll key (writeAll key m gs) fs := by
  funext k
  simp only [writeAll_apply]
  cases hf : last key fs k with
  | none => simp
  | some f =>
    obtain ⟨hmem, rfl⟩ := key_of_last hf
    have hg : last key gs (key f) = none := last_eq_none.mpr fun g hg => (h f hmem g hg).symm
    simp [hg]

end

/-! ### Upserts -/

/-- How a value is upserted: the row that it creates, and what it makes of a row. -/
structure Upserts (α β K : Type) where
  key : α → K
  create : β → α
  modify : β → α → α
  key_modify : ∀ b a, key a = key (create b) → key (modify b a) = key a

namespace Upserts

variable {α β K : Type} [DecidableEq K] (u : Upserts α β K)

def keyOf (b : β) : K := u.key (u.create b)

def rowsOf (t : Table α) (k : K) : List (ℕ × α) := t.select (fun _ a => u.key a == k)

/-- Modify the row that has the key of the value, or insert one: whether a row was inserted,
and the table after. -/
def upsert (t : Table α) (b : β) : Bool × Table α :=
  match u.rowsOf t (u.keyOf b) with
  | [] => (true, t.insert (u.create b))
  | (id, _) :: _ => (false, t.update id (u.modify b))

/-- The upserts one after the other: how many rows were inserted, and the table after. -/
def upsertAll (t : Table α) : List β → ℕ × Table α
  | [] => (0, t)
  | b :: bs =>
    ((upsertAll (u.upsert t b).2 bs).1 + (u.upsert t b).1.toNat, (upsertAll (u.upsert t b).2 bs).2)

/-- At most one row has the key of each of the values. -/
def UniqueFor (t : Table α) (bs : List β) : Prop :=
  ∀ b ∈ bs, (u.rowsOf t (u.keyOf b)).length ≤ 1

/-- A row after an upsert. -/
def touch (a : α) (b : β) : α := if u.key a = u.keyOf b then u.modify b a else a

/-- A row after a sequence of upserts. -/
def rewrite (bs : List β) (a : α) : α := bs.foldl u.touch a

variable {u} {t : Table α} {a : α} {b : β} {bs : List β} {id : ℕ} {k : K}

theorem mem_rowsOf : (id, a) ∈ u.rowsOf t k ↔ t.get? id = some a ∧ u.key a = k := by
  simp [rowsOf, Table.mem_select]

theorem rowsOf_eq_singleton (h : (u.rowsOf t k).length ≤ 1) (ha : (id, a) ∈ u.rowsOf t k) :
    u.rowsOf t k = [(id, a)] := by
  obtain ⟨r, hr⟩ := List.length_eq_one_iff.mp (Nat.le_antisymm h (List.length_pos_of_mem ha))
  rw [hr, List.mem_singleton] at ha
  rw [hr, ha]

/-- When no two rows share a key, a key has at most one row. -/
theorem length_rowsOf_of_unique (h : ∀ id id' a a', t.get? id = some a → t.get? id' = some a' →
    u.key a = u.key a' → id = id') (k : K) : (u.rowsOf t k).length ≤ 1 := by
  have hkeys := Table.select_nodup t (fun _ a => u.key a == k)
  match hrows : u.rowsOf t k with
  | [] => simp
  | [_] => simp
  | (id, a) :: (id', a') :: _ =>
    have hmem : (id, a) ∈ u.rowsOf t k ∧ (id', a') ∈ u.rowsOf t k := by simp [hrows]
    obtain ⟨hget, hk⟩ := mem_rowsOf.mp hmem.1
    obtain ⟨hget', hk'⟩ := mem_rowsOf.mp hmem.2
    have heq := h id id' a a' hget hget' (hk.trans hk'.symm)
    rw [rowsOf] at hrows
    simp [hrows, heq] at hkeys

@[simp] theorem key_touch (u : Upserts α β K) (a : α) (b : β) :
    u.key (u.touch a b) = u.key a := by
  unfold touch
  split
  · rename_i hk
    exact u.key_modify b a hk
  · rfl

theorem touch_of_ne (h : u.key a ≠ u.keyOf b) : u.touch a b = a := if_neg h

theorem rewrite_cons (b : β) (bs : List β) (a : α) :
    u.rewrite (b :: bs) a = u.rewrite bs (u.touch a b) := rfl

@[simp] theorem key_rewrite (bs : List β) (a : α) : u.key (u.rewrite bs a) = u.key a := by
  induction bs generalizing a with
  | nil => rfl
  | cons b bs ih => rw [rewrite_cons, ih, key_touch]

/-- A row that the values of its key leave as it is stays. -/
theorem rewrite_eq_self (h : ∀ b ∈ bs, u.key a = u.keyOf b → u.modify b a = a) :
    u.rewrite bs a = a := by
  induction bs with
  | nil => rfl
  | cons b bs ih =>
    obtain ⟨hb, hbs⟩ := List.forall_mem_cons.mp h
    have htouch : u.touch a b = a := by
      rw [touch]
      split
      · rename_i hk
        exact hb hk
      · rfl
    rw [rewrite_cons, htouch, ih hbs]

/-- The rows of no value's key stay. -/
theorem rewrite_of_absent (h : ∀ b ∈ bs, u.keyOf b ≠ u.key a) : u.rewrite bs a = a :=
  rewrite_eq_self fun b hb hk => absurd hk.symm (h b hb)

/-- Among values of different keys, the one with the key of a row modifies it. -/
theorem rewrite_of_mem (hnodup : (bs.map u.keyOf).Nodup) (hb : b ∈ bs) (hk : u.keyOf b = u.key a) :
    u.rewrite bs a = u.modify b a := by
  induction bs with
  | nil => cases hb
  | cons c bs ih =>
    obtain ⟨hc, hrest⟩ := List.nodup_cons.mp hnodup
    rw [rewrite_cons]
    rcases List.mem_cons.mp hb with rfl | hb
    · have htouch : u.touch a b = u.modify b a := if_pos hk.symm
      rw [htouch, rewrite_of_absent]
      intro d hd hkey
      rw [u.key_modify b a hk.symm, ← hk] at hkey
      exact hc (hkey ▸ List.mem_map_of_mem hd)
    · have hne : u.key a ≠ u.keyOf c := by
        intro hkey
        exact hc (hkey ▸ hk ▸ List.mem_map_of_mem hb)
      rw [touch_of_ne hne, ih hrest hb]

/-! ### One upsert -/

/-- An upsert of a value whose key has no row. -/
theorem upsert_of_nil (h : u.rowsOf t (u.keyOf b) = []) :
    u.upsert t b = (true, t.insert (u.create b)) := by
  simp [upsert, h]

/-- An upsert of a value whose key has a row, which is modified in its place. -/
theorem upsert_of_present (hone : (u.rowsOf t (u.keyOf b)).length ≤ 1)
    (h : u.rowsOf t (u.keyOf b) ≠ []) :
    u.upsert t b = (false, t.mapRows (fun _ a => u.touch a b)) := by
  obtain ⟨⟨id, a⟩, ha⟩ := List.exists_mem_of_ne_nil _ h
  have hrows := rowsOf_eq_singleton hone ha
  obtain ⟨hget, hkey⟩ := mem_rowsOf.mp ha
  have hmap : t.update id (u.modify b) = t.mapRows (fun _ a => u.touch a b) := by
    rw [Table.update]
    refine Table.mapRows_congr fun k e he => ?_
    by_cases hk : u.key e = u.keyOf b
    · have hmem := mem_rowsOf.mpr ⟨he, hk⟩
      rw [hrows, List.mem_singleton] at hmem
      rw [touch, if_pos hk, if_pos (Prod.mk.inj hmem).1]
    · have hne : k ≠ id := by
        rintro rfl
        exact hk (Option.some.inj (hget.symm.trans he) ▸ hkey)
      rw [touch, if_neg hk, if_neg hne]
  rw [upsert, hrows, ← hmap]

/-- A row map that keeps the keys keeps the rows of every key. -/
theorem rowsOf_mapRows {f : α → α} (h : ∀ a, u.key (f a) = u.key a) (k : K) :
    u.rowsOf (t.mapRows (fun _ => f)) k = (u.rowsOf t k).map (fun r => (r.1, f r.2)) := by
  rw [rowsOf, Table.select_mapRows, rowsOf]
  exact congrArg _ (Table.select_congr fun id a _ => by rw [h a])

theorem rowsOf_insert (a : α) (k : K) :
    u.rowsOf (t.insert a) k = u.rowsOf t k ++ if u.key a = k then [(t.nextId, a)] else [] := by
  rw [rowsOf, Table.select_insert]
  simp [rowsOf]

/-- An upsert leaves the rows of every other key. -/
theorem rowsOf_upsert_of_ne (hone : (u.rowsOf t (u.keyOf b)).length ≤ 1) (hk : k ≠ u.keyOf b) :
    u.rowsOf (u.upsert t b).2 k = u.rowsOf t k := by
  by_cases h : u.rowsOf t (u.keyOf b) = []
  · have hne : u.key (u.create b) ≠ k := Ne.symm hk
    rw [upsert_of_nil h, rowsOf_insert, if_neg hne, List.append_nil]
  · rw [upsert_of_present hone h, rowsOf_mapRows fun a => u.key_touch a b]
    have hself : ∀ r ∈ u.rowsOf t k, (r.1, u.touch r.2 b) = r := by
      intro r hr
      have hkey := (mem_rowsOf.mp hr).2
      rw [touch_of_ne (hkey ▸ hk)]
    rw [List.map_congr_left hself, List.map_id']

/-- An upsert leaves one row of its key: the one that it creates, or the one it modifies. -/
theorem rowsOf_upsert_self (hone : (u.rowsOf t (u.keyOf b)).length ≤ 1) :
    ∃ id a, u.rowsOf (u.upsert t b).2 (u.keyOf b) = [(id, a)] ∧
      (a = u.create b ∨ ∃ old, a = u.modify b old) := by
  by_cases h : u.rowsOf t (u.keyOf b) = []
  · rw [upsert_of_nil h, rowsOf_insert, h]
    exact ⟨t.nextId, u.create b, if_pos rfl, .inl rfl⟩
  · obtain ⟨⟨id, old⟩, hold⟩ := List.exists_mem_of_ne_nil _ h
    have hkey := (mem_rowsOf.mp hold).2
    rw [upsert_of_present hone h, rowsOf_mapRows fun a => u.key_touch a b,
      rowsOf_eq_singleton hone hold]
    exact ⟨id, u.touch old b, rfl, .inr ⟨old, if_pos hkey⟩⟩

/-- What an upsert makes of a row that is there. -/
theorem get?_upsert_of_some (hone : (u.rowsOf t (u.keyOf b)).length ≤ 1)
    (ha : t.get? id = some a) : (u.upsert t b).2.get? id = some (u.touch a b) := by
  by_cases h : u.rowsOf t (u.keyOf b) = []
  · have hne : u.key a ≠ u.keyOf b := fun hk => by
      simpa [h] using mem_rowsOf.mpr ⟨ha, hk⟩
    rw [upsert_of_nil h, Table.get?_insert_of_some ha, touch_of_ne hne]
  · rw [upsert_of_present hone h, Table.get?_mapRows, ha]
    rfl

/-- A row that an upsert leaves was there, or is the one that it creates. -/
theorem get?_upsert (hone : (u.rowsOf t (u.keyOf b)).length ≤ 1)
    (h : (u.upsert t b).2.get? id = some a) :
    (∃ old, t.get? id = some old ∧ a = u.touch old b) ∨
      u.rowsOf t (u.keyOf b) = [] ∧ a = u.create b := by
  cases hold : t.get? id with
  | some old =>
    rw [get?_upsert_of_some hone hold] at h
    exact .inl ⟨old, rfl, (Option.some.inj h).symm⟩
  | none =>
    right
    by_cases hnil : u.rowsOf t (u.keyOf b) = []
    · rw [upsert_of_nil hnil, Table.get?_insert, hold] at h
      exact ⟨hnil, (Option.some.inj (Option.ite_none_right_eq_some.mp h).2).symm⟩
    · rw [upsert_of_present hone hnil, Table.get?_mapRows, hold] at h
      cases h

theorem length_upsert (t : Table α) (b : β) :
    (u.upsert t b).2.rows.length = t.rows.length + (u.upsert t b).1.toNat := by
  unfold upsert
  split
  · exact List.length_append
  · exact List.length_map ..

/-! ### Sequences of upserts -/

theorem uniqueFor_cons :
    u.UniqueFor t (b :: bs) ↔
      (u.rowsOf t (u.keyOf b)).length ≤ 1 ∧ u.UniqueFor (u.upsert t b).2 bs := by
  rw [UniqueFor, List.forall_mem_cons]
  refine and_congr_right fun hone => forall₂_congr fun c _ => ?_
  by_cases hk : u.keyOf c = u.keyOf b
  · obtain ⟨id, a, hrow, -⟩ := rowsOf_upsert_self hone
    rw [hk, hrow]
    exact iff_of_true hone (Nat.le_refl 1)
  · rw [rowsOf_upsert_of_ne hone hk]

theorem uniqueFor_append {cs : List β} :
    u.UniqueFor t (bs ++ cs) ↔ u.UniqueFor t bs ∧ u.UniqueFor (u.upsertAll t bs).2 cs := by
  induction bs generalizing t with
  | nil => exact (and_iff_right fun _ hb => (by cases hb)).symm
  | cons b bs ih => rw [List.cons_append, uniqueFor_cons, uniqueFor_cons, ih, and_assoc, upsertAll]

theorem upsertAll_append (t : Table α) (bs cs : List β) :
    (u.upsertAll t (bs ++ cs)).2 = (u.upsertAll (u.upsertAll t bs).2 cs).2 := by
  induction bs generalizing t with
  | nil => rfl
  | cons b bs ih => rw [List.cons_append, upsertAll, ih, upsertAll]

/-- The rows of the other keys. -/
theorem rowsOf_upsertAll_of_absent (h : u.UniqueFor t bs) (hk : ∀ b ∈ bs, u.keyOf b ≠ k) :
    u.rowsOf (u.upsertAll t bs).2 k = u.rowsOf t k := by
  induction bs generalizing t with
  | nil => rfl
  | cons b bs ih =>
    obtain ⟨hone, hrest⟩ := uniqueFor_cons.mp h
    obtain ⟨hb, hbs⟩ := List.forall_mem_cons.mp hk
    rw [upsertAll, ih hrest hbs, rowsOf_upsert_of_ne hone hb.symm]

theorem length_rowsOf_upsert (hone : (u.rowsOf t (u.keyOf b)).length ≤ 1)
    (hk : (u.rowsOf t k).length ≤ 1) : (u.rowsOf (u.upsert t b).2 k).length ≤ 1 := by
  by_cases hkey : k = u.keyOf b
  · obtain ⟨id, a, hrow, -⟩ := rowsOf_upsert_self hone
    rw [hkey, hrow]
    exact Nat.le_refl 1
  · rw [rowsOf_upsert_of_ne hone hkey]
    exact hk

theorem length_rowsOf_upsertAll (h : u.UniqueFor t bs) (hk : (u.rowsOf t k).length ≤ 1) :
    (u.rowsOf (u.upsertAll t bs).2 k).length ≤ 1 := by
  induction bs generalizing t with
  | nil => exact hk
  | cons b bs ih =>
    obtain ⟨hone, hrest⟩ := uniqueFor_cons.mp h
    exact ih hrest (length_rowsOf_upsert hone hk)

/-- A row that is there keeps its place. -/
theorem get?_upsertAll_of_some (h : u.UniqueFor t bs) (ha : t.get? id = some a) :
    (u.upsertAll t bs).2.get? id = some (u.rewrite bs a) := by
  induction bs generalizing t a with
  | nil => exact ha
  | cons b bs ih =>
    obtain ⟨hone, hrest⟩ := uniqueFor_cons.mp h
    exact ih hrest (get?_upsert_of_some hone ha)

/-- A row after the upserts was there, or a value created it whose key had no row. -/
theorem get?_upsertAll (h : u.UniqueFor t bs) (ha : (u.upsertAll t bs).2.get? id = some a) :
    (∃ old, t.get? id = some old ∧ a = u.rewrite bs old) ∨
      ∃ before b after, bs = before ++ b :: after ∧ a = u.rewrite after (u.create b) := by
  induction bs generalizing t with
  | nil => exact .inl ⟨a, ha, rfl⟩
  | cons b bs ih =>
    obtain ⟨hone, hrest⟩ := uniqueFor_cons.mp h
    rcases ih hrest ha with ⟨c, hc, rfl⟩ | ⟨before, c, after, rfl, rfl⟩
    · rcases get?_upsert hone hc with ⟨old, hold, rfl⟩ | ⟨-, rfl⟩
      · exact .inl ⟨old, hold, rfl⟩
      · exact .inr ⟨[], b, bs, rfl, rfl⟩
    · exact .inr ⟨b :: before, c, after, rfl, rfl⟩

theorem length_upsertAll (t : Table α) (bs : List β) :
    (u.upsertAll t bs).2.rows.length = t.rows.length + (u.upsertAll t bs).1 := by
  induction bs generalizing t with
  | nil => rfl
  | cons b bs ih =>
    rw [upsertAll, ih, length_upsert]
    omega

/-- Every key that was written has a row. -/
theorem exists_rowsOf_upsertAll (h : u.UniqueFor t bs) (hb : b ∈ bs) :
    ∃ id a, u.rowsOf (u.upsertAll t bs).2 (u.keyOf b) = [(id, a)] := by
  induction bs generalizing t with
  | nil => cases hb
  | cons c bs ih =>
    obtain ⟨hone, hrest⟩ := uniqueFor_cons.mp h
    by_cases hmem : b ∈ bs
    · exact ih hrest hmem
    · obtain rfl : b = c := (List.mem_cons.mp hb).resolve_right hmem
      obtain ⟨id, a, hrow, -⟩ := rowsOf_upsert_self hone
      have ha : (id, a) ∈ u.rowsOf (u.upsert t b).2 (u.keyOf b) := by simp [hrow]
      obtain ⟨hget, hkey⟩ := mem_rowsOf.mp ha
      have hlast := get?_upsertAll_of_some hrest hget
      have hlength := length_rowsOf_upsertAll hrest (k := u.keyOf b) (by simp [hrow])
      exact ⟨id, u.rewrite bs a, rowsOf_eq_singleton hlength
        (mem_rowsOf.mpr ⟨hlast, (key_rewrite bs a).trans hkey⟩)⟩

/-- The rows that are inserted are one for each key that has none. -/
theorem fst_upsertAll (h : u.UniqueFor t bs) :
    (u.upsertAll t bs).1 =
      ((bs.map u.keyOf).toFinset.filter (fun k => u.rowsOf t k = [])).card := by
  induction bs generalizing t with
  | nil => rfl
  | cons b bs ih =>
    obtain ⟨hone, hrest⟩ := uniqueFor_cons.mp h
    obtain ⟨id, a, hrow, -⟩ := rowsOf_upsert_self hone
    have hsame (k : K) (hk : k ≠ u.keyOf b) :
        u.rowsOf (u.upsert t b).2 k = u.rowsOf t k := rowsOf_upsert_of_ne hone hk
    have hself : u.rowsOf (u.upsert t b).2 (u.keyOf b) ≠ [] := by simp [hrow]
    rw [upsertAll, ih hrest, List.map_cons, List.toFinset_cons]
    by_cases hnil : u.rowsOf t (u.keyOf b) = []
    · have hsplit : (insert (u.keyOf b) (bs.map u.keyOf).toFinset).filter
            (fun k => u.rowsOf t k = []) = insert (u.keyOf b)
            ((bs.map u.keyOf).toFinset.filter (fun k => u.rowsOf (u.upsert t b).2 k = [])) := by
        ext k
        by_cases hk : k = u.keyOf b
        · simp [hk, hnil]
        · simp [hk, hsame k hk]
      rw [hsplit, Finset.card_insert_of_notMem (by simp [hself]), upsert_of_nil hnil]
      rfl
    · have hsplit : (insert (u.keyOf b) (bs.map u.keyOf).toFinset).filter
            (fun k => u.rowsOf t k = []) =
            (bs.map u.keyOf).toFinset.filter (fun k => u.rowsOf (u.upsert t b).2 k = []) := by
        ext k
        by_cases hk : k = u.keyOf b
        · simp [hk, hnil, hself]
        · simp [hk, hsame k hk]
      rw [hsplit, upsert_of_present hone hnil]
      rfl

/-- When every key has its row, the rows are modified in their places. -/
theorem upsertAll_of_present (h : u.UniqueFor t bs)
    (hrows : ∀ b ∈ bs, u.rowsOf t (u.keyOf b) ≠ []) :
    u.upsertAll t bs = (0, t.mapRows (fun _ => u.rewrite bs)) := by
  induction bs generalizing t with
  | nil => exact congrArg _ (Table.mapRows_eq_self fun _ _ _ => rfl).symm
  | cons b bs ih =>
    obtain ⟨hone, hrest⟩ := uniqueFor_cons.mp h
    obtain ⟨hb, hbs⟩ := List.forall_mem_cons.mp hrows
    rw [upsert_of_present hone hb] at hrest
    have hstay (c : β) (hc : c ∈ bs) :
        u.rowsOf (t.mapRows (fun _ a => u.touch a b)) (u.keyOf c) ≠ [] := by
      rw [rowsOf_mapRows fun a => u.key_touch a b]
      exact fun hnil => hbs c hc (List.map_eq_nil_iff.mp hnil)
    rw [upsertAll, upsert_of_present hone hb, ih hrest hstay, Table.mapRows_mapRows]
    rfl

/-- The upserts leave one row for each of their keys. -/
theorem uniqueFor_again (h : u.UniqueFor t bs) {cs : List β}
    (hkeys : ∀ c ∈ cs, ∃ b ∈ bs, u.keyOf b = u.keyOf c) :
    u.UniqueFor (u.upsertAll t bs).2 cs := by
  intro c hc
  obtain ⟨b, hb, hkey⟩ := hkeys c hc
  obtain ⟨id, a, hrow⟩ := exists_rowsOf_upsertAll h hb
  simp [← hkey, hrow]

/-- Upserts of the same keys that leave every row as it is insert nothing and change nothing. -/
theorem upsertAll_again (h : u.UniqueFor t bs) {cs : List β}
    (hkeys : ∀ c ∈ cs, ∃ b ∈ bs, u.keyOf b = u.keyOf c)
    (hfix : ∀ id a, (u.upsertAll t bs).2.get? id = some a → u.rewrite cs a = a) :
    u.upsertAll (u.upsertAll t bs).2 cs = (0, (u.upsertAll t bs).2) := by
  have hpresent (c : β) (hc : c ∈ cs) : u.rowsOf (u.upsertAll t bs).2 (u.keyOf c) ≠ [] := by
    obtain ⟨b, hb, hkey⟩ := hkeys c hc
    obtain ⟨id, a, hrow⟩ := exists_rowsOf_upsertAll h hb
    simp [← hkey, hrow]
  rw [upsertAll_of_present (uniqueFor_again h hkeys) hpresent,
    Table.mapRows_eq_self fun id a ha => hfix id a ha]

/-- Upserts of other keys do not matter to the rows of a key. -/
theorem uniqueFor_upsertAll_iff (h : u.UniqueFor t bs) {cs : List β}
    (hne : ∀ b ∈ bs, ∀ c ∈ cs, u.keyOf b ≠ u.keyOf c) :
    u.UniqueFor (u.upsertAll t bs).2 cs ↔ u.UniqueFor t cs := by
  refine forall₂_congr fun c hc => ?_
  rw [rowsOf_upsertAll_of_absent h fun b hb => hne b hb c hc]

end Upserts

/-! ### Columns that are written together -/

/-- Columns of a row that are read and written together, past the other columns, with the key
that they give the row. -/
structure Columns (α F K : Type) where
  get : α → F
  put : F → α → α
  key : F → K
  get_put : ∀ f a, get (put f a) = f
  put_get : ∀ a, put (get a) a = a
  put_put : ∀ f g a, put f (put g a) = put f a

namespace Columns

variable {α F K : Type} [DecidableEq K] (c : Columns α F K)

/-- The upserts of rows of which only the columns are written to a row that is there. -/
def upserts : Upserts α α K where
  key a := c.key (c.get a)
  create a := a
  modify new := c.put (c.get new)
  key_modify new a h := by rw [c.get_put, h]

/-- The columns that the table holds under a key. -/
def view (t : Table α) (k : K) : Option F :=
  (c.upserts.rowsOf t k).head?.map (fun r => c.get r.2)

variable {c} {t : Table α} {news : List α} {k : K}

theorem view_of_singleton {id : ℕ} {a : α} (h : c.upserts.rowsOf t k = [(id, a)]) :
    c.view t k = some (c.get a) := by
  simp [view, h]

theorem touch_eq (a new : α) :
    c.upserts.touch a new =
      if c.key (c.get new) = c.key (c.get a) then c.put (c.get new) a else a := by
  by_cases hk : c.key (c.get new) = c.key (c.get a)
  · rw [if_pos hk]
    exact if_pos hk.symm
  · rw [if_neg hk]
    exact if_neg (Ne.symm hk)

/-- The columns of a row after the upserts are those of the last new row with its key. -/
theorem rewrite_eq (news : List α) (a : α) :
    c.upserts.rewrite news a =
      (last c.key (news.map c.get) (c.key (c.get a))).elim a (fun f => c.put f a) := by
  induction news generalizing a with
  | nil => rfl
  | cons new news ih =>
    have hkey : c.key (c.get (c.upserts.touch a new)) = c.key (c.get a) :=
      c.upserts.key_touch a new
    rw [Upserts.rewrite_cons, ih, hkey, touch_eq, List.map_cons, last_cons]
    cases last c.key (news.map c.get) (c.key (c.get a)) with
    | none =>
      rw [Option.none_or, Option.elim_none]
      split <;> rfl
    | some f =>
      rw [Option.some_or, Option.elim_some, Option.elim_some]
      split
      · exact c.put_put f (c.get new) a
      · rfl

/-- A condition on the columns that every row meets is met by every row after an upsert exactly
when the new columns meet it. -/
theorem forall_upsert_iff {P : F → Prop} {new : α}
    (hone : (c.upserts.rowsOf t (c.key (c.get new))).length ≤ 1)
    (h : ∀ id a, t.get? id = some a → P (c.get a)) :
    (∀ id a, (c.upserts.upsert t new).2.get? id = some a → P (c.get a)) ↔ P (c.get new) := by
  constructor
  · intro hall
    obtain ⟨id, a, hrow, ha⟩ := Upserts.rowsOf_upsert_self (u := c.upserts) hone
    have hget : c.get a = c.get new := by
      rcases ha with rfl | ⟨old, rfl⟩
      · rfl
      · exact c.get_put _ _
    have hmem : (id, a) ∈ c.upserts.rowsOf (c.upserts.upsert t new).2 (c.upserts.keyOf new) := by
      rw [hrow]
      exact List.mem_singleton_self _
    exact hget ▸ hall id a (Upserts.mem_rowsOf.mp hmem).1
  · intro hnew id a ha
    rcases Upserts.get?_upsert (u := c.upserts) hone ha with ⟨old, hold, rfl⟩ | ⟨-, rfl⟩
    · rw [touch_eq]
      split
      · rw [c.get_put]
        exact hnew
      · exact h id old hold
    · exact hnew

/-- On the columns, an upsert is a write. -/
theorem view_upsert {new : α} (hone : (c.upserts.rowsOf t (c.key (c.get new))).length ≤ 1) :
    c.view (c.upserts.upsert t new).2 = write c.key (c.view t) (c.get new) := by
  funext k
  rw [write, Function.update_apply]
  by_cases hk : k = c.key (c.get new)
  · obtain ⟨id, a, hrow, ha⟩ := Upserts.rowsOf_upsert_self (u := c.upserts) hone
    have hget : c.get a = c.get new := by
      rcases ha with rfl | ⟨old, rfl⟩
      · rfl
      · exact c.get_put _ _
    have hkey : c.upserts.keyOf new = c.key (c.get a) := congrArg c.key hget.symm
    rw [if_pos hk, hk, ← hget]
    exact view_of_singleton (hkey ▸ hrow)
  · rw [if_neg hk, view, Upserts.rowsOf_upsert_of_ne hone hk]
    rfl

/-- On the columns, a sequence of upserts is a sequence of writes. -/
theorem view_upsertAll (h : c.upserts.UniqueFor t news) :
    c.view (c.upserts.upsertAll t news).2 = writeAll c.key (c.view t) (news.map c.get) := by
  induction news generalizing t with
  | nil => rfl
  | cons new news ih =>
    obtain ⟨hone, hrest⟩ := Upserts.uniqueFor_cons.mp h
    have hview : c.view (c.upserts.upsert t new).2 = write c.key (c.view t) (c.get new) :=
      view_upsert hone
    rw [Upserts.upsertAll, ih hrest, hview]
    rfl

/-- The columns of the last new row of a key stand in its one row. -/
theorem rowsOf_upsertAll_of_last (h : c.upserts.UniqueFor t news) {f : F}
    (hlast : last c.key (news.map c.get) k = some f) :
    ∃ id a, c.upserts.rowsOf (c.upserts.upsertAll t news).2 k = [(id, a)] ∧ c.get a = f := by
  obtain ⟨hmem, rfl⟩ := key_of_last hlast
  obtain ⟨new, hnew, rfl⟩ := List.mem_map.mp hmem
  obtain ⟨id, a, hrow⟩ := Upserts.exists_rowsOf_upsertAll h hnew
  have hview : c.view (c.upserts.upsertAll t news).2 (c.key (c.get new)) = some (c.get new) := by
    rw [view_upsertAll h, writeAll_apply, hlast, Option.some_or]
  have hget : some (c.get a) = some (c.get new) := (view_of_singleton hrow).symm.trans hview
  exact ⟨id, a, hrow, Option.some.inj hget⟩

omit [DecidableEq K] in
/-- Rows with the same columns have the same keys. -/
theorem keys_of_same {news' : List α} (hsame : news'.map c.get = news.map c.get) :
    ∀ new' ∈ news', ∃ new ∈ news, c.upserts.keyOf new = c.upserts.keyOf new' := by
  intro new' hnew'
  have hmem : c.get new' ∈ news.map c.get := hsame ▸ List.mem_map_of_mem hnew'
  obtain ⟨new, hnew, hget⟩ := List.mem_map.mp hmem
  exact ⟨new, hnew, congrArg c.key hget⟩

/-- Upserts of the same columns once more insert nothing and change nothing. -/
theorem upsertAll_same (h : c.upserts.UniqueFor t news) {news' : List α}
    (hsame : news'.map c.get = news.map c.get) :
    c.upserts.upsertAll (c.upserts.upsertAll t news).2 news' =
      (0, (c.upserts.upsertAll t news).2) := by
  refine Upserts.upsertAll_again h (keys_of_same hsame) (fun id a ha => ?_)
  rw [rewrite_eq, hsame]
  cases hlast : last c.key (news.map c.get) (c.key (c.get a)) with
  | none => rfl
  | some f =>
    obtain ⟨id', b, hrow, hget⟩ := rowsOf_upsertAll_of_last h hlast
    have hmem : (id, a) ∈ c.upserts.rowsOf (c.upserts.upsertAll t news).2 (c.key (c.get a)) :=
      Upserts.mem_rowsOf.mpr ⟨ha, rfl⟩
    rw [hrow, List.mem_singleton] at hmem
    obtain ⟨-, rfl⟩ := Prod.mk.inj hmem
    rw [Option.elim_some, ← hget, c.put_get]

end Columns

end DevSecOpsPlatform.KeyedUpserts
