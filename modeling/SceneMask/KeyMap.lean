-- Finite maps with text keys. The entries stand in strictly ascending
-- order of their keys, so equal maps have equal lists of entries.

namespace SceneMask

universe u

structure KeyMap (α : Type u) where
  entries : List (String × α)
  sorted : entries.Pairwise fun a b => a.1 < b.1

namespace KeyMap

variable {α : Type u}

/-! ## The list of entries -/

/-- Puts an entry in its place; an entry with the same key gives way. -/
def put (key : String) (value : α) : List (String × α) → List (String × α)
  | [] => [(key, value)]
  | (k, v) :: rest =>
    if key < k then (key, value) :: (k, v) :: rest
    else if key = k then (key, value) :: rest
    else (k, v) :: put key value rest

def drop (key : String) (entries : List (String × α)) : List (String × α) :=
  entries.filter fun entry => entry.1 ≠ key

theorem lt_of_not_lt {a b : String} (h : ¬a < b) (hne : a ≠ b) : b < a := by
  by_cases hb : b < a
  · exact hb
  · exact absurd (String.le_antisymm (String.not_lt.1 hb) (String.not_lt.1 h)) hne

theorem mem_put {key : String} {value : α} {entries : List (String × α)}
    {entry : String × α} (h : entry ∈ put key value entries) :
    entry = (key, value) ∨ entry ∈ entries := by
  induction entries with
  | nil => simpa [put] using h
  | cons head rest ih =>
    obtain ⟨k, v⟩ := head
    simp only [put] at h
    split at h
    · simpa using h
    · split at h
      · rcases List.mem_cons.1 h with h | h
        · exact Or.inl h
        · exact Or.inr (List.mem_cons_of_mem _ h)
      · rcases List.mem_cons.1 h with h | h
        · exact Or.inr (by simp [h])
        · rcases ih h with h | h
          · exact Or.inl h
          · exact Or.inr (List.mem_cons_of_mem _ h)

theorem sorted_put (key : String) (value : α) {entries : List (String × α)}
    (h : entries.Pairwise fun a b => a.1 < b.1) :
    (put key value entries).Pairwise fun a b => a.1 < b.1 := by
  induction entries with
  | nil => simp [put]
  | cons head rest ih =>
    obtain ⟨k, v⟩ := head
    obtain ⟨hk, hrest⟩ := List.pairwise_cons.1 h
    simp only [put]
    split
    · rename_i hlt
      refine List.pairwise_cons.2 ⟨?_, h⟩
      intro entry hmem
      rcases List.mem_cons.1 hmem with rfl | hmem
      · exact hlt
      · exact String.lt_trans hlt (hk _ hmem)
    · split
      · rename_i heq
        subst heq
        exact List.pairwise_cons.2 ⟨hk, hrest⟩
      · rename_i hnlt hne
        refine List.pairwise_cons.2 ⟨?_, ih hrest⟩
        intro entry hmem
        rcases mem_put hmem with rfl | hmem
        · exact lt_of_not_lt hnlt hne
        · exact hk _ hmem

theorem lookup_entry (key other : String) (value : α) (rest : List (String × α)) :
    ((key, value) :: rest).lookup other
      = if other = key then some value else rest.lookup other := by
  by_cases h : other = key
  · subst h
    simp
  · have hb : (other == key) = false := beq_eq_false_iff_ne.2 h
    simp [List.lookup_cons, hb, h]

theorem lookup_put (key other : String) (value : α) (entries : List (String × α)) :
    (put key value entries).lookup other
      = if other = key then some value else entries.lookup other := by
  induction entries with
  | nil => exact lookup_entry key other value []
  | cons head rest ih =>
    obtain ⟨k, v⟩ := head
    simp only [put]
    split
    · exact lookup_entry key other value _
    · split
      · rename_i heq
        subst heq
        rw [lookup_entry, lookup_entry]
        split <;> rfl
      · rename_i hne
        rw [lookup_entry, lookup_entry, ih]
        by_cases h : other = k
        · subst h
          simp [Ne.symm hne]
        · simp [h]

theorem lookup_drop (key other : String) (entries : List (String × α)) :
    (drop key entries).lookup other = if other = key then none else entries.lookup other := by
  induction entries with
  | nil => simp [drop]
  | cons head rest ih =>
    obtain ⟨k, v⟩ := head
    by_cases hk : k = key
    · have hdrop : drop key ((k, v) :: rest) = drop key rest := by simp [drop, hk]
      rw [hdrop, ih, lookup_entry]
      subst hk
      split <;> rfl
    · have hdrop : drop key ((k, v) :: rest) = (k, v) :: drop key rest := by simp [drop, hk]
      rw [hdrop, lookup_entry, lookup_entry, ih]
      by_cases h : other = k
      · subst h
        simp [hk]
      · simp [h]

/-! ## Maps -/

def empty : KeyMap α := ⟨[], List.Pairwise.nil⟩

def insert (map : KeyMap α) (key : String) (value : α) : KeyMap α :=
  ⟨put key value map.entries, sorted_put key value map.sorted⟩

def erase (map : KeyMap α) (key : String) : KeyMap α :=
  ⟨drop key map.entries, map.sorted.filter _⟩

def get? (map : KeyMap α) (key : String) : Option α := map.entries.lookup key

def keys (map : KeyMap α) : List String := map.entries.map Prod.fst

def size (map : KeyMap α) : Nat := map.entries.length

def isEmpty (map : KeyMap α) : Bool := map.entries.isEmpty

/-- Inserts all entries in turn, so the last one with a key stays. -/
def insertAll (map : KeyMap α) (entries : List (String × α)) : KeyMap α :=
  entries.foldl (fun m entry => m.insert entry.1 entry.2) map

def ofList (entries : List (String × α)) : KeyMap α := empty.insertAll entries

/-! ## What the operations do to look-ups -/

theorem get?_empty (key : String) : (empty : KeyMap α).get? key = none := rfl

theorem get?_insert (map : KeyMap α) (key other : String) (value : α) :
    (map.insert key value).get? other = if other = key then some value else map.get? other :=
  lookup_put key other value map.entries

theorem get?_erase (map : KeyMap α) (key other : String) :
    (map.erase key).get? other = if other = key then none else map.get? other :=
  lookup_drop key other map.entries

/-! ## Entries and look-ups -/

/-- In a list without repeated keys, look-ups find just the entries. -/
theorem lookup_eq_some_iff_mem {entries : List (String × α)}
    (h : (entries.map Prod.fst).Nodup) {key : String} {value : α} :
    entries.lookup key = some value ↔ (key, value) ∈ entries := by
  induction entries with
  | nil => simp
  | cons head rest ih =>
    obtain ⟨k, v⟩ := head
    obtain ⟨hk, hrest⟩ := List.nodup_cons.1 h
    rw [lookup_entry, List.mem_cons, Prod.mk.injEq]
    by_cases heq : key = k
    · subst heq
      have hnot : (key, value) ∉ rest :=
        fun hmem => hk (List.mem_map.2 ⟨(key, value), hmem, rfl⟩)
      simp [hnot, eq_comm]
    · simp [heq, ih hrest]

theorem lookup_isSome_iff_mem {key : String} {entries : List (String × α)} :
    (entries.lookup key).isSome ↔ key ∈ entries.map Prod.fst := by
  induction entries with
  | nil => simp
  | cons head rest ih =>
    obtain ⟨k, v⟩ := head
    rw [lookup_entry, List.map_cons, List.mem_cons]
    by_cases heq : key = k <;> simp [heq, ih]

theorem lookup_reverse {entries : List (String × α)} (h : (entries.map Prod.fst).Nodup)
    (key : String) : entries.reverse.lookup key = entries.lookup key := by
  have hreverse : (entries.reverse.map Prod.fst).Nodup := by
    rw [List.map_reverse, List.nodup_iff_pairwise_ne, List.pairwise_reverse]
    exact h.imp Ne.symm
  apply Option.ext
  intro value
  rw [lookup_eq_some_iff_mem hreverse, lookup_eq_some_iff_mem h, List.mem_reverse]

theorem nodup_keys (map : KeyMap α) : map.keys.Nodup := by
  unfold keys
  rw [List.nodup_iff_pairwise_ne, List.pairwise_map]
  apply map.sorted.imp
  intro a b hlt heq
  exact String.lt_irrefl _ (heq ▸ hlt)

theorem mem_keys {map : KeyMap α} {key : String} : key ∈ map.keys ↔ (map.get? key).isSome :=
  lookup_isSome_iff_mem.symm

/-- Equal look-ups make equal maps. -/
theorem ext_get? {a b : KeyMap α} (h : ∀ key, a.get? key = b.get? key) : a = b := by
  have hmem : ∀ entry, entry ∈ a.entries ↔ entry ∈ b.entries := by
    intro entry
    have hlookup : a.entries.lookup entry.1 = b.entries.lookup entry.1 := h entry.1
    rw [← lookup_eq_some_iff_mem a.nodup_keys, ← lookup_eq_some_iff_mem b.nodup_keys, hlookup]
  have hnodup : ∀ map : KeyMap α, map.entries.Nodup := by
    intro map
    apply map.sorted.imp
    intro x y hlt heq
    exact String.lt_irrefl _ (heq ▸ hlt)
  have hperm := (List.perm_ext_iff_of_nodup (hnodup a) (hnodup b)).2 hmem
  have hentries := hperm.eq_of_pairwise
    (fun x y _ _ hxy hyx => absurd (String.lt_trans hxy hyx) (String.lt_irrefl _))
    a.sorted b.sorted
  cases a
  cases b
  simpa using hentries

/-! ## Maps of lists -/

/-- Of the entries with a key the last one counts. -/
theorem get?_insertAll (map : KeyMap α) (entries : List (String × α)) (key : String) :
    (map.insertAll entries).get? key = (entries.reverse.lookup key).or (map.get? key) := by
  induction entries generalizing map with
  | nil => rfl
  | cons head rest ih =>
    obtain ⟨k, v⟩ := head
    show ((map.insert k v).insertAll rest).get? key = _
    rw [ih, List.reverse_cons, List.lookup_append, lookup_entry, get?_insert, Option.or_assoc]
    by_cases heq : key = k <;> simp [heq]

theorem get?_ofList (entries : List (String × α)) (key : String) :
    (ofList entries).get? key = entries.reverse.lookup key := by
  unfold ofList
  rw [get?_insertAll, get?_empty, Option.or_none]

theorem get?_ofList_of_nodup {entries : List (String × α)} (h : (entries.map Prod.fst).Nodup)
    (key : String) : (ofList entries).get? key = entries.lookup key := by
  rw [get?_ofList, lookup_reverse h]

theorem get?_ofList_of_mem {entries : List (String × α)} (h : (entries.map Prod.fst).Nodup)
    {key : String} {value : α} (hmem : (key, value) ∈ entries) :
    (ofList entries).get? key = some value := by
  rw [get?_ofList_of_nodup h, lookup_eq_some_iff_mem h]
  exact hmem

theorem mem_of_mem_ofList {entries : List (String × α)} {entry : String × α}
    (h : entry ∈ (ofList entries).entries) : entry ∈ entries := by
  have hlookup : (ofList entries).get? entry.1 = some entry.2 :=
    (lookup_eq_some_iff_mem (ofList entries).nodup_keys).2 h
  rw [get?_ofList] at hlookup
  obtain ⟨before, after, heq, -⟩ := List.lookup_eq_some_iff.1 hlookup
  rw [← List.mem_reverse, heq]
  exact List.mem_append_right _ List.mem_cons_self

theorem keys_ofList_perm {entries : List (String × α)} (h : (entries.map Prod.fst).Nodup) :
    (ofList entries).keys.Perm (entries.map Prod.fst) := by
  rw [List.perm_ext_iff_of_nodup (nodup_keys _) h]
  intro key
  rw [mem_keys, get?_ofList_of_nodup h, lookup_isSome_iff_mem]

theorem insertAll_ofList (entries more : List (String × α)) :
    (ofList entries).insertAll more = ofList (entries ++ more) :=
  List.foldl_append.symm

theorem erase_ofList (entries : List (String × α)) (key : String) :
    (ofList entries).erase key = ofList (drop key entries) := by
  apply ext_get?
  intro other
  have hreverse : (drop key entries).reverse = drop key entries.reverse := List.filter_reverse.symm
  rw [get?_erase, get?_ofList, get?_ofList, hreverse, lookup_drop]

/-- The entries of a map make up the map in any order. -/
theorem ofList_of_perm {entries : List (String × α)} {map : KeyMap α}
    (h : entries.Perm map.entries) : ofList entries = map := by
  have hnodup : (entries.map Prod.fst).Nodup := (h.map Prod.fst).nodup_iff.2 map.nodup_keys
  apply ext_get?
  intro key
  apply Option.ext
  intro value
  rw [get?_ofList_of_nodup hnodup, lookup_eq_some_iff_mem hnodup, h.mem_iff]
  exact (lookup_eq_some_iff_mem map.nodup_keys).symm

theorem ofList_entries (map : KeyMap α) : ofList map.entries = map := ofList_of_perm (.refl _)

end KeyMap

end SceneMask
