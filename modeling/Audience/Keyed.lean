/-!
# Lists ordered by key

A list of pairs whose keys are strings, kept in increasing order of the keys by
`insert`.  Keys are compared character by character by code point, which is also
the order of their UTF-8 bytes.

**Results.**
* `find?_insert`: an insertion is seen at its key only.
* `mem_keys_insert`: the keys after an insertion.
* `ordered_insert`, `ordered_ofList`: the order of the keys is kept.
* `find?_eq_some_iff`, `insert_of_lt`: in an ordered list entries are found, and put at the end.
-/

namespace Audience
namespace Keyed

universe u

variable {α : Type u}

/-- Puts a value at a key; a value already there is replaced. -/
def insert (key : String) (value : α) : List (String × α) → List (String × α)
  | [] => [(key, value)]
  | (k, v) :: rest =>
      if key = k then (key, value) :: rest
      else if key < k then (key, value) :: (k, v) :: rest
      else (k, v) :: insert key value rest

@[simp] theorem insert_nil (key : String) (value : α) :
    insert key value [] = [(key, value)] := rfl

/-- The value at a key. -/
def find? (key : String) : List (String × α) → Option α
  | [] => none
  | (k, v) :: rest => if key = k then some v else find? key rest

@[simp] theorem find?_nil (key : String) : find? key ([] : List (String × α)) = none := rfl

theorem find?_cons (key k : String) (v : α) (rest : List (String × α)) :
    find? key ((k, v) :: rest) = if key = k then some v else find? key rest := rfl

@[simp] theorem find?_insert_self (key : String) (value : α) (entries : List (String × α)) :
    find? key (insert key value entries) = some value := by
  induction entries with
  | nil => simp [find?_cons]
  | cons e rest ih =>
      obtain ⟨k, v⟩ := e
      unfold insert
      split
      · simp [find?_cons]
      · split
        · simp [find?_cons]
        · next hne _ => simp [find?_cons, hne, ih]

theorem find?_insert_of_ne {key other : String} (h : other ≠ key) (value : α)
    (entries : List (String × α)) :
    find? other (insert key value entries) = find? other entries := by
  induction entries with
  | nil => simp [find?_cons, h]
  | cons e rest ih =>
      obtain ⟨k, v⟩ := e
      unfold insert
      split
      · next hk => subst hk; simp [find?_cons, h]
      · split
        · simp [find?_cons, h]
        · simp [find?_cons, ih]

theorem find?_insert (key other : String) (value : α) (entries : List (String × α)) :
    find? other (insert key value entries) =
      if other = key then some value else find? other entries := by
  split
  · next h => rw [h, find?_insert_self]
  · next h => exact find?_insert_of_ne h value entries

theorem mem_keys_insert (key : String) (value : α) (entries : List (String × α)) (k : String) :
    k ∈ (insert key value entries).map Prod.fst ↔ k = key ∨ k ∈ entries.map Prod.fst := by
  induction entries with
  | nil => simp
  | cons e rest ih =>
      obtain ⟨k', v⟩ := e
      unfold insert
      split
      · next hk => subst hk; simp
      · split
        · simp
        · simp only [List.map_cons, List.mem_cons, ih]
          grind

/-- A key above all others is put at the end. -/
theorem insert_of_lt {key : String} {entries : List (String × α)} (value : α)
    (h : ∀ k ∈ entries.map Prod.fst, k < key) :
    insert key value entries = entries ++ [(key, value)] := by
  induction entries with
  | nil => rfl
  | cons e rest ih =>
      obtain ⟨k, v⟩ := e
      have hk : k < key := h k (by simp)
      have hne : key ≠ k := fun heq => String.lt_irrefl key (heq ▸ hk)
      have hle : ¬ key < k := fun hlt => String.lt_irrefl key (String.lt_trans hlt hk)
      rw [insert, if_neg hne, if_neg hle, ih fun j hj => h j (by simp [hj])]
      rfl

/-- The keys increase from one entry to the next. -/
def Ordered (entries : List (String × α)) : Prop :=
  (entries.map Prod.fst).Pairwise (· < ·)

theorem nodup_of_ordered {entries : List (String × α)} (h : Ordered entries) :
    (entries.map Prod.fst).Nodup := by
  refine List.Pairwise.imp ?_ h
  rintro j k hlt rfl
  exact String.lt_irrefl j hlt

theorem ordered_nil : Ordered ([] : List (String × α)) := List.Pairwise.nil

theorem ordered_cons_iff (k : String) (v : α) (rest : List (String × α)) :
    Ordered ((k, v) :: rest) ↔ (∀ j ∈ rest.map Prod.fst, k < j) ∧ Ordered rest := by
  simp only [Ordered, List.map_cons, List.pairwise_cons]

/-- The keys in front of an entry are below its key. -/
theorem lt_of_ordered_append {front rest : List (String × α)} {key : String} {value : α}
    (h : Ordered (front ++ (key, value) :: rest)) : ∀ k ∈ front.map Prod.fst, k < key := by
  unfold Ordered at h
  rw [List.map_append, List.pairwise_append] at h
  exact fun k hk => h.2.2 k hk key List.mem_cons_self

/-- What is found at a key is the entry with that key. -/
theorem find?_eq_some_iff {key : String} {value : α} {entries : List (String × α)}
    (h : Ordered entries) : find? key entries = some value ↔ (key, value) ∈ entries := by
  induction entries with
  | nil => simp
  | cons e rest ih =>
      obtain ⟨k, v⟩ := e
      obtain ⟨hk, hrest⟩ := (ordered_cons_iff k v rest).mp h
      have hnone : ∀ w, (k, w) ∉ rest := fun w hw =>
        String.lt_irrefl k (hk k (List.mem_map.mpr ⟨(k, w), hw, rfl⟩))
      rw [find?_cons, List.mem_cons, Prod.mk.injEq]
      split
      · next heq => subst heq; simp [hnone, eq_comm]
      · next hne => simp [hne, ih hrest]

/-- Nothing is found at a key exactly if no entry has it. -/
theorem find?_eq_none_iff {key : String} {entries : List (String × α)} :
    find? key entries = none ↔ key ∉ entries.map Prod.fst := by
  induction entries with
  | nil => simp
  | cons e rest ih =>
      obtain ⟨k, v⟩ := e
      rw [find?_cons, List.map_cons, List.mem_cons, not_or]
      split
      · next heq => simp [heq]
      · next hne => simp [hne, ih]

theorem ordered_insert (key : String) (value : α) {entries : List (String × α)}
    (h : Ordered entries) : Ordered (insert key value entries) := by
  induction entries with
  | nil => simp [Ordered]
  | cons e rest ih =>
      obtain ⟨k, v⟩ := e
      obtain ⟨hk, hrest⟩ := (ordered_cons_iff k v rest).mp h
      unfold insert
      split
      · next heq => subst heq; exact (ordered_cons_iff _ _ _).mpr ⟨hk, hrest⟩
      · split
        · next hlt =>
            refine (ordered_cons_iff _ _ _).mpr ⟨fun j hj => ?_, h⟩
            rcases List.mem_cons.mp hj with rfl | hj
            · exact hlt
            · exact String.lt_trans hlt (hk j hj)
        · next hne hle =>
            have hlt : k < key :=
              Std.lt_of_le_of_ne (String.not_lt.mp hle) (fun heq => hne heq.symm)
            refine (ordered_cons_iff _ _ _).mpr ⟨fun j hj => ?_, ih hrest⟩
            rcases (mem_keys_insert key value rest j).mp hj with rfl | hj
            · exact hlt
            · exact hk j hj

/-- Inserts all pairs of a list, the last of equal keys winning. -/
def ofList (entries : List (String × α)) : List (String × α) :=
  entries.foldl (fun acc e => insert e.1 e.2 acc) []

theorem ordered_foldl_insert (entries : List (String × α)) {kept : List (String × α)}
    (h : Ordered kept) : Ordered (entries.foldl (fun acc e => insert e.1 e.2 acc) kept) := by
  induction entries generalizing kept with
  | nil => exact h
  | cons e rest ih => exact ih (ordered_insert e.1 e.2 h)

theorem ordered_ofList (entries : List (String × α)) : Ordered (ofList entries) :=
  ordered_foldl_insert entries ordered_nil

end Keyed
end Audience
