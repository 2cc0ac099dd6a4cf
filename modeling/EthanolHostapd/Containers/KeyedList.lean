import Mathlib.Data.List.Nodup

/-!
# Linked lists searched by a key

A singly linked list whose nodes are told apart by a key is the list of its nodes.  A walk to the
first node with a given key is `find`, unlinking that node is `remove`, and writing through the
pointer that such a walk returns is `assign`.

If no two nodes share a key then `find` reads the list as a finite map, and `remove` and `assign`
change that map at one key only.
-/

namespace KeyedList

variable {α κ : Type*} [DecidableEq κ] (key : α → κ)

/-- The first node with key `k`. -/
def find (k : κ) (l : List α) : Option α := l.find? fun a => key a = k

/-- The list without the first node with key `k`. -/
def remove (k : κ) (l : List α) : List α := l.eraseP fun a => key a = k

/-- The list after the first node `a` with key `k` was overwritten with `f a`. -/
def assign (k : κ) (f : α → α) : List α → List α
  | [] => []
  | a :: l => if key a = k then f a :: l else a :: assign k f l

/-- No two nodes have the same key. -/
def Distinct (l : List α) : Prop := (l.map key).Nodup

instance (l : List α) : Decidable (Distinct key l) := inferInstanceAs (Decidable (List.Nodup _))

/-! ## Walking to a node -/

@[simp] lemma find_nil (k : κ) : find key k ([] : List α) = none := rfl

lemma find_cons (k : κ) (a : α) (l : List α) :
    find key k (a :: l) = if key a = k then some a else find key k l := by
  unfold find
  rw [List.find?_cons]
  by_cases h : key a = k
  · simp [h]
  · simp [h]

lemma find_append (k : κ) (l l' : List α) :
    find key k (l ++ l') = (find key k l).or (find key k l') := List.find?_append

variable {key}

lemma mem_of_find {k : κ} {a : α} {l : List α} (h : find key k l = some a) : a ∈ l :=
  List.mem_of_find?_eq_some h

lemma key_of_find {k : κ} {a : α} {l : List α} (h : find key k l = some a) : key a = k := by
  simpa using List.find?_some h

lemma find_eq_none_iff {k : κ} {l : List α} : find key k l = none ↔ k ∉ l.map key := by
  simp [find]

lemma find_isSome_iff {k : κ} {l : List α} : (find key k l).isSome ↔ k ∈ l.map key := by
  simp [find]

/-- With distinct keys every node is the one that is found under its key. -/
lemma find_of_mem {a : α} {l : List α} (hl : Distinct key l) (ha : a ∈ l) :
    find key (key a) l = some a := by
  induction l with
  | nil => simp at ha
  | cons b l ih =>
    obtain ⟨hb, hl⟩ := List.nodup_cons.mp hl
    rw [find_cons]
    rcases List.mem_cons.mp ha with rfl | ha
    · simp
    · have hne : key b ≠ key a := fun h => hb (h ▸ List.mem_map_of_mem ha)
      rw [if_neg hne, ih hl ha]

/-! ## Unlinking a node -/

lemma remove_cons (k : κ) (a : α) (l : List α) :
    remove key k (a :: l) = if key a = k then l else a :: remove key k l := by
  unfold remove
  by_cases h : key a = k
  · simp [h]
  · simp [h]

lemma remove_sublist (k : κ) (l : List α) : (remove key k l).Sublist l := List.eraseP_sublist

/-- The nodes with another key stay in the list. -/
lemma mem_remove_of_ne {k : κ} {a : α} {l : List α} (ha : a ∈ l) (hk : key a ≠ k) : a ∈ remove key k l :=
  (List.mem_eraseP_of_neg (by simpa using hk)).mpr ha

lemma Distinct.remove {l : List α} (hl : Distinct key l) (k : κ) :
    Distinct key (remove key k l) :=
  List.Nodup.sublist ((remove_sublist k l).map key) hl

/-- The keys of the remaining nodes. -/
lemma map_key_remove (k : κ) (l : List α) : (remove key k l).map key = (l.map key).erase k := by
  induction l with
  | nil => rfl
  | cons a l ih =>
    rw [remove_cons]
    by_cases h : key a = k
    · simp [h]
    · simp [h, ih]

/-- With distinct keys, unlinking a node forgets its key and keeps all others. -/
lemma find_remove {l : List α} (hl : Distinct key l) (k k' : κ) :
    find key k' (remove key k l) = if k' = k then none else find key k' l := by
  induction l with
  | nil => simp [remove]
  | cons a l ih =>
    obtain ⟨ha, hl⟩ := List.nodup_cons.mp hl
    rw [remove_cons]
    by_cases h : key a = k
    · subst h
      rw [if_pos rfl, find_cons]
      by_cases h' : k' = key a
      · subst h'
        rw [if_pos rfl, find_eq_none_iff]
        exact ha
      · rw [if_neg h', if_neg (Ne.symm h')]
    · rw [if_neg h, find_cons, find_cons, ih hl]
      by_cases h' : key a = k'
      · subst h'
        simp [h]
      · simp [h']

/-- With distinct keys, exactly the nodes with another key stay in the list. -/
lemma mem_remove {l : List α} (hl : Distinct key l) (k : κ) {a : α} :
    a ∈ remove key k l ↔ a ∈ l ∧ key a ≠ k := by
  constructor
  · intro ha
    refine ⟨(remove_sublist k l).subset ha, fun hk => ?_⟩
    have hfind := find_of_mem (hl.remove k) ha
    rw [find_remove hl, if_pos hk] at hfind
    exact absurd hfind (by simp)
  · rintro ⟨ha, hk⟩
    have hfind := find_remove hl k (key a)
    rw [if_neg hk, find_of_mem hl ha] at hfind
    exact mem_of_find hfind

/-- With distinct keys, unlinking a node by its identity is unlinking it by its key. -/
lemma erase_eq_remove [DecidableEq α] {l : List α} (hl : Distinct key l) {a : α} (ha : a ∈ l) :
    l.erase a = remove key (key a) l := by
  induction l with
  | nil => rfl
  | cons b l ih =>
    obtain ⟨hb, hl⟩ := List.nodup_cons.mp hl
    rw [remove_cons, List.erase_cons]
    by_cases hab : b = a
    · simp [hab]
    · have hmem : a ∈ l := (List.mem_cons.mp ha).resolve_left (Ne.symm hab)
      have hne : key b ≠ key a := fun h => hb (h ▸ List.mem_map_of_mem hmem)
      simp [hab, hne, ih hl hmem]

/-- A node that is found comes before the others in some order. -/
lemma perm_remove {k : κ} {a : α} {l : List α} (h : find key k l = some a) :
    l.Perm (a :: remove key k l) := by
  induction l with
  | nil => exact absurd h (by simp)
  | cons b l ih =>
    rw [find_cons] at h
    rw [remove_cons]
    split_ifs at h with hb
    · obtain rfl := Option.some.inj h
      rw [if_pos hb]
    · rw [if_neg hb]
      exact ((ih h).cons b).trans (List.Perm.swap _ _ _)

lemma remove_append {k : κ} {a : α} {l : List α} (h : find key k l = some a) (l' : List α) :
    remove key k (l ++ l') = remove key k l ++ l' := by
  induction l with
  | nil => exact absurd h (by simp)
  | cons b l ih =>
    rw [find_cons] at h
    rw [List.cons_append, remove_cons, remove_cons]
    split_ifs at h with hb
    · rw [if_pos hb, if_pos hb]
    · rw [if_neg hb, if_neg hb, List.cons_append, ih h]

/-! ## Writing to a node -/

/-- The nodes after a write. -/
lemma perm_assign {k : κ} {a : α} {l : List α} (h : find key k l = some a) (f : α → α) :
    (assign key k f l).Perm (f a :: remove key k l) := by
  induction l with
  | nil => exact absurd h (by simp)
  | cons b l ih =>
    rw [find_cons] at h
    rw [remove_cons, assign]
    split_ifs at h with hb
    · obtain rfl := Option.some.inj h
      rw [if_pos hb, if_pos hb]
    · rw [if_neg hb, if_neg hb]
      exact ((ih h).cons b).trans (List.Perm.swap _ _ _)

/-- The nodes with another key are not written to. -/
lemma mem_assign_of_ne {k : κ} {a : α} {l : List α} (ha : a ∈ l) (hk : key a ≠ k) (f : α → α) :
    a ∈ assign key k f l := by
  induction l with
  | nil => exact absurd ha (by simp)
  | cons b l ih =>
    rw [assign]
    rcases List.mem_cons.mp ha with rfl | ha
    · rw [if_neg hk]
      exact List.mem_cons_self
    · split
      · exact List.mem_cons_of_mem _ ha
      · exact List.mem_cons_of_mem _ (ih ha)

/-- What a write does not change stays as it is. -/
lemma map_assign {β : Type*} {g : α → β} {f : α → α} (hf : ∀ a, g (f a) = g a) (k : κ) (l : List α) :
    (assign key k f l).map g = l.map g := by
  induction l with
  | nil => rfl
  | cons a l ih =>
    rw [assign]
    split
    · simp [hf]
    · simp [ih]

lemma map_key_assign {f : α → α} (hf : ∀ a, key (f a) = key a) (k : κ) (l : List α) :
    (assign key k f l).map key = l.map key := map_assign hf k l

lemma assign_append_left {k : κ} {a : α} {l : List α} (h : find key k l = some a) (f : α → α) (l' : List α) :
    assign key k f (l ++ l') = assign key k f l ++ l' := by
  induction l with
  | nil => exact absurd h (by simp)
  | cons b l ih =>
    rw [find_cons] at h
    rw [List.cons_append, assign, assign]
    split_ifs at h with hb
    · rw [if_pos hb, if_pos hb, List.cons_append]
    · rw [if_neg hb, if_neg hb, List.cons_append, ih h]

lemma assign_append {k : κ} {l : List α} (h : find key k l = none) (f : α → α) (l' : List α) :
    assign key k f (l ++ l') = l ++ assign key k f l' := by
  induction l with
  | nil => rfl
  | cons a l ih =>
    rw [find_cons] at h
    split_ifs at h with ha
    rw [List.cons_append, assign, if_neg ha, ih h, List.cons_append]

/-- Writing to the node with key `k` changes what is found under `k` and nothing else. -/
lemma find_assign {f : α → α} (hf : ∀ a, key (f a) = key a) (k k' : κ) (l : List α) :
    find key k' (assign key k f l) = if k' = k then (find key k l).map f else find key k' l := by
  induction l with
  | nil => simp [assign]
  | cons a l ih =>
    rw [assign]
    by_cases h : key a = k
    · rw [if_pos h, find_cons, find_cons, find_cons, hf, if_pos h]
      by_cases h' : k' = k
      · simp [h, h']
      · simp [h, h', Ne.symm h']
    · rw [if_neg h, find_cons, find_cons, find_cons, ih, if_neg h]
      by_cases h' : k' = k
      · simp [h', h]
      · simp [h']

end KeyedList
