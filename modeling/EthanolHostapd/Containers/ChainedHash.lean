import EthanolHostapd.Containers.KeyedList
import Mathlib.Logic.Function.Basic

/-!
# Chained hash tables

A table of buckets, each of them a linked list searched by a key.  `Holds t l` says that the table `t`
holds exactly the nodes of the list `l`; then searching the table is searching the list, and the
operations on the table follow those on the list.
-/

namespace ChainedHash

variable {α β κ : Type*} (key : α → κ) (hash : κ → β)

/-- The first node with key `k` in its bucket. -/
def find [DecidableEq κ] (k : κ) (t : β → List α) : Option α := KeyedList.find key k (t (hash k))

/-- A node is put in front of its bucket. -/
def add [DecidableEq β] (a : α) (t : β → List α) : β → List α :=
  Function.update t (hash (key a)) (a :: t (hash (key a)))

/-- The first node with key `k` is unlinked from its bucket. -/
def del [DecidableEq β] [DecidableEq κ] (k : κ) (t : β → List α) : β → List α :=
  Function.update t (hash k) (KeyedList.remove key k (t (hash k)))

/-- The nodes of the table are those of the list, each of them in the bucket of its key and there with
a key of its own. -/
structure Holds (t : β → List α) (l : List α) : Prop where
  mem_iff : ∀ b a, a ∈ t b ↔ a ∈ l ∧ hash (key a) = b
  distinct : ∀ b, KeyedList.Distinct key (t b)

variable {key hash} {t : β → List α} {l : List α}

lemma holds_nil : Holds key hash (fun _ => []) [] where
  mem_iff := by simp
  distinct := fun _ => List.nodup_nil

/-- Only the keys of the nodes in the list matter. -/
lemma Holds.congr {key' : α → κ} (h : Holds key hash t l) (hkey : ∀ a ∈ l, key' a = key a) :
    Holds key' hash t l where
  mem_iff := fun b a => by
    rw [h.mem_iff]
    refine and_congr_right fun ha => ?_
    rw [hkey a ha]
  distinct := fun b => by
    have hmap : (t b).map key' = (t b).map key :=
      List.map_congr_left fun a ha => hkey a ((h.mem_iff b a).mp ha).1
    rw [KeyedList.Distinct, hmap]
    exact h.distinct b

/-- Searching the table is searching the list. -/
lemma Holds.find [DecidableEq κ] (h : Holds key hash t l) (k : κ) :
    find key hash k t = KeyedList.find key k l := by
  cases hfind : KeyedList.find key k l with
  | none =>
    rw [KeyedList.find_eq_none_iff] at hfind
    rw [ChainedHash.find, KeyedList.find_eq_none_iff]
    intro hk
    obtain ⟨a, ha, rfl⟩ := List.mem_map.mp hk
    exact hfind (List.mem_map_of_mem ((h.mem_iff _ a).mp ha).1)
  | some a =>
    obtain rfl := KeyedList.key_of_find hfind
    have ha : a ∈ t (hash (key a)) := (h.mem_iff _ a).mpr ⟨KeyedList.mem_of_find hfind, rfl⟩
    exact KeyedList.find_of_mem (h.distinct _) ha

lemma Holds.add [DecidableEq β] (h : Holds key hash t l) {a : α} (ha : key a ∉ l.map key) :
    Holds key hash (add key hash a t) (a :: l) where
  mem_iff := by
    intro b a'
    rw [ChainedHash.add, List.mem_cons]
    by_cases hb : b = hash (key a)
    · subst hb
      rw [Function.update_self, List.mem_cons, h.mem_iff]
      constructor
      · rintro (rfl | ⟨ha', hhash⟩)
        · exact ⟨Or.inl rfl, rfl⟩
        · exact ⟨Or.inr ha', hhash⟩
      · rintro ⟨rfl | ha', hhash⟩
        · exact Or.inl rfl
        · exact Or.inr ⟨ha', hhash⟩
    · rw [Function.update_of_ne hb, h.mem_iff]
      constructor
      · rintro ⟨ha', hhash⟩
        exact ⟨Or.inr ha', hhash⟩
      · rintro ⟨rfl | ha', hhash⟩
        · exact absurd hhash.symm hb
        · exact ⟨ha', hhash⟩
  distinct := by
    intro b
    rw [ChainedHash.add]
    by_cases hb : b = hash (key a)
    · subst hb
      rw [Function.update_self, KeyedList.Distinct, List.map_cons, List.nodup_cons]
      refine ⟨fun hmem => ha ?_, h.distinct _⟩
      obtain ⟨a', ha', hkey⟩ := List.mem_map.mp hmem
      exact List.mem_map.mpr ⟨a', ((h.mem_iff _ a').mp ha').1, hkey⟩
    · rw [Function.update_of_ne hb]
      exact h.distinct b

lemma Holds.del [DecidableEq β] [DecidableEq κ] (h : Holds key hash t l)
    (hl : KeyedList.Distinct key l) (k : κ) :
    Holds key hash (del key hash k t) (KeyedList.remove key k l) where
  mem_iff := by
    intro b a
    rw [ChainedHash.del, KeyedList.mem_remove hl]
    by_cases hb : b = hash k
    · subst hb
      rw [Function.update_self, KeyedList.mem_remove (h.distinct _), h.mem_iff]
      tauto
    · rw [Function.update_of_ne hb, h.mem_iff]
      constructor
      · rintro ⟨ha, rfl⟩
        exact ⟨⟨ha, fun hk => hb (by rw [hk])⟩, rfl⟩
      · rintro ⟨⟨ha, -⟩, hhash⟩
        exact ⟨ha, hhash⟩
  distinct := by
    intro b
    rw [ChainedHash.del]
    by_cases hb : b = hash k
    · subst hb
      rw [Function.update_self]
      exact (h.distinct _).remove k
    · rw [Function.update_of_ne hb]
      exact h.distinct b

end ChainedHash
