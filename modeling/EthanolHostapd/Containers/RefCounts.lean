import EthanolHostapd.Containers.KeyedList
import Mathlib.Data.Multiset.Count

/-!
# Entries that count the references to them

References to the entries of a list are a multiset of keys.  `Counts refs l` says that no two entries
share a key and that the number kept in each entry is how often its key is among the references.

The lemmas say what taking and dropping one reference does.  An operation on a list is given by the entry
it writes to and the others, in any order, so the lemmas apply to every way to find the entry.
-/

namespace RefCounts

variable {α κ : Type*} [DecidableEq κ] (key : α → κ) (count : α → ℤ)

/-- The entries have different keys, and each counts the references to its key. -/
structure Counts (refs : Multiset κ) (l : List α) : Prop where
  distinct : KeyedList.Distinct key l
  count_eq : ∀ a ∈ l, count a = refs.count (key a)

variable {key count} {refs : Multiset κ} {l l' : List α} {a a' : α} {k : κ}

lemma counts_nil : Counts key count refs [] := ⟨List.nodup_nil, by simp⟩

/-- The order of the entries does not matter. -/
lemma Counts.perm (h : Counts key count refs l) (hperm : l.Perm l') : Counts key count refs l' where
  distinct := (hperm.map key).nodup_iff.mp h.distinct
  count_eq a ha := h.count_eq a (hperm.mem_iff.mpr ha)

/-- An entry of which nothing is left to count may go. -/
lemma Counts.tail (h : Counts key count refs (a :: l)) : Counts key count refs l where
  distinct := (List.nodup_cons.mp h.distinct).2
  count_eq b hb := h.count_eq b (List.mem_cons_of_mem a hb)

lemma Counts.key_notMem (h : Counts key count refs (a :: l)) : key a ∉ l.map key :=
  (List.nodup_cons.mp h.distinct).1

/-- The same key under another count. -/
lemma Counts.key_ne (h : Counts key count refs (a :: l)) {b : α} (hb : b ∈ l) : key b ≠ key a :=
  fun heq => h.key_notMem (heq ▸ List.mem_map_of_mem hb)

/-- References to other keys are not counted. -/
lemma counts_cons_iff (hk : k ∉ l.map key) : Counts key count (k ::ₘ refs) l ↔ Counts key count refs l := by
  have hcount : ∀ a ∈ l, (k ::ₘ refs).count (key a) = refs.count (key a) := by
    intro a ha
    refine Multiset.count_cons_of_ne (fun heq => hk ?_) refs
    rw [← heq]
    exact List.mem_map_of_mem ha
  constructor
  · intro h
    exact ⟨h.distinct, fun a ha => by rw [h.count_eq a ha, hcount a ha]⟩
  · intro h
    exact ⟨h.distinct, fun a ha => by rw [h.count_eq a ha, hcount a ha]⟩

/-- One more reference to an entry, and one more is counted. -/
lemma Counts.acquire (h : Counts key count refs (a :: l)) (hkey : key a' = key a)
    (hcount : count a' = count a + 1) : Counts key count (key a ::ₘ refs) (a' :: l) := by
  have hrest : Counts key count (key a ::ₘ refs) l := (counts_cons_iff h.key_notMem).mpr h.tail
  refine ⟨?_, ?_⟩
  · unfold KeyedList.Distinct
    rw [List.map_cons, hkey]
    exact List.nodup_cons.mpr ⟨h.key_notMem, hrest.distinct⟩
  · intro b hb
    rcases List.mem_cons.mp hb with rfl | hb
    · rw [hcount, h.count_eq a List.mem_cons_self, hkey, Multiset.count_cons_self]
      push_cast
      rfl
    · exact hrest.count_eq b hb

/-- One reference less, and one less is counted. -/
lemma Counts.release (h : Counts key count (key a ::ₘ refs) (a :: l)) (hkey : key a' = key a)
    (hcount : count a' = count a - 1) : Counts key count refs (a' :: l) := by
  have hrest : Counts key count refs l := (counts_cons_iff h.key_notMem).mp h.tail
  refine ⟨?_, ?_⟩
  · unfold KeyedList.Distinct
    rw [List.map_cons, hkey]
    exact List.nodup_cons.mpr ⟨h.key_notMem, hrest.distinct⟩
  · intro b hb
    rcases List.mem_cons.mp hb with rfl | hb
    · rw [hcount, h.count_eq a List.mem_cons_self, hkey, Multiset.count_cons_self]
      push_cast
      omega
    · exact hrest.count_eq b hb

/-- A new entry with the first reference to its key. -/
lemma Counts.insert (h : Counts key count refs l) (hkey : key a ∉ l.map key) (hrefs : key a ∉ refs)
    (hcount : count a = 1) : Counts key count (key a ::ₘ refs) (a :: l) := by
  refine ⟨?_, ?_⟩
  · unfold KeyedList.Distinct
    rw [List.map_cons]
    exact List.nodup_cons.mpr ⟨hkey, h.distinct⟩
  · intro b hb
    rcases List.mem_cons.mp hb with rfl | hb
    · rw [hcount, Multiset.count_cons_self, Multiset.count_eq_zero_of_notMem hrefs]
      rfl
    · exact ((counts_cons_iff hkey).mpr h).count_eq b hb

/-- An entry that somebody refers to has a positive count. -/
lemma Counts.pos_iff (h : Counts key count refs l) (ha : a ∈ l) : 0 < count a ↔ key a ∈ refs := by
  rw [h.count_eq a ha, Int.natCast_pos, Multiset.count_pos]

end RefCounts
