import Mathlib.Data.List.Nodup
import Mathlib.Logic.Function.Basic

/-!
# Linked lists with a pointer to their end

A doubly linked list in which the `prev` pointer of the first node points to the last one, so that both
ends are at hand; the `next` pointer of the last node is null.  The pointers of all nodes are two
functions, and `Represents r l` says that the nodes reached from the head are those of `l`, in this
order.

Nodes are added in front and unlinked anywhere, by writing a few pointers only.
-/

/-- The head and the pointers of a list. -/
structure RingList (ν : Type*) where
  head : Option ν
  next : ν → Option ν
  prev : ν → ν

namespace RingList

variable {ν : Type*}

/-- The pointers along `l` when it comes after the node `p` and before `n`. -/
def Linked (next : ν → Option ν) (prev : ν → ν) (p : ν) : List ν → Option ν → Prop
  | [], _ => True
  | a :: l, n => prev a = p ∧ next a = l.head?.or n ∧ Linked next prev a l n

/-- The list is made of the nodes of `l`. -/
structure Represents (r : RingList ν) (l : List ν) : Prop where
  nodup : l.Nodup
  head_eq : r.head = l.head?
  linked : ∀ t, l.getLast? = some t → Linked r.next r.prev t l none

/-- A node is put in front. -/
def addFront [DecidableEq ν] (r : RingList ν) (a : ν) : RingList ν where
  head := some a
  next := Function.update r.next a r.head
  prev :=
    match r.head with
    | some h => Function.update (Function.update r.prev a (r.prev h)) h a
    | none => Function.update r.prev a a

/-- The head and the `next` pointers after a node is unlinked. -/
def unlink [DecidableEq ν] (r : RingList ν) (a : ν) : RingList ν :=
  if r.head = some a then { r with head := r.next a }
  else { r with next := Function.update r.next (r.prev a) (r.next a) }

/-- A node is unlinked. -/
def del [DecidableEq ν] (r : RingList ν) (a : ν) : RingList ν :=
  let r' := r.unlink a
  match r'.next a with
  | some n => { r' with prev := Function.update r'.prev n (r'.prev a) }
  | none =>
    match r'.head with
    | some h => { r' with prev := Function.update r'.prev h (r'.prev a) }
    | none => r'

/-! ## Segments -/

section Linked

variable {next next' : ν → Option ν} {prev prev' : ν → ν} {p : ν} {l l' : List ν} {n : Option ν}

/-- Only the pointers of the nodes in the segment matter. -/
lemma Linked.congr (h : Linked next prev p l n) (hnext : ∀ a ∈ l, next' a = next a)
    (hprev : ∀ a ∈ l, prev' a = prev a) : Linked next' prev' p l n := by
  induction l generalizing p with
  | nil => trivial
  | cons a l ih =>
    obtain ⟨hp, hn, hl⟩ := h
    refine ⟨?_, ?_, ?_⟩
    · rw [hprev a (by simp), hp]
    · rw [hnext a (by simp), hn]
    · exact ih hl (fun b hb => hnext b (by simp [hb])) fun b hb => hprev b (by simp [hb])

/-- One segment after another. -/
lemma linked_append : Linked next prev p (l ++ l') n ↔
    Linked next prev p l (l'.head?.or n) ∧ Linked next prev (l.getLast?.getD p) l' n := by
  induction l generalizing p with
  | nil => simp [Linked]
  | cons a l ih =>
    have hlast : (a :: l).getLast?.getD p = l.getLast?.getD a := by
      cases l with
      | nil => rfl
      | cons b l => simp [List.getLast?_cons]
    rw [List.cons_append, Linked, Linked, ih, hlast, List.head?_append, Option.or_assoc]
    tauto

variable [DecidableEq ν] {a q : ν}

/-- The first node gets another predecessor. -/
lemma Linked.update_prev {p' : ν} (h : Linked next prev p (a :: l) n) (ha : a ∉ l) :
    Linked next (Function.update prev a p') p' (a :: l) n := by
  obtain ⟨-, hn, hl⟩ := h
  refine ⟨Function.update_self .., hn, hl.congr (fun _ _ => rfl) fun b hb => ?_⟩
  have hba : b ≠ a := fun hba => ha (hba ▸ hb)
  exact Function.update_of_ne hba ..

/-- The last node gets another successor. -/
lemma Linked.update_next {n' : Option ν} (h : Linked next prev p (l ++ [q]) n) (hq : q ∉ l) :
    Linked (Function.update next q n') prev p (l ++ [q]) n' := by
  rw [linked_append] at h ⊢
  obtain ⟨hl, hp, -, -⟩ := h
  refine ⟨hl.congr (fun b hb => ?_) fun _ _ => rfl, hp, Function.update_self .., trivial⟩
  have hbq : b ≠ q := fun hbq => hq (hbq ▸ hb)
  exact Function.update_of_ne hbq ..

end Linked

/-! ## The list as a whole -/

variable {r : RingList ν} {l : List ν} {a : ν}

lemma Represents.eq_nil_iff (h : r.Represents l) : l = [] ↔ r.head = none := by
  rw [h.head_eq, List.head?_eq_none_iff]

/-- The `prev` pointer of the head is the end of the list. -/
lemma Represents.prev_head (h : r.Represents l) (ha : r.head = some a) :
    l.getLast? = some (r.prev a) := by
  cases l with
  | nil =>
    rw [h.head_eq] at ha
    exact absurd ha (by simp)
  | cons b l =>
    obtain rfl : b = a := by simpa [h.head_eq] using ha
    have hlast : (b :: l).getLast? = some ((b :: l).getLast (by simp)) :=
      List.getLast?_eq_some_getLast _
    rw [hlast, (h.linked _ hlast).1]

/-- The list without its end. -/
lemma Represents.erase_prev_head [DecidableEq ν] (h : r.Represents l) (ha : r.head = some a) :
    l.erase (r.prev a) = l.dropLast := by
  obtain ⟨l₀, hl₀⟩ := List.getLast?_eq_some_iff.mp (h.prev_head ha)
  have hnodup := h.nodup
  rw [hl₀] at hnodup ⊢
  have hnew : r.prev a ∉ l₀ := fun hmem => List.disjoint_of_nodup_append hnodup hmem (by simp)
  rw [List.dropLast_concat, List.erase_append_right _ hnew, List.erase_cons_head, List.append_nil]

lemma represents_nil (next : ν → Option ν) (prev : ν → ν) :
    Represents ⟨none, next, prev⟩ [] where
  nodup := List.nodup_nil
  head_eq := rfl
  linked := by simp

lemma Represents.addFront [DecidableEq ν] (h : r.Represents l) (ha : a ∉ l) :
    (r.addFront a).Represents (a :: l) where
  nodup := List.nodup_cons.mpr ⟨ha, h.nodup⟩
  head_eq := rfl
  linked := by
    intro t ht
    cases l with
    | nil =>
      have hhead : r.head = none := h.head_eq
      obtain rfl : a = t := by simpa using ht
      simp [Linked, RingList.addFront, hhead]
    | cons b l =>
      have hhead : r.head = some b := h.head_eq
      obtain ⟨hab, hal⟩ : a ≠ b ∧ a ∉ l := by simpa using ha
      have hbl : b ∉ l := (List.nodup_cons.mp h.nodup).1
      obtain ⟨hp, hn, hl⟩ := h.linked t (by simpa using ht)
      refine ⟨?_, ?_, ?_, ?_, ?_⟩
      · simp [RingList.addFront, hhead, hab, hp]
      · simp [RingList.addFront, hhead]
      · simp [RingList.addFront, hhead]
      · simp [RingList.addFront, Ne.symm hab, hn]
      · refine hl.congr (fun c hc => ?_) fun c hc => ?_
        · have hca : c ≠ a := fun hca => hal (hca ▸ hc)
          simp [RingList.addFront, hca]
        · have hca : c ≠ a := fun hca => hal (hca ▸ hc)
          have hcb : c ≠ b := fun hcb => hbl (hcb ▸ hc)
          simp [RingList.addFront, hhead, hca, hcb]

/-- The head is unlinked. -/
lemma Represents.del_head [DecidableEq ν] (h : r.Represents (a :: l)) : (r.del a).Represents l := by
  obtain ⟨hal, hnodup⟩ := List.nodup_cons.mp h.nodup
  have hhead : r.head = some a := h.head_eq
  obtain ⟨hprev, hnext, hl⟩ := h.linked _ (List.getLast?_eq_some_getLast (List.cons_ne_nil a l))
  rw [Option.or_none] at hnext
  have hunlink : r.unlink a = { r with head := l.head? } := by
    rw [unlink, if_pos hhead, hnext]
  cases l with
  | nil =>
    have hdel : r.del a = { r with head := none } := by
      simp only [RingList.del, hunlink, hnext, List.head?_nil]
    rw [hdel]
    exact represents_nil ..
  | cons b l =>
    have hdel : r.del a =
        { r with head := some b, prev := Function.update r.prev b (r.prev a) } := by
      simp only [RingList.del, hunlink, hnext, List.head?_cons]
    rw [hdel]
    refine ⟨hnodup, rfl, fun t ht => ?_⟩
    have hlast : r.prev a = t := by
      rw [hprev]
      rw [List.getLast?_eq_some_getLast (by simp), Option.some_inj] at ht
      rw [← ht, List.getLast_cons (by simp)]
    rw [hlast]
    exact hl.update_prev (List.nodup_cons.mp hnodup).1

/-- A node that has another one before it is unlinked. -/
lemma Represents.del_append [DecidableEq ν] {q : ν} {l' : List ν}
    (h : r.Represents ((l ++ [q]) ++ a :: l')) : (r.del a).Represents ((l ++ [q]) ++ l') := by
  obtain ⟨hpre, hpost, hdisj⟩ := List.nodup_append'.mp h.nodup
  obtain ⟨hal', hl'⟩ := List.nodup_cons.mp hpost
  have hapre : a ∉ l ++ [q] := fun ha => hdisj ha (List.mem_cons_self ..)
  have hql : q ∉ l := fun hq => (List.nodup_append'.mp hpre).2.2 hq (List.mem_singleton_self q)
  have hdisj' : List.Disjoint (l ++ [q]) l' := fun b hb hb' => hdisj hb (List.mem_cons_of_mem _ hb')
  have hnodup : ((l ++ [q]) ++ l').Nodup := List.nodup_append'.mpr ⟨hpre, hl', hdisj'⟩
  have hheadl : ∀ l₁ l₂ : List ν, ((l ++ [q]) ++ l₁).head? = ((l ++ [q]) ++ l₂).head? := by
    cases l <;> simp
  obtain ⟨t₀, ht₀⟩ : ∃ t, ((l ++ [q]) ++ a :: l').getLast? = some t :=
    ⟨_, List.getLast?_eq_some_getLast (by simp)⟩
  have hlinked := h.linked t₀ ht₀
  rw [linked_append] at hlinked
  obtain ⟨hbefore, hprev, hnext, hafter⟩ := hlinked
  rw [List.getLast?_append, List.getLast?_singleton, Option.some_or, Option.getD_some] at hprev
  rw [Option.or_none] at hnext
  have hhead : r.head ≠ some a := by
    rw [h.head_eq, hheadl _ []]
    exact fun hhead => hapre (by simpa using List.mem_of_mem_head? hhead)
  have hunlink : r.unlink a = { r with next := Function.update r.next q l'.head? } := by
    rw [unlink, if_neg hhead, hprev, hnext]
  have haq : a ≠ q := fun haq => hapre (by simp [haq])
  cases l' with
  | nil =>
    -- the last node is unlinked: the head now points to its predecessor
    obtain ⟨b, l₁, hb⟩ : ∃ b l₁, l ++ [q] = b :: l₁ := List.exists_cons_of_ne_nil (by simp)
    have hheadr : r.head = some b := by
      rw [h.head_eq, hheadl _ [], List.append_nil, hb, List.head?_cons]
    have hdel : r.del a = ⟨some b, Function.update r.next q none, Function.update r.prev b q⟩ := by
      simp only [RingList.del, hunlink, Function.update_of_ne haq, hnext, List.head?_nil, hheadr, hprev]
    rw [hdel, List.append_nil]
    refine ⟨hpre, by rw [hb]; rfl, fun t ht => ?_⟩
    obtain rfl : q = t := by simpa using ht
    have hseg : Linked (Function.update r.next q none) r.prev t₀ (l ++ [q]) none :=
      hbefore.update_next hql
    rw [hb] at hseg hpre ⊢
    exact hseg.update_prev (List.nodup_cons.mp hpre).1
  | cons b l' =>
    have hdel : r.del a =
        ⟨r.head, Function.update r.next q (some b), Function.update r.prev b q⟩ := by
      simp only [RingList.del, hunlink, Function.update_of_ne haq, hnext, List.head?_cons, hprev]
    rw [hdel]
    refine ⟨hnodup, ?_, fun t ht => ?_⟩
    · rw [h.head_eq]
      exact hheadl _ _
    · rw [linked_append, List.getLast?_append, List.getLast?_singleton, Option.some_or,
        Option.getD_some]
      have hlast : ((l ++ [q]) ++ a :: b :: l').getLast? = some t := by
        simpa [List.getLast?_append] using ht
      have hbefore' := (linked_append.mp (h.linked t hlast)).1
      constructor
      · refine (hbefore'.update_next hql).congr (fun _ _ => rfl) fun c hc => ?_
        have hcb : c ≠ b := fun hcb => hdisj' hc (by simp [hcb])
        exact Function.update_of_ne hcb ..
      · refine Linked.congr (hafter.update_prev (List.nodup_cons.mp hl').1) (fun c hc => ?_) fun _ _ => rfl
        have hcq : c ≠ q := fun hcq => hdisj' (by simp) (hcq ▸ hc)
        exact Function.update_of_ne hcq ..

lemma Represents.del [DecidableEq ν] (h : r.Represents l) (ha : a ∈ l) :
    (r.del a).Represents (l.erase a) := by
  obtain ⟨l₁, l₂, hmem, rfl, herase⟩ := List.exists_erase_eq ha
  rw [herase]
  rcases List.eq_nil_or_concat l₁ with rfl | ⟨l₀, q, rfl⟩
  · exact h.del_head
  · rw [List.concat_eq_append] at h ⊢
    exact h.del_append

end RingList
