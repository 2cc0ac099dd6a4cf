import Mathlib.Data.List.Basic
import Mathlib.Data.List.Infix

/-!
# Elements

A management frame is made of elements: an identifier, a length of one byte and as many bytes as the length says.  A
reader walks over the whole elements of a byte string, from the front, and may stop behind an element of a certain
kind.  Here it is said where such a walk ends.
-/

namespace Wire

/-- An element. -/
structure Element where
  id : UInt8
  body : List UInt8
  length_body : body.length < 256
  deriving DecidableEq

namespace Element

/-- The length byte of an element. -/
def len (e : Element) : UInt8 := UInt8.ofNat e.body.length

/-- An element as it is written. -/
def bytes (e : Element) : List UInt8 := e.id :: e.len :: e.body

@[simp] lemma toNat_len (e : Element) : e.len.toNat = e.body.length :=
  UInt8.toNat_ofNat_of_lt' e.length_body

@[simp] lemma length_bytes (e : Element) : e.bytes.length = e.body.length + 2 := rfl

end Element

/-- The two bytes at the front of an element. -/
lemma header_of_drop {buf rest : List UInt8} {pos : ℕ} {e : Element} (hdrop : buf.drop pos = e.bytes ++ rest) :
    buf[pos]? = some e.id ∧ buf[pos + 1]? = some e.len := by
  have hid : (buf.drop pos)[0]? = some e.id := by rw [hdrop]; rfl
  have hlen : (buf.drop pos)[1]? = some e.len := by rw [hdrop]; rfl
  rw [List.getElem?_drop] at hid hlen
  exact ⟨hid, hlen⟩

/-- A sequence of elements as it is written. -/
def elementBytes (es : List Element) : List UInt8 := es.flatMap Element.bytes

@[simp] lemma elementBytes_nil : elementBytes [] = [] := rfl

@[simp] lemma elementBytes_cons (e : Element) (es : List Element) :
    elementBytes (e :: es) = e.bytes ++ elementBytes es := List.flatMap_cons

@[simp] lemma elementBytes_append (es fs : List Element) :
    elementBytes (es ++ fs) = elementBytes es ++ elementBytes fs := List.flatMap_append

/-- The whole element at the front of a byte string, and what follows it. -/
def nextElement : List UInt8 → Option (Element × List UInt8)
  | id :: len :: rest =>
    if len.toNat ≤ rest.length then
      some (⟨id, rest.take len.toNat, (List.length_take_le _ _).trans_lt len.toNat_lt⟩, rest.drop len.toNat)
    else none
  | _ => none

lemma nextElement_bytes (e : Element) (rest : List UInt8) : nextElement (e.bytes ++ rest) = some (e, rest) := by
  have hle : e.len.toNat ≤ (e.body ++ rest).length := by simp
  change (if e.len.toNat ≤ (e.body ++ rest).length then _ else none) = _
  rw [if_pos hle]
  simp

lemma nextElement_eq_some_iff {s rest : List UInt8} {e : Element} :
    nextElement s = some (e, rest) ↔ s = e.bytes ++ rest := by
  constructor
  · intro h
    match s, h with
    | id :: len :: tail, h =>
      by_cases hle : len.toNat ≤ tail.length
      · rw [nextElement, if_pos hle] at h
        obtain ⟨rfl, rfl⟩ := Prod.mk.inj (Option.some.inj h)
        simp [Element.bytes, Element.len, Nat.min_eq_left hle]
      · rw [nextElement, if_neg hle] at h
        cases h
  · rintro rfl
    exact nextElement_bytes e rest

lemma length_of_nextElement {s rest : List UInt8} {e : Element} (h : nextElement s = some (e, rest)) :
    rest.length < s.length := by
  rw [nextElement_eq_some_iff.mp h, List.length_append, Element.length_bytes]
  omega

/-! ## The walk -/

/-- The whole elements from the front on, up to one at which the walk stops, and the bytes that are left. -/
def walk (stop : Element → Bool) (s : List UInt8) : List Element × List UInt8 :=
  match h : nextElement s with
  | none => ([], s)
  | some (e, rest) =>
    have := length_of_nextElement h
    if stop e then ([e], rest) else (e :: (walk stop rest).1, (walk stop rest).2)
termination_by s.length

section Walk

variable {stop : Element → Bool} {s rest : List UInt8} {e : Element} {es : List Element}

lemma walk_of_none (h : nextElement s = none) : walk stop s = ([], s) := by
  rw [walk]
  split
  · rfl
  · next heq =>
    rw [h] at heq
    cases heq

lemma walk_bytes (e : Element) (rest : List UInt8) :
    walk stop (e.bytes ++ rest) =
      if stop e then ([e], rest) else (e :: (walk stop rest).1, (walk stop rest).2) := by
  rw [walk]
  split
  · next heq =>
    rw [nextElement_bytes] at heq
    cases heq
  · next heq =>
    rw [nextElement_bytes] at heq
    obtain ⟨rfl, rfl⟩ := Prod.mk.inj (Option.some.inj heq)
    rfl

lemma walk_stop (hstop : stop e = true) : walk stop (e.bytes ++ rest) = ([e], rest) := by
  rw [walk_bytes, if_pos hstop]

lemma walk_cons (hstop : stop e = false) :
    walk stop (e.bytes ++ rest) = (e :: (walk stop rest).1, (walk stop rest).2) := by
  rw [walk_bytes, hstop]
  rfl

/-- Each byte string starts with no whole element or with one. -/
lemma bytes_cases (s : List UInt8) :
    nextElement s = none ∨ ∃ (e : Element) (rest : List UInt8), s = e.bytes ++ rest := by
  rcases h : nextElement s with _ | ⟨e, rest⟩
  · exact Or.inl rfl
  · exact Or.inr ⟨e, rest, nextElement_eq_some_iff.mp h⟩

/-- Induction along a walk that does not stop. -/
@[elab_as_elim]
lemma elements_induction {motive : List UInt8 → Prop} (s : List UInt8)
    (none : ∀ s, nextElement s = none → motive s)
    (next : ∀ (e : Element) rest, motive rest → motive (e.bytes ++ rest)) : motive s := by
  induction hn : s.length using Nat.strong_induction_on generalizing s with
  | _ n ih =>
    rcases bytes_cases s with h | ⟨e, rest, rfl⟩
    · exact none s h
    · apply next
      apply ih rest.length _ rest rfl
      rw [← hn, List.length_append, Element.length_bytes]
      omega

/-- The elements of the walk and what is left make up the string. -/
lemma walk_append (stop : Element → Bool) (s : List UInt8) : elementBytes (walk stop s).1 ++ (walk stop s).2 = s := by
  induction s using elements_induction with
  | none s h => rw [walk_of_none h, elementBytes_nil, List.nil_append]
  | next e rest ih =>
    cases hstop : stop e with
    | true => rw [walk_stop hstop, elementBytes_cons, elementBytes_nil, List.append_nil]
    | false => rw [walk_cons hstop, elementBytes_cons, List.append_assoc, ih]

/-- The walk ends behind the first element at which it stops or where there is no further whole element. -/
lemma walk_ends (stop : Element → Bool) (s : List UInt8) :
    (∃ es e, (walk stop s).1 = es ++ [e] ∧ (∀ f ∈ es, stop f = false) ∧ stop e = true) ∨
      (∀ f ∈ (walk stop s).1, stop f = false) ∧ nextElement (walk stop s).2 = none := by
  induction s using elements_induction with
  | none s h =>
    rw [walk_of_none h]
    exact Or.inr ⟨by simp, h⟩
  | next e rest ih =>
    cases hstop : stop e with
    | true =>
      rw [walk_stop hstop]
      exact Or.inl ⟨[], e, rfl, by simp, hstop⟩
    | false =>
      rw [walk_cons hstop]
      rcases ih with ⟨es, f, hes, hall, hf⟩ | ⟨hall, hnone⟩
      · exact Or.inl ⟨e :: es, f, by rw [hes]; rfl, List.forall_mem_cons.mpr ⟨hstop, hall⟩, hf⟩
      · exact Or.inr ⟨List.forall_mem_cons.mpr ⟨hstop, hall⟩, hnone⟩

/-- Nothing is left of a string that is a sequence of elements, unless the walk stops. -/
lemma walk_elementBytes (h : ∀ e ∈ es, stop e = false) :
    walk stop (elementBytes es ++ rest) = (es ++ (walk stop rest).1, (walk stop rest).2) := by
  induction es with
  | nil => rfl
  | cons e es ih =>
    obtain ⟨he, hes⟩ := List.forall_mem_cons.mp h
    rw [elementBytes_cons, List.append_assoc, walk_cons he, ih hes, List.cons_append]

/-- A walk is finished if it has stopped or nothing is left. -/
def Finished (stop : Element → Bool) (s : List UInt8) : Prop :=
  (∃ e ∈ (walk stop s).1, stop e = true) ∨ (walk stop s).2 = []

/-- Exactly the sequences of elements are walked to their ends, and the strings that start with a sequence at whose
last element the walk stops. -/
lemma finished_iff :
    Finished stop s ↔
      (∃ es, s = elementBytes es) ∨ ∃ es e, stop e = true ∧ elementBytes (es ++ [e]) <+: s := by
  have happend := walk_append stop s
  constructor
  · rintro (⟨e, he, hstop⟩ | hrest)
    · rcases walk_ends stop s with ⟨es, f, hes, -, hf⟩ | ⟨hall, -⟩
      · exact Or.inr ⟨es, f, hf, (walk stop s).2, hes ▸ happend⟩
      · rw [hall e he] at hstop
        cases hstop
    · rw [hrest, List.append_nil] at happend
      exact Or.inl ⟨_, happend.symm⟩
  · rintro (⟨es, rfl⟩ | ⟨es, e, hstop, rest, rfl⟩)
    · clear happend
      induction es with
      | nil => exact Or.inr (by rw [elementBytes_nil, walk_of_none rfl])
      | cons e es ih =>
        rw [elementBytes_cons, Finished]
        cases hstop : stop e with
        | true =>
          rw [walk_stop hstop]
          exact Or.inl ⟨e, List.mem_singleton_self e, hstop⟩
        | false =>
          rw [walk_cons hstop]
          rcases ih with ⟨f, hf, hf'⟩ | hrest
          · exact Or.inl ⟨f, List.mem_cons_of_mem e hf, hf'⟩
          · exact Or.inr hrest
    · clear happend
      induction es with
      | nil =>
        rw [List.nil_append, elementBytes_cons, elementBytes_nil, List.append_nil, Finished, walk_stop hstop]
        exact Or.inl ⟨e, List.mem_singleton_self e, hstop⟩
      | cons f es ih =>
        rw [List.cons_append, elementBytes_cons, List.append_assoc, Finished]
        cases hf : stop f with
        | true =>
          rw [walk_stop hf]
          exact Or.inl ⟨f, List.mem_singleton_self f, hf⟩
        | false =>
          rw [walk_cons hf]
          rcases ih with ⟨g, hg, hg'⟩ | hrest
          · exact Or.inl ⟨g, List.mem_cons_of_mem f hg, hg'⟩
          · exact Or.inr hrest

end Walk

/-! ## Where the elements are -/

/-- The elements with the offsets of their bodies, if the first one starts at `off`. -/
def located (off : ℕ) : List Element → List (ℕ × Element)
  | [] => []
  | e :: es => (off + 2, e) :: located (off + e.bytes.length) es

@[simp] lemma map_snd_located (off : ℕ) (es : List Element) : (located off es).map Prod.snd = es := by
  induction es generalizing off with
  | nil => rfl
  | cons e es ih => rw [located, List.map_cons, ih]

/-- A body is where it is said to be, and inside the string. -/
lemma mem_located {off o : ℕ} {e : Element} {es : List Element} (h : (o, e) ∈ located off es) :
    ∃ before after, elementBytes es = before ++ (e.bytes ++ after) ∧ o = off + before.length + 2 := by
  induction es generalizing off with
  | nil => cases h
  | cons f es ih =>
    rcases List.mem_cons.mp h with heq | h
    · obtain ⟨rfl, rfl⟩ := Prod.mk.inj heq
      exact ⟨[], elementBytes es, rfl, rfl⟩
    · obtain ⟨before, after, hes, ho⟩ := ih h
      refine ⟨f.bytes ++ before, after, ?_, ?_⟩
      · rw [elementBytes_cons, hes, List.append_assoc]
      · rw [ho, List.length_append]
        omega

end Wire
