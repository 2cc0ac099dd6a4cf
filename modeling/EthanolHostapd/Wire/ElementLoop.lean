import EthanolHostapd.Wire.Elements

/-!
# A loop over elements

The loop that takes the two bytes of an element's header, stops if the element is cut off, and else goes on behind it.
It is written with checked access to a buffer, and it does the same as going through the whole elements of the part
of the buffer that it gets.
-/

namespace Wire

variable {σ : Type*}

/-- What is done with an element: from the identifier, the offset of the body, the length byte and the state to the next
state, or `none` for a failure.  The outer option is an access outside the buffer. -/
abbrev ElementBody (σ : Type*) : Type _ := UInt8 → ℕ → UInt8 → σ → Option (Option σ)

/-- The loop from `pos` up to `stop`. -/
def elementLoop (body : ElementBody σ) (buf : List UInt8) (stop pos : ℕ) (st : σ) : Option (Option σ) :=
  if 2 ≤ stop - pos then
    (buf[pos]?).bind fun id => (buf[pos + 1]?).bind fun len =>
      if stop - (pos + 2) < len.toNat then some (some st)
      else
        (body id (pos + 2) len st).bind fun result =>
          match result with
          | none => some none
          | some st => elementLoop body buf stop (pos + 2 + len.toNat) st
  else some (some st)
termination_by stop - pos

/-- Going through elements with the offsets of their bodies. -/
def elementFold (body : ElementBody σ) : List (ℕ × Element) → σ → Option (Option σ)
  | [], st => some (some st)
  | (off, e) :: es, st =>
    (body e.id off e.len st).bind fun result =>
      match result with
      | none => some none
      | some st => elementFold body es st

variable {body : ElementBody σ} {buf rest back : List UInt8} {stop pos : ℕ} {st : σ} {es : List Element} {e : Element}

/-- An element that is cut off ends the loop. -/
lemma elementLoop_none (hdrop : buf.drop pos = rest ++ back) (hstop : stop = pos + rest.length)
    (hnone : nextElement rest = none) : elementLoop body buf stop pos st = some (some st) := by
  rw [elementLoop]
  match rest with
  | [] => rw [if_neg (by simp [hstop])]
  | [_] => rw [if_neg (by simp [hstop])]
  | id :: len :: tail =>
    have hshort : tail.length < len.toNat := by
      rw [nextElement] at hnone
      split at hnone
      · cases hnone
      · next hlt => exact Nat.lt_of_not_le hlt
    have hid : (buf.drop pos)[0]? = some id := by rw [hdrop]; rfl
    have hlen : (buf.drop pos)[1]? = some len := by rw [hdrop]; rfl
    rw [List.getElem?_drop] at hid hlen
    rw [List.length_cons, List.length_cons] at hstop
    rw [if_pos (by omega), show buf[pos]? = some id from hid, hlen, Option.bind_some, Option.bind_some,
      if_pos (by omega)]

/-- The loop goes through the whole elements. -/
theorem elementLoop_eq (hdrop : buf.drop pos = elementBytes es ++ rest ++ back)
    (hstop : stop = pos + (elementBytes es ++ rest).length) (hnone : nextElement rest = none) :
    elementLoop body buf stop pos st = elementFold body (located pos es) st := by
  induction es generalizing pos st with
  | nil => exact elementLoop_none hdrop hstop hnone
  | cons e es ih =>
    rw [elementBytes_cons, List.append_assoc] at hstop
    rw [elementBytes_cons, List.append_assoc, List.append_assoc] at hdrop
    obtain ⟨hid, hlen⟩ := header_of_drop hdrop
    have hnext : buf.drop (pos + e.bytes.length) = elementBytes es ++ rest ++ back := by
      rw [← List.drop_drop, hdrop, List.drop_left, List.append_assoc]
    have hbytes := e.length_bytes
    rw [List.length_append] at hstop
    have hafter : pos + 2 + e.len.toNat = pos + e.bytes.length := by
      rw [Element.toNat_len]
      omega
    have hfits : ¬stop - (pos + 2) < e.len.toNat := by
      rw [Element.toNat_len]
      omega
    rw [elementLoop, if_pos (by omega), hid, hlen, Option.bind_some, Option.bind_some, if_neg hfits, hafter, located,
      elementFold]
    cases body e.id (pos + 2) e.len st with
    | none => rfl
    | some result =>
      cases result with
      | none => rfl
      | some st' => exact ih hnext (by omega)

/-- What holds of the elements that have been gone through and of the state, if each element keeps it. -/
theorem elementFold_invariant {I : List (ℕ × Element) → σ → Prop} {seen todo : List (ℕ × Element)}
    (hstep : ∀ seen off e st, (off, e) ∈ todo → I seen st →
      ∃ result, body e.id off e.len st = some result ∧ ∀ st', result = some st' → I (seen ++ [(off, e)]) st')
    (hinit : I seen st) :
    ∃ result, elementFold body todo st = some result ∧ ∀ st', result = some st' → I (seen ++ todo) st' := by
  induction todo generalizing seen st with
  | nil =>
    refine ⟨some st, rfl, fun st' heq => ?_⟩
    obtain rfl := Option.some.inj heq
    rw [List.append_nil]
    exact hinit
  | cons p todo ih =>
    obtain ⟨off, e⟩ := p
    obtain ⟨result, hresult, hkeeps⟩ := hstep seen off e st List.mem_cons_self hinit
    rw [elementFold, hresult, Option.bind_some]
    cases result with
    | none => exact ⟨none, rfl, fun _ heq => nomatch heq⟩
    | some st' =>
      have hrest := ih (fun seen off e st hmem => hstep seen off e st (List.mem_cons_of_mem _ hmem)) (hkeeps st' rfl)
      rw [List.append_assoc] at hrest
      exact hrest

/-- What holds when all elements have been gone through. -/
theorem elementFold_run {I : List (ℕ × Element) → σ → Prop} {todo : List (ℕ × Element)}
    (hstep : ∀ seen off e st, (off, e) ∈ todo → I seen st →
      ∃ result, body e.id off e.len st = some result ∧ ∀ st', result = some st' → I (seen ++ [(off, e)]) st')
    (hinit : I [] st) : ∃ result, elementFold body todo st = some result ∧ ∀ st', result = some st' → I todo st' :=
  elementFold_invariant hstep hinit

/-- A body that does not fail goes through all elements, and keeps what each step of it keeps. -/
theorem elementFold_total {I : List (ℕ × Element) → σ → Prop} {seen todo : List (ℕ × Element)}
    (hstep : ∀ seen off e st, (off, e) ∈ todo → I seen st →
      ∃ st', body e.id off e.len st = some (some st') ∧ I (seen ++ [(off, e)]) st')
    (hinit : I seen st) : ∃ st', elementFold body todo st = some (some st') ∧ I (seen ++ todo) st' := by
  induction todo generalizing seen st with
  | nil => exact ⟨st, rfl, by rwa [List.append_nil]⟩
  | cons p todo ih =>
    obtain ⟨off, e⟩ := p
    obtain ⟨st', hst', hkeeps⟩ := hstep seen off e st List.mem_cons_self hinit
    rw [elementFold, hst', Option.bind_some]
    have hrest := ih (fun seen off e st hmem => hstep seen off e st (List.mem_cons_of_mem _ hmem)) hkeeps
    rwa [List.append_assoc] at hrest

/-- The loop up to the end of the buffer goes through the elements of the walk that does not stop. -/
theorem elementLoop_eq_walk (hpos : pos ≤ buf.length) :
    elementLoop body buf buf.length pos st = elementFold body (located pos (walk (fun _ => false) (buf.drop pos)).1) st := by
  have happend := walk_append (fun _ => false) (buf.drop pos)
  have hlength := congrArg List.length happend
  rw [List.length_drop] at hlength
  have hdrop : buf.drop pos = elementBytes (walk (fun _ => false) (buf.drop pos)).1 ++
      (walk (fun _ => false) (buf.drop pos)).2 ++ [] := by
    rw [List.append_nil, happend]
  refine elementLoop_eq hdrop (by omega) ?_
  rcases walk_ends (fun _ => false) (buf.drop pos) with ⟨es, e, -, -, hstop⟩ | ⟨-, hnone⟩
  · cases hstop
  · exact hnone

/-- The elements of the walk are inside the buffer. -/
lemma mem_located_walk {off : ℕ} (h : (off, e) ∈ located pos (walk (fun _ => false) (buf.drop pos)).1) :
    pos + 2 ≤ off ∧ buf[off - 1]? = some e.len ∧ off + e.body.length ≤ buf.length := by
  obtain ⟨before, after, hes, rfl⟩ := mem_located h
  have happend := walk_append (fun _ => false) (buf.drop pos)
  rw [hes, List.append_assoc, List.append_assoc] at happend
  obtain ⟨rest, hdrop⟩ : ∃ rest, buf.drop pos = before ++ (e.bytes ++ rest) := ⟨_, happend.symm⟩
  have hlength := congrArg List.length hdrop
  have hhead : buf.drop (pos + before.length) = e.bytes ++ rest := by rw [← List.drop_drop, hdrop, List.drop_left]
  simp only [List.length_drop, List.length_append, Element.length_bytes] at hlength
  exact ⟨by omega, (header_of_drop hhead).2, by omega⟩

/-- The rule for a body that does not fail at elements inside the buffer. -/
theorem elementLoop_total {I : List (ℕ × Element) → σ → Prop} (hpos : pos ≤ buf.length)
    (hstep : ∀ seen off e st, pos + 2 ≤ off → buf[off - 1]? = some e.len → off + e.body.length ≤ buf.length →
      I seen st → ∃ st', body e.id off e.len st = some (some st') ∧ I (seen ++ [(off, e)]) st')
    (hinit : I [] st) :
    ∃ st', elementLoop body buf buf.length pos st = some (some st') ∧
      I (located pos (walk (fun _ => false) (buf.drop pos)).1) st' := by
  rw [elementLoop_eq_walk hpos]
  refine elementFold_total (fun seen off e st hmem hI => ?_) hinit
  obtain ⟨hoff, hlen, hend⟩ := mem_located_walk hmem
  exact hstep seen off e st hoff hlen hend hI

/-- The first located element of a kind. -/
lemma find?_located {P : Element → Bool} {off : ℕ} {es : List Element} {p : ℕ × Element}
    (h : (located off es).find? (fun p => P p.2) = some p) :
    ∃ before after, es = before ++ p.2 :: after ∧ (∀ f ∈ before, P f = false) ∧ P p.2 = true ∧
      p.1 = off + (elementBytes before).length + 2 := by
  induction es generalizing off with
  | nil => cases h
  | cons e es ih =>
    rw [located, List.find?_cons] at h
    cases hP : P e with
    | true =>
      rw [hP] at h
      obtain rfl := Option.some.inj h
      exact ⟨[], es, rfl, by simp, hP, rfl⟩
    | false =>
      rw [hP] at h
      obtain ⟨before, after, hes, hbefore, hp, hoff⟩ := ih h
      refine ⟨e :: before, after, by rw [hes]; rfl, List.forall_mem_cons.mpr ⟨hP, hbefore⟩, hp, ?_⟩
      rw [hoff, elementBytes_cons, List.length_append]
      omega

lemma find?_located_eq_none {P : Element → Bool} {off : ℕ} {es : List Element}
    (h : (located off es).find? (fun p => P p.2) = none) : ∀ e ∈ es, P e = false := by
  intro e he
  rw [← map_snd_located off es] at he
  obtain ⟨p, hp, rfl⟩ := List.mem_map.mp he
  exact Bool.eq_false_iff.mpr (List.find?_eq_none.mp h p hp)

/-- The whole elements at the front of a string and what is left of it. -/
lemma exists_elements (s : List UInt8) : ∃ es rest, s = elementBytes es ++ rest ∧ nextElement rest = none := by
  induction s using elements_induction with
  | none s h => exact ⟨[], s, rfl, h⟩
  | next e rest ih =>
    obtain ⟨es, rest', heq, hnone⟩ := ih
    exact ⟨e :: es, rest', by rw [elementBytes_cons, List.append_assoc, ← heq], hnone⟩

end Wire
