import EthanolHostapd.Utils.Common
import EthanolHostapd.Wire.Buffer

/-!
# Appending to a buffer

Functions that append to a `struct wpabuf` one after the other.  Whether all of them find room only depends on how many
bytes each of them appends, and on whether it does without if there is not enough room.
-/

namespace Ethanol

open Wire

namespace Wpabuf

/-- What is appended to a buffer; there is no result if the program is aborted. -/
abbrev Put : Type := Wpabuf → Option Wpabuf

namespace Put

def skip : Put := some

/-- `wpabuf_put_data`, or several such calls. -/
def put (data : List UInt8) : Put := fun buf => buf.putData data

def andThen (p q : Put) : Put := fun buf => (p buf).bind q

/-- One function after the other. -/
def all : List Put → Put
  | [] => skip
  | p :: ps => p.andThen (all ps)

/-- Only if there is room for `n` bytes. -/
def ifRoom (p : Put) (n : ℕ) : Put := fun buf => if buf.tailroom < n then some buf else p buf

/-- A length field of `w` bytes that is set when what it counts has been appended. -/
def counted (w : ℕ) (p : Put) : Put := fun buf =>
  (buf.putData (List.replicate w 0)).bind fun buf₁ => (p buf₁).map fun buf₂ =>
    { buf₂ with buf := Buffer.splice buf₂.buf buf.buf.length (leBytes w (buf₂.buf.length - buf₁.buf.length)) }

end Put

/-- A number of bytes that is appended in any case or only if there is room for it; or something else goes wrong. -/
inductive Section
  | fixed (n : ℕ)
  | optional (n : ℕ)
  | broken

/-- The room that is left of `r` bytes, if the sections fit. -/
def left : List Section → ℕ → Option ℕ
  | [], r => some r
  | .fixed n :: ss, r => if n ≤ r then left ss (r - n) else none
  | .optional n :: ss, r => left ss (if n ≤ r then r - n else r)
  | .broken :: _, _ => none

lemma left_append (ss ts : List Section) (r : ℕ) : left (ss ++ ts) r = (left ss r).bind (left ts) := by
  induction ss generalizing r with
  | nil => rfl
  | cons s ss ih =>
    cases s with
    | fixed n =>
      rw [List.cons_append, left, left]
      split_ifs
      · exact ih _
      · rfl
    | optional n =>
      rw [List.cons_append, left, left]
      exact ih _
    | broken => rfl

lemma left_fixed_add (n m r : ℕ) : left [.fixed n, .fixed m] r = left [.fixed (n + m)] r := by
  simp only [left]
  split_ifs <;> first | rfl | omega | (rw [Nat.sub_sub])

lemma left_le {ss : List Section} {r r' : ℕ} (h : left ss r = some r') : r' ≤ r := by
  induction ss generalizing r with
  | nil => exact (Option.some.inj h).ge
  | cons s ss ih =>
    cases s with
    | fixed n =>
      rw [left] at h
      split_ifs at h
      have hle := ih h
      omega
    | optional n =>
      rw [left] at h
      have hle := ih h
      split_ifs at hle <;> omega
    | broken => cases h

/-- There are not more bytes than there is room for. -/
def Valid (buf : Wpabuf) : Prop := buf.buf.length ≤ buf.size

/-- The function appends what the sections say. -/
structure Put.Realizes (p : Put) (ss : List Section) : Prop where
  tailroom : ∀ buf : Wpabuf, buf.Valid → (p buf).map Wpabuf.tailroom = left ss buf.tailroom
  valid : ∀ buf buf' : Wpabuf, buf.Valid → p buf = some buf' → buf'.Valid ∧ buf'.size = buf.size

/-- The function appends `n` bytes. -/
def Put.Takes (p : Put) (n : ℕ) : Prop := p.Realizes [.fixed n]

namespace Put

variable {p q : Put} {ss ts : List Section} {n m : ℕ}

lemma realizes_skip : skip.Realizes [] where
  tailroom _ _ := rfl
  valid buf buf' hbuf h := by
    obtain rfl := Option.some.inj h
    exact ⟨hbuf, rfl⟩

lemma Realizes.andThen (hp : p.Realizes ss) (hq : q.Realizes ts) : (p.andThen q).Realizes (ss ++ ts) where
  tailroom buf hbuf := by
    rw [left_append, ← hp.tailroom buf hbuf, Put.andThen]
    cases h : p buf with
    | none => rfl
    | some buf' =>
      rw [Option.bind_some, Option.map_some, Option.bind_some]
      exact hq.tailroom buf' (hp.valid buf buf' hbuf h).1
  valid buf buf'' hbuf h := by
    obtain ⟨buf', h', h''⟩ := Option.bind_eq_some_iff.mp h
    obtain ⟨hvalid, hsize⟩ := hp.valid buf buf' hbuf h'
    obtain ⟨hvalid', hsize'⟩ := hq.valid buf' buf'' hvalid h''
    exact ⟨hvalid', hsize'.trans hsize⟩

/-- The functions of a list, each with its sections. -/
lemma realizes_all {ps : List Put} {sss : List (List Section)} (h : List.Forall₂ Put.Realizes ps sss) :
    (all ps).Realizes sss.flatten := by
  induction h with
  | nil => exact realizes_skip
  | cons hp _ ih => exact hp.andThen ih

lemma Takes.of_eq (hp : p.Takes n) (h : n = m) : p.Takes m := h ▸ hp

lemma takes_put (data : List UInt8) : (put data).Takes data.length where
  tailroom buf hbuf := by
    rw [put, putData, left, left]
    unfold Wpabuf.Valid at hbuf
    by_cases h : buf.size < buf.buf.length + data.length
    · rw [if_pos h, if_neg (by rw [Wpabuf.tailroom]; omega), Option.map_none]
    · rw [if_neg h, if_pos (by rw [Wpabuf.tailroom]; omega), Option.map_some]
      simp only [Wpabuf.tailroom, List.length_append, Option.some_inj]
      omega
  valid buf buf' hbuf h := by
    obtain ⟨hroom, rfl⟩ := putData_eq_some_iff.mp h
    refine ⟨?_, rfl⟩
    rw [Valid, List.length_append]
    exact hroom

lemma Takes.andThen (hp : p.Takes n) (hq : q.Takes m) : (p.andThen q).Takes (n + m) where
  tailroom buf hbuf := by
    rw [← left_fixed_add]
    exact (Realizes.andThen hp hq).tailroom buf hbuf
  valid := (Realizes.andThen hp hq).valid

lemma takes_skip : skip.Takes 0 where
  tailroom buf _ := by simp [skip, left]
  valid := realizes_skip.valid

/-- A loop over a list. -/
lemma takes_all {α : Type*} {f : α → Put} {len : α → ℕ} {l : List α} (h : ∀ a ∈ l, (f a).Takes (len a)) :
    (all (l.map f)).Takes (l.map len).sum := by
  induction l with
  | nil => exact takes_skip
  | cons a l ih =>
    rw [List.map_cons, List.map_cons, List.sum_cons]
    exact (h a List.mem_cons_self).andThen (ih fun b hb => h b (List.mem_cons_of_mem _ hb))

/-- The length field is part of what is appended. -/
lemma Takes.counted (hp : p.Takes n) (w : ℕ) : (p.counted w).Takes (w + n) := by
  have hboth := (takes_put (List.replicate w 0)).andThen hp
  rw [List.length_replicate] at hboth
  -- setting the length changes neither the size nor the number of bytes
  have hset : ∀ buf buf' : Wpabuf, buf.Valid → p.counted w buf = some buf' →
      ∃ buf₂, ((put (List.replicate w 0)).andThen p) buf = some buf₂ ∧ buf'.size = buf₂.size ∧
        buf'.buf.length = buf₂.buf.length := by
    intro buf buf' hbuf h
    obtain ⟨buf₁, h₁, h⟩ := Option.bind_eq_some_iff.mp h
    obtain ⟨buf₂, h₂, rfl⟩ := Option.map_eq_some_iff.mp h
    refine ⟨buf₂, Option.bind_eq_some_iff.mpr ⟨buf₁, h₁, h₂⟩, rfl, Buffer.length_splice ?_⟩
    obtain ⟨hroom, rfl⟩ := putData_eq_some_iff.mp h₁
    have hvalid : Wpabuf.Valid ⟨buf.size, buf.buf ++ List.replicate w 0⟩ := by
      rw [Valid, List.length_append]
      exact hroom
    have htailroom := hp.tailroom _ hvalid
    obtain ⟨hvalid₂, hsize⟩ := hp.valid _ _ hvalid h₂
    rw [h₂, Option.map_some] at htailroom
    have hle := left_le htailroom.symm
    simp only [Wpabuf.tailroom, Valid, List.length_append, List.length_replicate] at hle hvalid₂ hsize hroom
    rw [length_leBytes]
    omega
  constructor
  · intro buf hbuf
    rw [← hboth.tailroom buf hbuf]
    cases h : p.counted w buf with
    | some buf' =>
      obtain ⟨buf₂, h₂, hsize, hlength⟩ := hset buf buf' hbuf h
      rw [h₂, Option.map_some, Option.map_some, Wpabuf.tailroom, Wpabuf.tailroom, hsize, hlength]
    | none =>
      suffices hnone : ((put (List.replicate w 0)).andThen p) buf = none by rw [hnone]
      rw [Put.counted, Option.bind_eq_none_iff] at h
      rw [Put.andThen, Option.bind_eq_none_iff]
      exact fun buf₁ h₁ => Option.map_eq_none_iff.mp (h buf₁ h₁)
  · intro buf buf' hbuf h
    obtain ⟨buf₂, h₂, hsize, hlength⟩ := hset buf buf' hbuf h
    obtain ⟨hvalid₂, hsize₂⟩ := hboth.valid buf buf₂ hbuf h₂
    refine ⟨?_, hsize.trans hsize₂⟩
    rw [Valid, hlength, hsize]
    exact hvalid₂

lemma Takes.ifRoom (hp : p.Takes n) : (p.ifRoom n).Realizes [.optional n] where
  tailroom buf hbuf := by
    have h := hp.tailroom buf hbuf
    rw [Put.ifRoom, left, left]
    by_cases hroom : buf.tailroom < n
    · rw [if_pos hroom, if_neg (by omega), Option.map_some]
    · rw [if_neg hroom, if_pos (by omega), h, left, left, if_pos (by omega)]
  valid buf buf' hbuf h := by
    rw [Put.ifRoom] at h
    split_ifs at h
    · obtain rfl := Option.some.inj h
      exact ⟨hbuf, rfl⟩
    · exact hp.valid buf buf' hbuf h

/-- The program fails wherever this is called. -/
def Fails (p : Put) : Prop := ∀ buf, p buf = none

lemma Fails.andThen_left (h : p.Fails) (q : Put) : (p.andThen q).Fails := fun buf => by rw [andThen, h, Option.bind_none]

lemma Fails.andThen_right (h : q.Fails) (p : Put) : (p.andThen q).Fails :=
  fun _ => Option.bind_eq_none_iff.mpr fun buf' _ => h buf'

lemma Fails.counted (h : p.Fails) (w : ℕ) : (p.counted w).Fails := fun _ =>
  Option.bind_eq_none_iff.mpr fun buf' _ => by rw [h, Option.map_none]

lemma fails_all {ps : List Put} (h : ∃ p ∈ ps, Fails p) : (all ps).Fails := by
  obtain ⟨p, hp, hfails⟩ := h
  induction ps with
  | nil => cases hp
  | cons p' ps ih =>
    obtain rfl | hp := List.mem_cons.mp hp
    · exact hfails.andThen_left _
    · exact (ih hp).andThen_right _

lemma Fails.realizes (h : p.Fails) : p.Realizes [.broken] where
  tailroom buf _ := by rw [h, Option.map_none, left]
  valid buf buf' _ h' := by
    rw [h] at h'
    cases h'

/-- These bytes are appended if there is room for them. -/
def Appends (p : Put) (data : List UInt8) : Prop :=
  ∀ buf : Wpabuf, buf.buf.length + data.length ≤ buf.size → p buf = some ⟨buf.size, buf.buf ++ data⟩

lemma appends_skip : skip.Appends [] := fun buf _ => by rw [List.append_nil]; rfl

lemma appends_put (data : List UInt8) : (put data).Appends data := fun buf h =>
  putData_eq_some_iff.mpr ⟨h, rfl⟩

lemma Appends.andThen {data data' : List UInt8} (hp : p.Appends data) (hq : q.Appends data') :
    (p.andThen q).Appends (data ++ data') := by
  intro buf h
  rw [List.length_append] at h
  have hroom : (buf.buf ++ data).length + data'.length ≤ buf.size := by
    rw [List.length_append]
    omega
  rw [Put.andThen, hp buf (by omega), Option.bind_some, hq ⟨buf.size, buf.buf ++ data⟩ hroom, List.append_assoc]

/-- Whether all of it fits is decided by the sections. -/
lemma Realizes.isSome_iff (hp : p.Realizes ss) (size : ℕ) : (p ⟨size, []⟩).isSome = true ↔ (left ss size).isSome = true := by
  have h := hp.tailroom ⟨size, []⟩ (Nat.zero_le _)
  rw [Wpabuf.tailroom, List.length_nil, Nat.sub_zero] at h
  rw [← h, Option.isSome_map]

end Put

end Wpabuf

end Ethanol
