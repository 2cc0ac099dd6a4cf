import Mathlib.Data.List.Basic

/-!
# Checked access to a buffer

Reading and writing a number of elements at an offset.  An access that would leave the buffer has no
result, so a function written with these accesses has a result exactly if it stays inside the buffer.
-/

namespace Buffer

variable {α : Type*}

/-- The `n` elements from offset `off` on. -/
def window (bs : List α) (off n : ℕ) : List α := (bs.drop off).take n

/-- The buffer with `data` written over what is at offset `off`. -/
def splice (bs : List α) (off : ℕ) (data : List α) : List α :=
  bs.take off ++ data ++ bs.drop (off + data.length)

/-- Reading `n` elements. -/
def read (bs : List α) (off n : ℕ) : Option (List α) :=
  if off + n ≤ bs.length then some (window bs off n) else none

/-- Writing some elements. -/
def write (bs : List α) (off : ℕ) (data : List α) : Option (List α) :=
  if off + data.length ≤ bs.length then some (splice bs off data) else none

/-- `memmove`: the `n` elements from `src` on are written to `dst`; the two places may overlap. -/
def move (bs : List α) (dst src n : ℕ) : Option (List α) := (read bs src n).bind (write bs dst)

variable {bs data data' : List α} {off off' n : ℕ}

lemma read_eq_some (h : off + n ≤ bs.length) : read bs off n = some (window bs off n) := if_pos h

/-- A function that goes on after a read inside the buffer has a result. -/
lemma isSome_bind_read {β : Type*} {f : List α → Option β} (h : off + n ≤ bs.length)
    (hf : (f (window bs off n)).isSome) : ((read bs off n).bind f).isSome := by
  rw [read_eq_some h]
  exact hf

lemma write_eq_some (h : off + data.length ≤ bs.length) : write bs off data = some (splice bs off data) :=
  if_pos h

/-- A function that goes on after a write has a result if the write is inside the buffer. -/
lemma isSome_bind_write_iff {β : Type*} {f : List α → Option β} :
    ((write bs off data).bind f).isSome = true ↔
      off + data.length ≤ bs.length ∧ (f (splice bs off data)).isSome = true := by
  rw [write]
  split_ifs with h
  · rw [Option.bind_some, and_iff_right h]
  · simp [h]

lemma length_window (h : off + n ≤ bs.length) : (window bs off n).length = n := by
  rw [window, List.length_take, List.length_drop]
  omega

section Reads

variable {β : Type*} {P : β → Prop}

/-- A function that goes on after a read inside the buffer, with a property of the result. -/
lemma exists_bind_read {f : List α → Option β} (h : off + n ≤ bs.length)
    (hf : ∀ block, block.length = n → ∃ b, f block = some b ∧ P b) : ∃ b, (read bs off n).bind f = some b ∧ P b := by
  rw [read_eq_some h, Option.bind_some]
  exact hf _ (length_window h)

lemma exists_bind_get {f : α → Option β} (h : off < bs.length) (hf : ∀ x, ∃ b, f x = some b ∧ P b) :
    ∃ b, (bs[off]?).bind f = some b ∧ P b := by
  rw [List.getElem?_eq_getElem h, Option.bind_some]
  exact hf _

end Reads

/-- The front of a window. -/
lemma window_cons {x : α} (hx : bs[off]? = some x) (hn : 0 < n) : window bs off n = x :: window bs (off + 1) (n - 1) := by
  obtain ⟨m, rfl⟩ := Nat.exists_eq_add_of_le' hn
  obtain ⟨hlt, rfl⟩ := List.getElem?_eq_some_iff.mp hx
  rw [window, window, List.drop_eq_getElem_cons hlt, List.take_succ_cons, Nat.add_sub_cancel]

/-- A window without its front is a later window. -/
lemma drop_window (bs : List α) (off n k : ℕ) : (window bs off n).drop k = window bs (off + k) (n - k) := by
  rw [window, window, List.drop_take, List.drop_drop]

lemma take_window {k : ℕ} (h : k ≤ n) : (window bs off n).take k = window bs off k := by
  rw [window, window, List.take_take, Nat.min_eq_left h]

lemma length_splice (h : off + data.length ≤ bs.length) : (splice bs off data).length = bs.length := by
  rw [splice, List.length_append, List.length_append, List.length_take, List.length_drop]
  omega

lemma length_of_write {bs' : List α} (h : write bs off data = some bs') : bs'.length = bs.length := by
  unfold write at h
  split at h
  · next hle =>
    obtain rfl := Option.some.inj h
    exact length_splice hle
  · cases h

lemma length_of_move {bs' : List α} {dst src : ℕ} (h : move bs dst src n = some bs') : bs'.length = bs.length := by
  obtain ⟨block, -, hwrite⟩ := Option.bind_eq_some_iff.mp h
  exact length_of_write hwrite

lemma exists_write (h : off + data.length ≤ bs.length) :
    ∃ bs', write bs off data = some bs' ∧ bs'.length = bs.length :=
  ⟨_, write_eq_some h, length_splice h⟩

/-- What is at a place after a write. -/
lemma getElem?_splice (h : off + data.length ≤ bs.length) (i : ℕ) :
    (splice bs off data)[i]? = if off ≤ i ∧ i < off + data.length then data[i - off]? else bs[i]? := by
  have htake : (bs.take off).length = off := by
    rw [List.length_take]
    omega
  rw [splice, List.append_assoc]
  by_cases hlt : i < off
  · rw [List.getElem?_append_left (by omega), List.getElem?_take_of_lt hlt, if_neg (by omega)]
  · rw [List.getElem?_append_right (by omega), htake]
    by_cases hin : i - off < data.length
    · rw [List.getElem?_append_left hin, if_pos (by omega)]
    · rw [List.getElem?_append_right (by omega), List.getElem?_drop, if_neg (by omega)]
      congr 1
      omega

lemma getElem?_window (i : ℕ) : (window bs off n)[i]? = if i < n then bs[off + i]? else none := by
  rw [window]
  split_ifs with h
  · rw [List.getElem?_take_of_lt h, List.getElem?_drop]
  · rw [List.getElem?_take_eq_none (by omega)]

/-- Writing back what was there. -/
lemma splice_window (h : off + n ≤ bs.length) : splice bs off (window bs off n) = bs := by
  refine List.ext_getElem? fun i => ?_
  rw [getElem?_splice (by rw [length_window h]; exact h), length_window h, getElem?_window]
  split_ifs with hin hlt
  · congr 1
    omega
  · omega
  · rfl

/-- A second write at the same place that is at least as long. -/
lemma splice_splice_of_le (hdata : data.length ≤ data'.length) (h : off + data'.length ≤ bs.length) :
    splice (splice bs off data) off data' = splice bs off data' := by
  have hfirst : off + data.length ≤ bs.length := by omega
  refine List.ext_getElem? fun i => ?_
  rw [getElem?_splice (by rw [length_splice hfirst]; exact h), getElem?_splice hfirst, getElem?_splice h]
  split_ifs with hin hold
  · rfl
  · omega
  · rfl

/-- A second write at the same place. -/
lemma splice_splice (hdata : data.length = data'.length) (h : off + data.length ≤ bs.length) :
    splice (splice bs off data) off data' = splice bs off data' :=
  splice_splice_of_le (Nat.le_of_eq hdata) (hdata ▸ h)

/-- Writes at different places do not depend on their order. -/
lemma splice_comm (h : off + data.length ≤ bs.length) (h' : off' + data'.length ≤ bs.length)
    (hdisj : off + data.length ≤ off' ∨ off' + data'.length ≤ off) :
    splice (splice bs off data) off' data' = splice (splice bs off' data') off data := by
  refine List.ext_getElem? fun i => ?_
  rw [getElem?_splice (by rw [length_splice h]; omega), getElem?_splice h,
    getElem?_splice (by rw [length_splice h']; omega), getElem?_splice h']
  split_ifs with h₁ h₂ h₂ <;> first | rfl | omega

/-- What is read at another place is not affected by a write. -/
lemma window_splice_of_disjoint (h : off + data.length ≤ bs.length)
    (hdisj : off + data.length ≤ off' ∨ off' + n ≤ off) :
    window (splice bs off data) off' n = window bs off' n := by
  refine List.ext_getElem? fun i => ?_
  rw [getElem?_window, getElem?_window]
  split_ifs with hi
  · rw [getElem?_splice h, if_neg (by omega)]
  · rfl

/-- What was written is read. -/
lemma window_splice (h : off + data.length ≤ bs.length) : window (splice bs off data) off data.length = data := by
  refine List.ext_getElem? fun i => ?_
  rw [getElem?_window]
  split_ifs with hi
  · rw [getElem?_splice h, if_pos (by omega)]
    congr 1
    omega
  · rw [List.getElem?_eq_none (by omega)]

/-- What is before a write stays as it is, even if the write makes the buffer longer. -/
lemma getD_splice_of_lt {i : ℕ} (hi : i < off) (hlen : i < bs.length) (d : α) :
    (splice bs off data).getD i d = bs.getD i d := by
  have htake : i < (bs.take off).length := by
    rw [List.length_take]
    omega
  rw [List.getD_eq_getElem?_getD, List.getD_eq_getElem?_getD, splice, List.append_assoc,
    List.getElem?_append_left htake, List.getElem?_take_of_lt hi]

lemma le_length_splice : bs.length ≤ (splice bs off data).length := by
  rw [splice, List.length_append, List.length_append, List.length_take, List.length_drop]
  omega

/-- A write that changes nothing. -/
lemma splice_eq_self_iff (h : off + data.length ≤ bs.length) :
    splice bs off data = bs ↔ window bs off data.length = data := by
  constructor
  · intro heq
    rw [← heq, window_splice h]
  · intro heq
    rw [← heq, splice_window h]

/-- A write to the first part of a buffer. -/
lemma splice_append_left {rest : List α} (h : off + data.length ≤ bs.length) :
    splice (bs ++ rest) off data = splice bs off data ++ rest := by
  rw [splice, splice, List.take_append_of_le_length (by omega), List.drop_append_of_le_length h]
  simp

/-- A write to the second part of a buffer. -/
lemma splice_append_right {rest : List α} :
    splice (bs ++ rest) (bs.length + off) data = bs ++ splice rest off data := by
  rw [splice, splice, List.take_length_add_append, Nat.add_assoc, List.drop_length_add_append]
  simp

/-! ## Blocks of a buffer -/

section Blocks

variable {before block after : List α}

lemma read_block (hoff : off = before.length) (hn : n = block.length) :
    read (before ++ (block ++ after)) off n = some block := by
  subst hoff hn
  rw [read_eq_some (by simp), window, List.drop_left, List.take_left]

lemma write_block (hoff : off = before.length) (hlength : data.length = block.length) :
    write (before ++ (block ++ after)) off data = some (before ++ (data ++ after)) := by
  subst hoff
  rw [write_eq_some (by simp [hlength]), splice, List.take_left, ← List.drop_drop, List.drop_left,
    List.drop_left' hlength.symm, List.append_assoc]

/-- A write where the front ends. -/
lemma write_front (hoff : off = before.length) (hroom : data.length ≤ after.length) :
    write (before ++ after) off data = some ((before ++ data) ++ after.drop data.length) := by
  have hblock : write (before ++ (after.take data.length ++ after.drop data.length)) off data =
      some (before ++ (data ++ after.drop data.length)) :=
    write_block hoff (by rw [List.length_take, Nat.min_eq_left hroom])
  rwa [List.take_append_drop, ← List.append_assoc] at hblock

/-- Writing the element behind the front. -/
lemma write_one (x y : α) : write (before ++ x :: after) before.length [y] = some ((before ++ [y]) ++ after) := by
  have hone : ([y] : List α).length ≤ (x :: after).length := Nat.succ_le_succ (Nat.zero_le _)
  exact write_front rfl hone

/-- A block that is moved to the right leaves a gap for what is put in its place. -/
lemma move_right {gap : ℕ} (hsrc : off = before.length) (hdst : off' = before.length + gap) (hn : n = block.length)
    (hgap : gap ≤ after.length) :
    move (before ++ (block ++ after)) off' off n =
      some (before ++ ((block ++ after).take gap ++ (block ++ after.drop gap))) := by
  subst hsrc hdst hn
  have hdrop : (block ++ after).drop (gap + block.length) = after.drop gap := by
    rw [Nat.add_comm, List.drop_length_add_append]
  rw [move, read_block rfl rfl, Option.bind_some, write_eq_some (by simp; omega), splice, List.take_length_add_append,
    Nat.add_assoc, List.drop_length_add_append, hdrop, List.append_assoc, List.append_assoc]

/-- A block that is moved to the left covers what was in front of it. -/
lemma move_left {gone : List α} (hdst : off' = before.length) (hsrc : off = before.length + gone.length)
    (hn : n = block.length) :
    move (before ++ (gone ++ (block ++ after))) off' off n =
      some (before ++ (block ++ (gone ++ (block ++ after)).drop block.length)) := by
  subst hsrc hdst hn
  have hread : read (before ++ (gone ++ (block ++ after))) (before.length + gone.length) block.length = some block := by
    rw [← List.append_assoc]
    exact read_block (by simp) rfl
  rw [move, hread, Option.bind_some, write_eq_some (by simp; omega), splice, List.take_left, List.drop_length_add_append,
    List.append_assoc]

/-- Moving a block to the right and filling the gap inserts bytes. -/
lemma move_right_write {gap : ℕ} (hsrc : off = before.length) (hdst : off' = before.length + gap)
    (hn : n = block.length) (hdata : data.length = gap) (hgap : gap ≤ after.length) :
    ((move (before ++ (block ++ after)) off' off n).bind fun bs => write bs off data) =
      some (before ++ (data ++ (block ++ after.drop gap))) := by
  rw [move_right hsrc hdst hn hgap, Option.bind_some, write_block hsrc]
  rw [List.length_take, List.length_append]
  omega

end Blocks

end Buffer
