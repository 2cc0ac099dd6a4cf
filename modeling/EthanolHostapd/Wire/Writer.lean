import EthanolHostapd.Wire.Buffer

/-!
# Writers and the room they take

A writer puts something into a buffer from a position on and ends at another position.  The room for a sequence of
writers is the sum of what each of them takes, if each keeps to its share.
-/

namespace Buffer

/-- A writer: from the buffer and a position to the buffer and the position behind what it has put.  It may give up, and
it has no result if it leaves the buffer. -/
abbrev Writer (α : Type*) : Type _ := List α → ℕ → Option (Option (List α × ℕ))

namespace Writer

variable {α : Type*}

/-- Nothing is put. -/
def skip : Writer α := fun bs pos => some (some (bs, pos))

/-- Some elements are put. -/
def put (data : List α) : Writer α := fun bs pos => (write bs pos data).map fun bs => some (bs, pos + data.length)

/-- Another writer goes on where one has ended. -/
def andThen (w next : Writer α) : Writer α := fun bs pos =>
  (w bs pos).bind fun result =>
    match result with
    | none => some none
    | some (bs, pos) => next bs pos

/-- From a position on, the writer keeps to the buffer and takes at most `n` elements of it. -/
def Within (w : Writer α) (n : ℕ) (bs : List α) (pos : ℕ) : Prop :=
  ∃ result, w bs pos = some result ∧
    ∀ bs' pos', result = some (bs', pos') → bs'.length = bs.length ∧ pos' ≤ pos + n

/-- The writer takes at most `n` elements wherever there are as many. -/
def Takes (w : Writer α) (n : ℕ) : Prop := ∀ bs pos, pos + n ≤ bs.length → w.Within n bs pos

variable {w next : Writer α} {data bs : List α} {n m pos : ℕ}

lemma takes_skip : (skip : Writer α).Takes 0 := by
  intro bs pos _
  refine ⟨_, rfl, fun bs' pos' heq => ?_⟩
  obtain ⟨rfl, rfl⟩ := Prod.mk.inj (Option.some.inj heq)
  exact ⟨rfl, Nat.le_refl pos⟩

lemma takes_put (h : data.length ≤ n) : (put data).Takes n := by
  intro bs pos hroom
  have hwrite : pos + data.length ≤ bs.length := by omega
  refine ⟨_, by rw [put, write_eq_some hwrite, Option.map_some], fun bs' pos' heq => ?_⟩
  obtain ⟨rfl, rfl⟩ := Prod.mk.inj (Option.some.inj heq)
  exact ⟨length_splice hwrite, by omega⟩

/-- A writer may take less than its share. -/
lemma Takes.mono (h : w.Takes n) (hle : n ≤ m) : w.Takes m := by
  intro bs pos hroom
  obtain ⟨result, hresult, hafter⟩ := h bs pos (by omega)
  refine ⟨result, hresult, fun bs' pos' heq => ?_⟩
  obtain ⟨hlength, hpos⟩ := hafter bs' pos' heq
  exact ⟨hlength, by omega⟩

/-- What is taken by two writers is the sum of what each takes. -/
lemma Within.andThen (hw : w.Within n bs pos) (hnext : next.Takes m) (hroom : pos + n + m ≤ bs.length) :
    (w.andThen next).Within (n + m) bs pos := by
  obtain ⟨result, hresult, hafter⟩ := hw
  rw [Within, Writer.andThen, hresult, Option.bind_some]
  cases result with
  | none => exact ⟨none, rfl, fun _ _ heq => nomatch heq⟩
  | some after =>
    obtain ⟨bs', pos'⟩ := after
    obtain ⟨hlength, hpos⟩ := hafter bs' pos' rfl
    obtain ⟨result, hresult, hafter⟩ := hnext bs' pos' (by omega)
    refine ⟨result, hresult, fun bs'' pos'' heq => ?_⟩
    obtain ⟨hlength', hpos'⟩ := hafter bs'' pos'' heq
    exact ⟨by omega, by omega⟩

lemma Takes.andThen (hw : w.Takes n) (hnext : next.Takes m) : (w.andThen next).Takes (n + m) := by
  intro bs pos hroom
  exact (hw bs pos (by omega)).andThen hnext (by omega)

/-- A writer that is called under a condition. -/
lemma takes_ite {c : Prop} [Decidable c] (h : w.Takes n) : (if c then w else skip).Takes (if c then n else 0) := by
  split
  · exact h
  · exact takes_skip

end Writer

end Buffer
