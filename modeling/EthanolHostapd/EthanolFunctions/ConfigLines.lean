import EthanolHostapd.EthanolFunctions.ConfigHostapd

/-!
# The lines of the configuration file

What a configuration file says is what `hostapd_config_read` reads in it: comments, and definitions of
variables in their order.  A line that `hostapd_split_conf` takes apart is printed as it was only if it
`Survives`.
-/

namespace Ethanol

namespace ConfigHostapd

/-! ## What a file says -/

/-- A line without its newline. -/
def content (l : Bytes) : Bytes := l.takeWhile fun c => c ≠ 10

/-- The comment on a line. -/
def comment (l : Bytes) : Option Bytes := if (content l).head? = some 35 then some (content l) else none

/-- The text before the first `=` of a line. -/
def name (l : Bytes) : Bytes := (content l).takeWhile fun c => c ≠ 61

/-- The text behind the first `=` of a line. -/
def value (l : Bytes) : Bytes := ((content l).dropWhile fun c => c ≠ 61).drop 1

/-- The variable and the value that a line defines. -/
def definition (l : Bytes) : Option (Bytes × Bytes) :=
  if (content l).head? = some 35 then none
  else if 61 ∈ content l then some (name l, value l)
  else none

/-- The comments of a file. -/
def comments (file : Bytes) : List Bytes := (lines file).filterMap comment

/-- The definitions of a file, in their order. -/
def definitions (file : Bytes) : List (Bytes × Bytes) := (lines file).filterMap definition

/-- A line that `hostapd_config_read` accepts: a comment, a blank line, or a definition, and short enough for
the buffer. -/
structure IsConfLine (l : Bytes) : Prop where
  kind : (content l).head? = some 35 ∨ content l = [] ∨ 61 ∈ content l
  nonzero : 0 ∉ l
  short : l.length < 2048

/-- A text that can be the name of a variable. -/
structure IsVar (var : Bytes) : Prop where
  ne_nil : var ≠ []
  no_comment : var.head? ≠ some 35
  no_eq : 61 ∉ var
  no_newline : 10 ∉ var
  nonzero : 0 ∉ var

/-- A text that can be a value. -/
structure IsVal (val : Bytes) : Prop where
  no_newline : 10 ∉ val
  nonzero : 0 ∉ val

/-! ## Printing a line -/

/-- What is printed for a line that is not changed, without the newline. -/
def printed (l : Bytes) : Option Bytes :=
  (hostapdSplitConf l).var.map fun var =>
    match (hostapdSplitConf l).val with
    | none => var
    | some val => var ++ 61 :: val

/-- The line is printed as it was: its texts around the first `=` have no spaces at their ends, and there is
no second `=`. -/
def Survives (l : Bytes) : Prop :=
  if 61 ∈ content l then
    name l ≠ [] ∧ Stays (name l) ∧ 61 ∉ value l ∧
      if 10 ∈ l then value l = [] ∨ Trimmed (value l) else value l ≠ [] ∧ Stays (value l)
  else content l = [] ∨ Trimmed (content l)

lemma content_of_notMem {c : Bytes} (hc : 10 ∉ c) : content c = c :=
  List.takeWhile_eq_self_iff.mpr fun b hb => by
    simpa using fun h : b = 10 => hc (h ▸ hb)

lemma content_concat {c : Bytes} (hc : 10 ∉ c) : content (c ++ [10]) = c := by
  rw [content, List.takeWhile_append_of_pos fun b hb => by simpa using fun h : b = 10 => hc (h ▸ hb)]
  simp

lemma notMem_limpaString {b : UInt8} (hb : b = 10 ∨ b = 61) {s : Bytes} (hs : b = 61 → 61 ∉ s) :
    b ∉ limpaString s := by
  have hall : ∀ c ∈ limpaString s, c ≠ b := by
    refine forall_mem_trim (by rcases hb with rfl | rfl <;> decide) fun c hc => ?_
    obtain ⟨c', hc', rfl⟩ := List.mem_map.mp hc
    split_ifs with hnl
    · rcases hb with rfl | rfl <;> decide
    · rcases hb with rfl | rfl
      · exact hnl
      · exact fun h => hs rfl (h ▸ hc')
  exact fun hmem => hall b hmem rfl

lemma limpaString_of_notMem {s : Bytes} (hs : 10 ∉ s) : limpaString s = trim s := by
  rw [limpaString]
  congr 1
  exact (List.map_congr_left fun c hc => if_neg fun h : c = 10 => hs (h ▸ hc)).trans (List.map_id _)

lemma limpaString_concat {s : Bytes} (hs : 10 ∉ s) : limpaString (s ++ [10]) = trim (s ++ [32]) := by
  rw [limpaString, List.map_append]
  congr 2
  exact (List.map_congr_left fun c hc => if_neg fun h : c = 10 => hs (h ▸ hc)).trans (List.map_id _)

/-! ## Tokens -/

lemma strtok_nil : strtok [] = none := rfl

lemma strtok_cons_eq (s : Bytes) : strtok (61 :: s) = strtok s := rfl

/-- A text up to the first `=`. -/
lemma strtok_append {v : Bytes} (hv : 61 ∉ v) (hne : v ≠ []) (s : Bytes) : strtok (v ++ 61 :: s) = some (v, s) := by
  obtain ⟨c, v, rfl⟩ := List.exists_cons_of_ne_nil hne
  have hall : ∀ b ∈ c :: v, decide (b ≠ 61) = true := fun b hb => decide_eq_true fun h => hv (h ▸ hb)
  have hc : decide (c = 61) = false := by simpa using hall c List.mem_cons_self
  have hdrop : (c :: v ++ 61 :: s).dropWhile (fun c => decide (c = 61)) = c :: (v ++ 61 :: s) := by
    rw [List.cons_append, List.dropWhile_cons_of_neg (by simpa using hc)]
  rw [strtok, hdrop]
  dsimp only
  rw [← List.cons_append, List.takeWhile_append_of_pos hall, List.dropWhile_append_of_pos hall]
  simp

/-- A text without `=`. -/
lemma strtok_of_notMem {v : Bytes} (hv : 61 ∉ v) (hne : v ≠ []) : strtok v = some (v, []) := by
  obtain ⟨c, v, rfl⟩ := List.exists_cons_of_ne_nil hne
  have hall : ∀ b ∈ c :: v, decide (b ≠ 61) = true := fun b hb => decide_eq_true fun h => hv (h ▸ hb)
  have hc : decide (c = 61) = false := by simpa using hall c List.mem_cons_self
  have hdrop : (c :: v).dropWhile (fun c => decide (c = 61)) = c :: v := by
    rw [List.dropWhile_cons_of_neg (by simpa using hc)]
  rw [strtok, hdrop]
  dsimp only
  rw [List.takeWhile_eq_self_iff.mpr hall, List.dropWhile_eq_nil_iff.mpr hall, List.drop_nil]

/-- A token is not empty and has no `=` in it. -/
lemma strtok_spec {s t r : Bytes} (h : strtok s = some (t, r)) : t ≠ [] ∧ 61 ∉ t := by
  unfold strtok at h
  split at h
  · exact absurd h (by simp)
  · rename_i c s' hdrop
    obtain ⟨rfl, -⟩ := Prod.mk.inj (Option.some.inj h)
    have hc : c ≠ 61 := by
      have hhead := List.head_dropWhile_not (fun c => decide (c = 61)) (l := s) (by rw [hdrop]; exact List.cons_ne_nil _ _)
      simpa [hdrop] using hhead
    refine ⟨?_, fun hmem => ?_⟩
    · rw [List.takeWhile_cons_of_pos (by simpa using hc)]
      exact List.cons_ne_nil _ _
    · exact absurd (List.mem_takeWhile_imp hmem) (by simp)

/-! ## Which lines survive -/

/-- A line with an `=` and the texts around the first one. -/
lemma content_eq_of_mem {l : Bytes} (h : 61 ∈ content l) : content l = name l ++ 61 :: value l := by
  have hsplit := List.takeWhile_append_dropWhile (p := fun c => decide (c ≠ 61)) (l := content l)
  cases hdrop : (content l).dropWhile fun c => decide (c ≠ 61) with
  | nil =>
    have hall := List.dropWhile_eq_nil_iff.mp hdrop 61 h
    exact absurd hall (by decide)
  | cons c rest =>
    have hc : c = 61 := by
      have hhead := List.head_dropWhile_not (fun c => decide (c ≠ 61)) (l := content l)
        (by rw [hdrop]; exact List.cons_ne_nil _ _)
      simp only [hdrop, List.head_cons] at hhead
      simpa using hhead
    subst hc
    rw [hdrop] at hsplit
    rw [name, value, hdrop, List.drop_one, List.tail_cons, hsplit]

lemma notMem_name (l : Bytes) : 61 ∉ name l := fun hmem => absurd (List.mem_takeWhile_imp hmem) (by simp)

/-- The printed value, for the text behind the first `=` in the file. -/
lemma map_strtok_eq_some_iff {x : Bytes} (hx : 10 ∉ x) (terminated : Bool) :
    (strtok (x ++ if terminated then [10] else [])).map (fun p => limpaString p.1) = some x ↔
      61 ∉ x ∧ if terminated then x = [] ∨ Trimmed x else x ≠ [] ∧ Stays x := by
  by_cases heq : 61 ∈ x
  · refine iff_of_false ?_ fun h => h.1 heq
    intro hsome
    obtain ⟨⟨t, r⟩, htok, hlimpa⟩ := Option.map_eq_some_iff.mp hsome
    have ht := (strtok_spec htok).2
    exact notMem_limpaString (Or.inr rfl) (fun _ => ht) (hlimpa ▸ heq)
  · cases terminated with
    | true =>
      have hnot : 61 ∉ x ++ [10] := by simpa using heq
      rw [if_pos rfl, strtok_of_notMem hnot (by simp), Option.map_some, Option.some_inj, limpaString_concat hx,
        trim_concat_space_iff, and_iff_right heq, if_pos rfl]
    | false =>
      rw [if_neg (by decide), List.append_nil, and_iff_right heq, if_neg (by decide)]
      by_cases hnil : x = []
      · subst hnil
        exact iff_of_false (by simp [strtok_nil]) fun h => h.1 rfl
      · rw [strtok_of_notMem heq hnil, Option.map_some, Option.some_inj, limpaString_of_notMem hx, trim_eq_self_iff,
          and_iff_right hnil]

/-- What is printed for a line with a text before its first `=`. -/
lemma printed_append {v : Bytes} (hv : 61 ∉ v) (hne : v ≠ []) (w : Bytes) :
    printed (v ++ 61 :: w) = some (match (strtok w).map fun p => limpaString p.1 with
      | none => limpaString v
      | some y => limpaString v ++ 61 :: y) := by
  rw [printed, hostapdSplitConf, strtok_append hv hne]
  rfl

lemma printed_of_notMem {l : Bytes} (hl : 61 ∉ l) (hne : l ≠ []) : printed l = some (limpaString l) := by
  rw [printed, hostapdSplitConf, strtok_of_notMem hl hne]
  rfl

/-- A line that starts with `=` is never printed as it was: what is printed has at most one `=`. -/
lemma printed_cons_ne (w : Bytes) (x : Bytes) (hw : 61 ∉ x → 61 ∉ w) : printed (61 :: w) ≠ some (61 :: x) := by
  intro hprinted
  rw [printed, hostapdSplitConf, strtok_cons_eq] at hprinted
  cases htok : strtok w with
  | none => simp [htok] at hprinted
  | some p =>
    obtain ⟨t, r⟩ := p
    obtain ⟨hne, ht⟩ := strtok_spec htok
    have hno : 61 ∉ limpaString t := notMem_limpaString (Or.inr rfl) fun _ => ht
    rw [htok] at hprinted
    cases htok' : strtok r with
    | none =>
      have heq : limpaString t = 61 :: x := by simpa [htok'] using hprinted
      exact hno (heq ▸ List.mem_cons_self)
    | some p' =>
      obtain ⟨t', r'⟩ := p'
      have heq : limpaString t ++ 61 :: limpaString t' = [] ++ 61 :: x := by simpa [htok'] using hprinted
      have hno' : 61 ∉ limpaString t' := notMem_limpaString (Or.inr rfl) fun _ => (strtok_spec htok').2
      obtain ⟨-, -, rfl⟩ := (List.append_cons_inj_of_notMem hno hno').mp heq
      have hnil : w ≠ [] := by
        rintro rfl
        exact absurd htok (by simp [strtok_nil])
      rw [strtok_of_notMem (hw hno') hnil] at htok
      obtain ⟨-, rfl⟩ := Prod.mk.inj (Option.some.inj htok)
      exact absurd htok' (by simp [strtok_nil])

/-- A line is printed as it was exactly if it survives. -/
lemma printed_eq_content_iff {file l : Bytes} (hl : l ∈ lines file) (hconf : IsConfLine l) :
    printed l = some (content l) ↔ Survives l := by
  obtain ⟨c, hc, hlc⟩ := mem_lines hl
  obtain ⟨terminated, hterm⟩ : ∃ terminated : Bool, l = c ++ (if terminated then [10] else []) ∧
      (terminated = false → c ≠ []) := by
    rcases hlc with rfl | ⟨rfl, hne⟩
    · exact ⟨true, rfl, fun h => absurd h (by decide)⟩
    · exact ⟨false, (List.append_nil l).symm, fun _ => hne⟩
  obtain ⟨hl', hnonempty⟩ := hterm
  have hcontent : content l = c := by
    rcases hlc with rfl | ⟨rfl, -⟩
    · exact content_concat hc
    · exact content_of_notMem hc
  have hnewline : 10 ∈ l ↔ terminated = true := by
    rw [hl']
    cases terminated <;> simp [hc]
  unfold Survives
  simp only [hnewline]
  by_cases heq : 61 ∈ content l
  · have hsplit := content_eq_of_mem heq
    have hvalue : 10 ∉ value l := fun hmem => hc (by
      rw [← hcontent, hsplit]
      exact List.mem_append_right _ (List.mem_cons_of_mem _ hmem))
    have hname : 10 ∉ name l := fun hmem => hc (by
      rw [← hcontent, hsplit]
      exact List.mem_append_left _ hmem)
    have hline : l = name l ++ 61 :: (value l ++ if terminated then [10] else []) := by
      conv_lhs => rw [hl', ← hcontent, hsplit]
      rw [List.append_assoc, List.cons_append]
    rw [if_pos heq, ← map_strtok_eq_some_iff hvalue terminated]
    by_cases hempty : name l = []
    · refine iff_of_false ?_ fun h => h.1 hempty
      rw [hsplit]
      conv =>
        arg 1
        lhs
        rw [hline]
      rw [hempty, List.nil_append, List.nil_append]
      refine printed_cons_ne _ _ fun hno => ?_
      cases terminated <;> simpa using hno
    · have hlimpa : limpaString (name l) = name l ↔ Stays (name l) := by
        rw [limpaString_of_notMem hname, trim_eq_self_iff]
      have hno : 61 ∉ limpaString (name l) := notMem_limpaString (Or.inr rfl) fun _ => notMem_name l
      have hprinted := (congrArg printed hline).trans (printed_append (notMem_name l) hempty _)
      rw [and_iff_right hempty, ← hlimpa, hsplit, hprinted, Option.some_inj]
      cases htok : strtok (value l ++ if terminated then [10] else []) with
      | none =>
        refine iff_of_false (fun heq' => hno ?_) fun h => absurd h.2 (by simp)
        have heq'' : limpaString (name l) = name l ++ 61 :: value l := heq'
        rw [heq'']
        exact List.mem_append_right _ List.mem_cons_self
      | some p =>
        have hno' : 61 ∉ limpaString p.1 := notMem_limpaString (Or.inr rfl) fun _ => (strtok_spec htok).2
        rw [Option.map_some, Option.some_inj]
        exact (List.append_cons_inj_of_notMem hno hno').trans (and_congr_right fun _ => and_iff_right rfl)
  · have hnot : 61 ∉ l := by
      rw [hl', ← hcontent]
      cases terminated <;> simpa using heq
    have hne : l ≠ [] := by
      rw [hl']
      cases terminated
      · simpa using hnonempty rfl
      · simp
    rw [if_neg heq, printed_of_notMem hnot hne, Option.some_inj, hcontent]
    cases terminated with
    | true =>
      have hl'' : l = c ++ [10] := hl'
      rw [hl'', limpaString_concat hc, trim_concat_space_iff]
    | false =>
      have hl'' : l = c := hl'.trans (List.append_nil c)
      have hhash : c.head? = some 35 := by
        rw [← hcontent]
        exact hconf.kind.resolve_right (not_or.mpr ⟨fun h => hnonempty rfl (hcontent ▸ h), heq⟩)
      rw [hl'', limpaString_of_notMem hc, trim_eq_self_iff, Stays]
      refine or_congr Iff.rfl (or_iff_left ?_)
      rintro ⟨-, hspaces⟩
      exact absurd (hspaces 35 (List.mem_of_mem_head? hhash)) (by decide)

end ConfigHostapd

end Ethanol
