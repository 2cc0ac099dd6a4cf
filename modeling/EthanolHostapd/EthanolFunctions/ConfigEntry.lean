import EthanolHostapd.EthanolFunctions.ConfigLines

/-!
# What an edit of the configuration file keeps

`change_hostapd_entry` is asked to give a variable a new value and to leave the comments and the other
variables as they are.  It does so exactly if the variable is defined, and the lines of the file are
`Unharmed`.
-/

namespace Ethanol

namespace ConfigHostapd

/-! ## The edit, line by line -/

/-- The lines that are written for the lines of a file, without their newlines. -/
def edited (var val : Bytes) : List Bytes → Option (List Bytes)
  | [] => some []
  | l :: ls => do
    let v ← (hostapdSplitConf l).var
    if v = var then
      let outs ← ls.mapM printed
      some ((var ++ 61 :: val) :: outs)
    else
      let out ← printed l
      let outs ← edited var val ls
      some (out :: outs)

lemma writePair_hostapdSplitConf (l : Bytes) :
    writePair (hostapdSplitConf l) = (printed l).map fun out => out ++ [10] := by
  rw [writePair, printed, Option.map_map]
  refine congrFun (congrArg _ (funext fun var => ?_)) _
  cases h : (hostapdSplitConf l).val with
  | none => simp
  | some val => simp

lemma hostapdWriteConf_map (ls : List Bytes) : hostapdWriteConf (ls.map hostapdSplitConf) =
    (ls.mapM printed).map fun outs => outs.flatMap fun out => out ++ [10] := by
  induction ls with
  | nil => rfl
  | cons l ls ih =>
    rw [List.map_cons, hostapdWriteConf, writePair_hostapdSplitConf, ih, List.mapM_cons]
    cases printed l with
    | none => rfl
    | some out =>
      cases ls.mapM printed with
      | none => rfl
      | some outs => simp

lemma changeEntry_snd {var val : Bytes} {conf conf' : List TypePair} {r : ℤ}
    (h : changeEntry var val conf = some (conf', r)) : r = 1 := by
  induction conf generalizing conf' with
  | nil => exact (Prod.mk.inj (Option.some.inj h)).2.symm
  | cons p rest ih =>
    obtain ⟨v, hv, h⟩ := Option.bind_eq_some_iff.mp h
    split_ifs at h
    · exact (Prod.mk.inj (Option.some.inj h)).2.symm
    · obtain ⟨⟨rest', r'⟩, hrest, h⟩ := Option.bind_eq_some_iff.mp h
      obtain ⟨-, rfl⟩ := Prod.mk.inj (Option.some.inj h)
      exact ih hrest

/-- What is written after the change. -/
lemma changeEntry_bind_hostapdWriteConf (var val : Bytes) (ls : List Bytes) :
    ((changeEntry var val (ls.map hostapdSplitConf)).bind fun p => hostapdWriteConf p.1) =
      (edited var val ls).map fun outs => outs.flatMap fun out => out ++ [10] := by
  induction ls with
  | nil => rfl
  | cons l ls ih =>
    rw [List.map_cons, changeEntry, edited]
    cases hvar : (hostapdSplitConf l).var with
    | none => rfl
    | some v =>
      simp only [Option.bind_eq_bind, Option.bind_some]
      split_ifs with hv
      · have hpair : writePair ⟨some v, some val⟩ = some (var ++ [61] ++ val ++ [10]) := by rw [hv]; rfl
        rw [Option.bind_some, hostapdWriteConf, hpair, hostapdWriteConf_map]
        cases ls.mapM printed with
        | none => rfl
        | some outs => simp
      · cases hrest : changeEntry var val (ls.map hostapdSplitConf) with
        | none =>
          rw [hrest] at ih
          cases hedited : edited var val ls with
          | none => cases printed l <;> rfl
          | some outs =>
            rw [hedited] at ih
            exact absurd ih (by simp)
        | some p =>
          rw [hrest, Option.bind_some] at ih
          rw [Option.bind_some, Option.bind_some, hostapdWriteConf, writePair_hostapdSplitConf, ih]
          cases printed l with
          | none => rfl
          | some out =>
            cases edited var val ls with
            | none => rfl
            | some outs => simp

/-- The call, for a file whose lines fit into the buffer. -/
lemma changeHostapdEntry_some {file : Bytes} (hfile : ∀ l ∈ lines file, l.length ≤ 2047) (pid var val : Bytes) :
    changeHostapdEntry (some pid) file var val =
      (edited var val (lines file)).map fun outs => (0, outs.flatMap fun out => out ++ [10]) := by
  have hread : hostapdReadConf file = (lines file).map hostapdSplitConf := by
    rcases pieces_lines (n := 2047) (by decide) file with ⟨-, heq⟩ | ⟨⟨l, hl, hlong⟩, -⟩
    · rw [hostapdReadConf, heq]
    · exact absurd (hfile l hl) (not_le.mpr hlong)
  have hwritten := changeEntry_bind_hostapdWriteConf var val (lines file)
  rw [changeHostapdEntry, hread]
  cases hchange : changeEntry var val ((lines file).map hostapdSplitConf) with
  | none =>
    rw [hchange] at hwritten
    cases hedited : edited var val (lines file) with
    | none => rfl
    | some outs =>
      rw [hedited] at hwritten
      exact absurd hwritten (by simp)
  | some p =>
    obtain ⟨conf, r⟩ := p
    obtain rfl := changeEntry_snd hchange
    rw [hchange, Option.bind_some] at hwritten
    simp only [Option.bind_eq_bind, Option.bind_some]
    rw [if_neg (by decide), hwritten]
    cases edited var val (lines file) <;> rfl

/-! ## What an edit should do -/

/-- The line defines the variable. -/
def Defines (var l : Bytes) : Prop := (definition l).map Prod.fst = some var

instance (var l : Bytes) : Decidable (Defines var l) := inferInstanceAs (Decidable (_ = _))

/-- A definition with the new value, if it is one of the variable. -/
def subst (var val : Bytes) (d : Bytes × Bytes) : Bytes × Bytes := if d.1 = var then (d.1, val) else d

/-- The call does what it is asked to: if it is successful the variable has the new value, the other variables
their old ones, and the comments are as they were; a variable that is not defined gives `-2`. -/
def Edits (pid : Option Bytes) (file var val : Bytes) : Prop :=
  ∃ r file', changeHostapdEntry pid file var val = some (r, file') ∧
    (r = 0 → definitions file' = (definitions file).map (subst var val) ∧ (var, val) ∈ definitions file' ∧
      comments file' = comments file) ∧
    (var ∉ (definitions file).map Prod.fst → r = -2 ∧ file' = file)

/-- The lines that an edit of the variable does no harm to: those in front of its first definition survive,
and so do the others behind it; where it is defined again, that is read as a definition with the new value
already. -/
def Unharmed (var val : Bytes) : List Bytes → Prop
  | [] => True
  | l :: ls =>
    if Defines var l then
      Stays var ∧ ∀ l' ∈ ls,
        if Defines var l' then hostapdSplitConf l' = ⟨some var, some val⟩ else Survives l'
    else Survives l ∧ Unharmed var val ls

/-- The line that should be written. -/
def target (var val l : Bytes) : Bytes := if Defines var l then var ++ 61 :: val else content l

/-- The written line says what it should. -/
def Kept (var val l out : Bytes) : Prop :=
  comment (out ++ [10]) = comment l ∧ definition (out ++ [10]) = (definition l).map (subst var val)

lemma definition_append {n w l : Bytes} (hl : content l = n ++ 61 :: w) (hn : 61 ∉ n) (hhead : n.head? ≠ some 35) :
    definition l = some (n, w) := by
  have hall : ∀ b ∈ n, decide (b ≠ 61) = true := fun b hb => decide_eq_true fun h => hn (h ▸ hb)
  have hcontent : (n ++ 61 :: w).head? ≠ some 35 := by
    cases n with
    | nil => simp
    | cons c n => exact hhead
  rw [definition, name, value, hl, if_neg hcontent, if_pos (by simp), List.takeWhile_append_of_pos hall,
    List.dropWhile_append_of_pos hall]
  simp

lemma comment_isSome_iff {l : Bytes} : (comment l).isSome ↔ (content l).head? = some 35 := by
  rw [comment]
  split_ifs with h <;> simp [h]

lemma definition_isSome_iff {l : Bytes} :
    (definition l).isSome ↔ (content l).head? ≠ some 35 ∧ 61 ∈ content l := by
  rw [definition]
  split_ifs with h heq <;> simp [*]

/-- A line that says the same as a line of a file has the same text. -/
lemma content_eq_of_same {l l' : Bytes} (hl : IsConfLine l) (hblank : content l = [] → content l' = [])
    (hcomment : comment l' = comment l) (hdefinition : definition l' = definition l) : content l' = content l := by
  by_cases h : (content l).head? = some 35
  · have h' : (content l').head? = some 35 := by
      rw [← comment_isSome_iff, hcomment, comment_isSome_iff]
      exact h
    rw [comment, comment, if_pos h, if_pos h'] at hcomment
    exact Option.some.inj hcomment
  · rcases hl.kind.resolve_left h with hnil | heq
    · rw [hnil, hblank hnil]
    · have heq' := definition_isSome_iff.mpr ⟨h, heq⟩
      rw [← hdefinition, definition_isSome_iff] at heq'
      rw [definition, definition, if_neg h, if_neg heq'.1, if_pos heq, if_pos heq'.2] at hdefinition
      obtain ⟨hname, hvalue⟩ := Prod.mk.inj (Option.some.inj hdefinition)
      rw [content_eq_of_mem heq'.2, content_eq_of_mem heq, hname, hvalue]

lemma map_subst_of_not_defines {var val l : Bytes} (h : ¬Defines var l) :
    (definition l).map (subst var val) = definition l := by
  cases hl : definition l with
  | none => rfl
  | some d =>
    have hd : d.1 ≠ var := fun heq => h (by rw [Defines, hl, Option.map_some, heq])
    rw [Option.map_some, subst, if_neg hd]

lemma map_subst_of_defines {var val l : Bytes} (h : Defines var l) :
    (definition l).map (subst var val) = some (var, val) := by
  obtain ⟨d, hl, hd⟩ := Option.map_eq_some_iff.mp h
  rw [hl, Option.map_some, subst, if_pos hd, hd]

/-- A written line says what it should exactly if it is what should be written. -/
lemma kept_iff {var val l out : Bytes} (hl : IsConfLine l) (hvar : IsVar var) (hval : IsVal val) (hout : 10 ∉ out)
    (hblank : content l = [] → out = []) : Kept var val l out ↔ out = target var val l := by
  have hcontent := content_concat hout
  by_cases hdef : Defines var l
  · have hnew : content (var ++ 61 :: val ++ [10]) = var ++ 61 :: val := by
      refine content_concat fun hmem => ?_
      rcases List.mem_append.mp hmem with hmem | hmem
      · exact hvar.no_newline hmem
      · exact hval.no_newline ((List.mem_cons.mp hmem).resolve_left (by decide))
    have hl' : (content l).head? ≠ some 35 := by
      have hsome : (definition l).isSome := by
        obtain ⟨d, hd, -⟩ := Option.map_eq_some_iff.mp hdef
        rw [hd]
        rfl
      exact (definition_isSome_iff.mp hsome).1
    rw [Kept, target, if_pos hdef, map_subst_of_defines hdef]
    constructor
    · rintro ⟨-, hdefinition⟩
      have hsome := definition_isSome_iff.mp (Option.isSome_of_eq_some hdefinition)
      rw [definition, if_neg hsome.1, if_pos hsome.2] at hdefinition
      obtain ⟨hname, hvalue⟩ := Prod.mk.inj (Option.some.inj hdefinition)
      rw [← hcontent, content_eq_of_mem hsome.2, hname, hvalue]
    · rintro rfl
      have hhead : (content (var ++ 61 :: val ++ [10])).head? ≠ some 35 := by
        rw [hnew, List.head?_append_of_ne_nil _ hvar.ne_nil]
        exact hvar.no_comment
      refine ⟨?_, definition_append hnew hvar.no_eq hvar.no_comment⟩
      rw [comment, comment, if_neg hhead, if_neg hl']
  · rw [Kept, target, if_neg hdef, map_subst_of_not_defines hdef]
    constructor
    · rintro ⟨hcomment, hdefinition⟩
      rw [← hcontent]
      refine content_eq_of_same hl (fun hnil => ?_) hcomment hdefinition
      rw [hcontent, hblank hnil]
    · rintro rfl
      unfold comment definition name value
      rw [hcontent]
      exact ⟨rfl, rfl⟩

/-! ## The written file against the one before -/

/-- A line that may be written for a line of the file. -/
def Shown (var val l out : Bytes) : Prop :=
  printed l = some out ∨ (hostapdSplitConf l).var = some var ∧ out = var ++ 61 :: val

/-- Lists of values are equal exactly if the values are, one by one; no value is new. -/
lemma filterMap_eq_iff_forall₂ {α β γ : Type*} {f : α → Option γ} {g : β → Option γ} {as : List α} {bs : List β}
    (h : List.Forall₂ (fun a b => (g b).isSome → (f a).isSome) as bs) :
    (bs.filterMap g).length ≤ (as.filterMap f).length ∧
      (bs.filterMap g = as.filterMap f ↔ List.Forall₂ (fun a b => g b = f a) as bs) := by
  induction h with
  | nil => exact ⟨le_rfl, iff_of_true rfl List.Forall₂.nil⟩
  | @cons a b as bs hab _ ih =>
    obtain ⟨hle, hiff⟩ := ih
    rw [List.forall₂_cons]
    cases hg : g b with
    | some y =>
      obtain ⟨x, hf⟩ := Option.isSome_iff_exists.mp (hab (by rw [hg]; rfl))
      rw [List.filterMap_cons_some hg, List.filterMap_cons_some hf, List.cons_eq_cons, hiff, hf, Option.some_inj]
      exact ⟨Nat.succ_le_succ hle, Iff.rfl⟩
    | none =>
      cases hf : f a with
      | none =>
        rw [List.filterMap_cons_none hg, List.filterMap_cons_none hf, hiff, and_iff_right rfl]
        exact ⟨hle, Iff.rfl⟩
      | some x =>
        rw [List.filterMap_cons_none hg, List.filterMap_cons_some hf]
        refine ⟨hle.trans (Nat.le_succ _), iff_of_false (fun heq => ?_) fun hand => absurd hand.1 (by simp)⟩
        rw [heq, List.length_cons] at hle
        omega

lemma forall₂_mapM_printed {ls outs : List Bytes} (h : ls.mapM printed = some outs) :
    List.Forall₂ (fun l out => printed l = some out) ls outs := by
  induction ls generalizing outs with
  | nil =>
    obtain rfl := Option.some.inj h
    exact List.Forall₂.nil
  | cons l ls ih =>
    rw [List.mapM_cons] at h
    obtain ⟨out, hout, h⟩ := Option.bind_eq_some_iff.mp h
    obtain ⟨outs', houts, h⟩ := Option.bind_eq_some_iff.mp h
    obtain rfl := Option.some.inj h
    exact List.Forall₂.cons hout (ih houts)

lemma forall₂_edited {var val : Bytes} {ls outs : List Bytes} (h : edited var val ls = some outs) :
    List.Forall₂ (Shown var val) ls outs := by
  induction ls generalizing outs with
  | nil =>
    obtain rfl := Option.some.inj h
    exact List.Forall₂.nil
  | cons l ls ih =>
    obtain ⟨v, hv, h⟩ := Option.bind_eq_some_iff.mp h
    split_ifs at h with heq
    · obtain ⟨outs', houts, h⟩ := Option.bind_eq_some_iff.mp h
      obtain rfl := Option.some.inj h
      have hrest : List.Forall₂ (Shown var val) ls outs' := (forall₂_mapM_printed houts).imp fun _ _ => Or.inl
      exact List.Forall₂.cons (Or.inr ⟨heq ▸ hv, rfl⟩) hrest
    · obtain ⟨out, hout, h⟩ := Option.bind_eq_some_iff.mp h
      obtain ⟨outs', houts, h⟩ := Option.bind_eq_some_iff.mp h
      obtain rfl := Option.some.inj h
      exact List.Forall₂.cons (Or.inl hout) (ih houts)

lemma notMem_var {l v : Bytes} (h : (hostapdSplitConf l).var = some v) : 61 ∉ v ∧ 10 ∉ v := by
  rw [hostapdSplitConf] at h
  cases htok : strtok l with
  | none => simp [htok] at h
  | some p =>
    have ht := (strtok_spec htok).2
    simp only [htok, Option.some_inj] at h
    subst h
    exact ⟨notMem_limpaString (Or.inr rfl) fun _ => ht, notMem_limpaString (Or.inl rfl) fun h => absurd h (by decide)⟩

lemma notMem_val {l v : Bytes} (h : (hostapdSplitConf l).val = some v) : 61 ∉ v ∧ 10 ∉ v := by
  rw [hostapdSplitConf] at h
  cases htok : strtok l with
  | none => simp [htok] at h
  | some p =>
    simp only [htok] at h
    obtain ⟨p', htok', rfl⟩ := Option.map_eq_some_iff.mp h
    have ht := (strtok_spec htok').2
    exact ⟨notMem_limpaString (Or.inr rfl) fun _ => ht, notMem_limpaString (Or.inl rfl) fun h => absurd h (by decide)⟩

/-- What is printed with an `=` is what was taken apart. -/
lemma printed_eq_append_iff {l n w : Bytes} :
    printed l = some (n ++ 61 :: w) ↔ hostapdSplitConf l = ⟨some n, some w⟩ := by
  rw [printed]
  rcases h : hostapdSplitConf l with ⟨_ | v, _ | x⟩
  · simp
  · simp
  · have hv := (notMem_var (congrArg TypePair.var h)).1
    refine iff_of_false (fun heq => hv ?_) (by simp)
    rw [show v = n ++ 61 :: w from Option.some.inj heq]
    exact List.mem_append_right _ List.mem_cons_self
  · have hv := (notMem_var (congrArg TypePair.var h)).1
    have hx := (notMem_val (congrArg TypePair.val h)).1
    simp only [Option.map_some, Option.some_inj, TypePair.mk.injEq]
    exact (List.append_cons_inj_of_notMem hv hx).trans (and_congr_right fun _ => and_iff_right rfl)

/-- A line of a file that is blank is its newline. -/
lemma eq_of_content_nil {file l : Bytes} (hl : l ∈ lines file) (h : content l = []) : l = [10] := by
  obtain ⟨c, hc, rfl | ⟨rfl, hne⟩⟩ := mem_lines hl
  · rw [content_concat hc] at h
    rw [h, List.nil_append]
  · rw [content_of_notMem hc] at h
    exact absurd h hne

lemma shown_notMem {var val l out : Bytes} (hvar : IsVar var) (hval : IsVal val) (h : Shown var val l out) :
    10 ∉ out := by
  rcases h with hprinted | ⟨-, rfl⟩
  · rw [printed] at hprinted
    obtain ⟨v, hv, rfl⟩ := Option.map_eq_some_iff.mp hprinted
    have hv := (notMem_var hv).2
    cases hx : (hostapdSplitConf l).val with
    | none => exact hv
    | some x =>
      have hx := (notMem_val hx).2
      simp [hv, hx]
  · have hvar := hvar.no_newline
    have hval := hval.no_newline
    simp [hvar, hval]

lemma shown_blank {file var val l out : Bytes} (hvar : IsVar var) (hl : l ∈ lines file) (h : Shown var val l out)
    (hnil : content l = []) : out = [] := by
  obtain rfl := eq_of_content_nil hl hnil
  rcases h with hprinted | ⟨hv, -⟩
  · exact (Option.some.inj hprinted).symm
  · exact absurd (Option.some.inj hv).symm hvar.ne_nil

/-- The text in front of the `=` of a comment starts as the comment does. -/
lemma head?_var {l : Bytes} (h : (content l).head? = some 35) :
    ∃ v, (hostapdSplitConf l).var = some v ∧ v.head? = some 35 := by
  obtain ⟨rest, rfl⟩ : ∃ rest, l = 35 :: rest := by
    cases l with
    | nil => simp [content] at h
    | cons c rest =>
      rw [content, List.takeWhile_cons] at h
      split_ifs at h
      · exact ⟨rest, by rw [show c = 35 from Option.some.inj h]⟩
      · exact absurd h (by simp)
  refine ⟨limpaString (35 :: rest.takeWhile fun c => c ≠ 61), ?_, head?_trim (by decide)⟩
  rw [hostapdSplitConf]
  simp [strtok]

lemma shown_comment {var val l out : Bytes} (hvar : IsVar var) (hval : IsVal val) (h : Shown var val l out)
    (hl : (comment l).isSome) : (comment (out ++ [10])).isSome := by
  have hout := shown_notMem hvar hval h
  obtain ⟨v, hv, hhead⟩ := head?_var (comment_isSome_iff.mp hl)
  rw [comment_isSome_iff, content_concat hout]
  rcases h with hprinted | ⟨hv', -⟩
  · rw [printed, hv, Option.map_some] at hprinted
    obtain rfl := Option.some.inj hprinted
    cases (hostapdSplitConf l).val with
    | none => exact hhead
    | some x => rw [List.head?_append, hhead, Option.some_or]
  · obtain rfl := Option.some.inj (hv.symm.trans hv')
    exact absurd hhead hvar.no_comment

lemma shown_definition {file var val l out : Bytes} (hvar : IsVar var) (hconf : IsConfLine l) (hl : l ∈ lines file)
    (h : Shown var val l out) (hcomment : comment (out ++ [10]) = comment l)
    (hout : (definition (out ++ [10])).isSome) : (definition l).isSome := by
  rw [definition_isSome_iff] at hout ⊢
  have hhead : (content l).head? ≠ some 35 := by
    rw [ne_eq, ← comment_isSome_iff, ← hcomment, comment_isSome_iff]
    exact hout.1
  rcases hconf.kind.resolve_left hhead with hnil | heq
  · obtain rfl := shown_blank hvar hl h hnil
    exact absurd hout.2 (by decide)
  · exact ⟨hhead, heq⟩

/-- The file says what it should exactly if each of its lines does. -/
lemma file_iff_forall₂_kept {file var val : Bytes} (hvar : IsVar var) (hval : IsVal val) {ls outs : List Bytes}
    (hconf : ∀ l ∈ ls, IsConfLine l) (hls : ∀ l ∈ ls, l ∈ lines file)
    (h : List.Forall₂ (Shown var val) ls outs) :
    (outs.filterMap (fun out => definition (out ++ [10])) = (ls.filterMap definition).map (subst var val) ∧
      outs.filterMap (fun out => comment (out ++ [10])) = ls.filterMap comment) ↔
        List.Forall₂ (Kept var val) ls outs := by
  have hcomments := (filterMap_eq_iff_forall₂ (f := fun out => comment (out ++ [10])) (g := comment)
    (h.flip.imp fun out l hshown => shown_comment hvar hval hshown)).2
  have hall : List.Forall₂ (fun l out => (IsConfLine l ∧ l ∈ lines file) ∧ Shown var val l out) ls outs :=
    (List.forall₂_and_left _ _).mpr ⟨fun l hl => ⟨hconf l hl, hls l hl⟩, h⟩
  have hdefinitions (hsame : List.Forall₂ (fun l out => comment (out ++ [10]) = comment l) ls outs) :=
    (filterMap_eq_iff_forall₂ (f := fun l => (definition l).map (subst var val))
      (g := fun out => definition (out ++ [10]))
      (hall.mp (fun l out hand hcomment hout => by
        rw [Option.isSome_map]
        exact shown_definition hvar hand.1.1 hand.1.2 hand.2 hcomment hout) hsame)).2
  rw [List.map_filterMap]
  constructor
  · rintro ⟨hdefs, hcomms⟩
    have hsame := (hcomments.mp hcomms.symm).flip.imp fun _ _ heq => heq.symm
    exact hsame.mp (fun _ _ hcomment hdef => ⟨hcomment, hdef⟩) ((hdefinitions hsame).mp hdefs)
  · intro hkept
    have hsame := hkept.imp fun _ _ hand => hand.1
    refine ⟨(hdefinitions hsame).mpr (hkept.imp fun _ _ hand => hand.2), ?_⟩
    exact (hcomments.mpr (hsame.imp fun _ _ heq => heq.symm).flip).symm

/-! ## Which edits are right -/

lemma definition_of_defines {var l : Bytes} (h : Defines var l) :
    (content l).head? ≠ some 35 ∧ 61 ∈ content l ∧ name l = var := by
  obtain ⟨d, hd, hvar⟩ := Option.map_eq_some_iff.mp h
  have hsome := definition_isSome_iff.mp (Option.isSome_of_eq_some hd)
  rw [definition, if_neg hsome.1, if_pos hsome.2] at hd
  obtain rfl := Option.some.inj hd
  exact ⟨hsome.1, hsome.2, hvar⟩

/-- The name that is read of a line that defines the variable. -/
lemma var_of_defines {file var l : Bytes} (hvar : IsVar var) (hl : l ∈ lines file) (h : Defines var l) :
    (hostapdSplitConf l).var = some (trim var) := by
  obtain ⟨-, heq, hname⟩ := definition_of_defines h
  have hsplit := content_eq_of_mem heq
  rw [hname] at hsplit
  have hline : ∃ w, l = var ++ 61 :: w := by
    obtain ⟨c, hc, rfl | ⟨rfl, -⟩⟩ := mem_lines hl
    · rw [content_concat hc] at hsplit
      have hcongr := congrArg (fun s => s ++ [10]) hsplit
      rw [List.append_assoc, List.cons_append] at hcongr
      exact ⟨_, hcongr⟩
    · rw [content_of_notMem hc] at hsplit
      exact ⟨_, hsplit⟩
  obtain ⟨w, rfl⟩ := hline
  rw [hostapdSplitConf, strtok_append hvar.no_eq hvar.ne_nil, ← limpaString_of_notMem hvar.no_newline]

/-- A line that survives and does not define the variable is not taken for one that does. -/
lemma var_ne_of_survives {file var l : Bytes} (hvar : IsVar var) (hl : l ∈ lines file) (hconf : IsConfLine l)
    (hdef : ¬Defines var l) (hsurvives : Survives l) : (hostapdSplitConf l).var ≠ some var := by
  intro hv
  have hprinted := (printed_eq_content_iff hl hconf).mpr hsurvives
  rw [printed, hv, Option.map_some, Option.some_inj] at hprinted
  cases hx : (hostapdSplitConf l).val with
  | none =>
    rw [hx] at hprinted
    have hcontent : content l = var := hprinted.symm
    have hkind := hconf.kind
    rw [hcontent] at hkind
    exact hkind.elim hvar.no_comment fun h => h.elim hvar.ne_nil hvar.no_eq
  | some x =>
    rw [hx] at hprinted
    have hcontent : content l = var ++ 61 :: x := hprinted.symm
    exact hdef (by rw [Defines, definition_append hcontent hvar.no_eq hvar.no_comment, Option.map_some])

lemma not_target_of_not_defines {var val l : Bytes} (hvar : IsVar var) (hdef : ¬Defines var l) :
    var ++ 61 :: val ≠ target var val l := by
  rw [target, if_neg hdef]
  intro hcontent
  exact hdef (by rw [Defines, definition_append hcontent.symm hvar.no_eq hvar.no_comment, Option.map_some])

lemma mapM_eq_some_map_iff {ls : List Bytes} {f : Bytes → Bytes} :
    ls.mapM printed = some (ls.map f) ↔ ∀ l ∈ ls, printed l = some (f l) := by
  constructor
  · intro h
    exact List.forall₂_same.mp ((List.forall₂_map_right_iff).mp (forall₂_mapM_printed h))
  · intro h
    induction ls with
    | nil => rfl
    | cons l ls ih =>
      rw [List.forall_mem_cons] at h
      rw [List.mapM_cons, h.1, ih h.2]
      rfl

/-- The lines are written as they should be exactly if the edit does no harm. -/
lemma edited_eq_target_iff {file var val : Bytes} (hvar : IsVar var) {ls : List Bytes}
    (hconf : ∀ l ∈ ls, IsConfLine l) (hls : ∀ l ∈ ls, l ∈ lines file) :
    edited var val ls = some (ls.map (target var val)) ↔ Unharmed var val ls := by
  induction ls with
  | nil => exact iff_of_true rfl trivial
  | cons l ls ih =>
    rw [List.forall_mem_cons] at hconf hls
    have ih := ih hconf.2 hls.2
    rw [edited, List.map_cons, Unharmed]
    by_cases hdef : Defines var l
    · have hread := var_of_defines hvar hls.1 hdef
      rw [if_pos hdef, hread, Option.bind_eq_bind, Option.bind_some]
      by_cases hstays : trim var = var
      · rw [if_pos hstays, and_iff_right ((trim_eq_self_iff var).mp hstays)]
        have hrest : ls.mapM printed = some (ls.map (target var val)) ↔ ∀ l' ∈ ls,
            if Defines var l' then hostapdSplitConf l' = ⟨some var, some val⟩ else Survives l' := by
          rw [mapM_eq_some_map_iff]
          refine forall₂_congr fun l' hl' => ?_
          rw [target]
          split_ifs
          · exact printed_eq_append_iff
          · exact printed_eq_content_iff (hls.2 l' hl') (hconf.2 l' hl')
        rw [← hrest, target, if_pos hdef]
        cases ls.mapM printed <;> simp
      · have hnot : ¬Stays var := fun h => hstays ((trim_eq_self_iff var).mpr h)
        rw [if_neg hstays]
        refine iff_of_false (fun heq => ?_) fun hand => hnot hand.1
        obtain ⟨out, hout, heq⟩ := Option.bind_eq_some_iff.mp heq
        obtain ⟨outs, -, heq⟩ := Option.bind_eq_some_iff.mp heq
        obtain ⟨rfl, -⟩ := List.cons_eq_cons.mp (Option.some.inj heq)
        rw [target, if_pos hdef, printed_eq_append_iff] at hout
        rw [hout, Option.some_inj] at hread
        exact hstays hread.symm
    · rw [if_neg hdef]
      by_cases hv : (hostapdSplitConf l).var = some var
      · rw [hv, Option.bind_eq_bind, Option.bind_some, if_pos rfl]
        refine iff_of_false (fun heq => ?_) fun hand => var_ne_of_survives hvar hls.1 hconf.1 hdef hand.1 hv
        obtain ⟨outs, -, heq⟩ := Option.bind_eq_some_iff.mp heq
        exact not_target_of_not_defines hvar hdef (List.cons_eq_cons.mp (Option.some.inj heq)).1
      · rw [← printed_eq_content_iff hls.1 hconf.1, ← ih, target, if_neg hdef]
        cases hread : (hostapdSplitConf l).var with
        | none => simp [printed, hread]
        | some v =>
          have hne : v ≠ var := fun h => hv (by rw [hread, h])
          rw [Option.bind_eq_bind, Option.bind_some, if_neg hne]
          cases printed l with
          | none => simp
          | some out => cases edited var val ls <;> simp

/-- A successful call for a variable that is defined writes what it should exactly if the edit does no harm. -/
lemma edits_some_iff {file var val : Bytes} (pid : Bytes) (hfile : ∀ l ∈ lines file, IsConfLine l) (hvar : IsVar var)
    (hval : IsVal val) (hmem : var ∈ (definitions file).map Prod.fst) :
    Edits (some pid) file var val ↔ Unharmed var val (lines file) := by
  have hshort : ∀ l ∈ lines file, l.length ≤ 2047 := fun l hl => Nat.le_of_lt_succ (hfile l hl).short
  rw [← edited_eq_target_iff hvar hfile fun _ => id, Edits, changeHostapdEntry_some hshort]
  have hwritten {outs : List Bytes} (hshown : List.Forall₂ (Shown var val) (lines file) outs) :
      definitions (outs.flatMap fun out => out ++ [10]) = outs.filterMap (fun out => definition (out ++ [10])) ∧
        comments (outs.flatMap fun out => out ++ [10]) = outs.filterMap (fun out => comment (out ++ [10])) ∧
        (List.Forall₂ (Kept var val) (lines file) outs ↔ outs = (lines file).map (target var val)) := by
    have hall : List.Forall₂ (fun l out => l ∈ lines file ∧ Shown var val l out) (lines file) outs :=
      (List.forall₂_and_left _ _).mpr ⟨fun _ => id, hshown⟩
    have hnewline : ∀ out ∈ outs, 10 ∉ out := by
      intro out hout
      obtain ⟨i, hi, rfl⟩ := List.mem_iff_getElem.mp hout
      have hlength := hshown.length_eq
      exact shown_notMem hvar hval ((List.forall₂_iff_get.mp hshown).2 i (by omega) hi)
    have hlines := lines_flatMap hnewline
    refine ⟨?_, ?_, ?_⟩
    · rw [definitions, hlines, List.filterMap_map]
      rfl
    · rw [comments, hlines, List.filterMap_map]
      rfl
    · have hkept := hall.imp fun l out hand => kept_iff (hfile l hand.1) hvar hval
        (shown_notMem hvar hval hand.2) (shown_blank hvar hand.1 hand.2)
      have hiff : List.Forall₂ (Kept var val) (lines file) outs ↔
          List.Forall₂ (fun l out => target var val l = out) (lines file) outs :=
        ⟨hkept.mp fun _ _ h hk => (h.mp hk).symm, hkept.mp fun _ _ h hk => h.mpr hk.symm⟩
      rw [hiff, ← List.forall₂_map_left_iff (R := fun a b => a = b), List.forall₂_eq_eq_eq, eq_comm]
  constructor
  · rintro ⟨r, file', hcall, hsuccess, -⟩
    obtain ⟨outs, hedited, heq⟩ := Option.map_eq_some_iff.mp hcall
    obtain ⟨rfl, rfl⟩ := Prod.mk.inj heq
    obtain ⟨hdefs, hcomms, hiff⟩ := hwritten (forall₂_edited hedited)
    obtain ⟨hdefinitions, -, hcomments⟩ := hsuccess rfl
    rw [hdefs] at hdefinitions
    rw [hcomms] at hcomments
    rw [hedited, Option.some_inj, ← hiff]
    exact (file_iff_forall₂_kept hvar hval hfile (fun _ => id) (forall₂_edited hedited)).mp
      ⟨hdefinitions, hcomments⟩
  · intro hedited
    obtain ⟨hdefs, hcomms, hiff⟩ := hwritten (forall₂_edited hedited)
    obtain ⟨hdefinitions, hcomments⟩ :=
      (file_iff_forall₂_kept hvar hval hfile (fun _ => id) (forall₂_edited hedited)).mpr (hiff.mpr rfl)
    refine ⟨0, _, by rw [hedited]; rfl, fun _ => ?_, fun hnot => absurd hmem hnot⟩
    rw [hdefs, hcomms]
    refine ⟨hdefinitions, ?_, hcomments⟩
    have hnew : (var, val) ∈ (definitions file).map (subst var val) := by
      obtain ⟨d, hd, rfl⟩ := List.mem_map.mp hmem
      exact List.mem_map.mpr ⟨d, hd, if_pos rfl⟩
    rw [definitions, ← hdefinitions] at hnew
    exact hnew

/-- A call does what it is asked to exactly if the variable is defined, and the edit does no harm if it is
made at all. -/
theorem edits_iff {file var val : Bytes} (pid : Option Bytes) (hfile : ∀ l ∈ lines file, IsConfLine l)
    (hvar : IsVar var) (hval : IsVal val) : Edits pid file var val ↔
      var ∈ (definitions file).map Prod.fst ∧ (pid.isSome → Unharmed var val (lines file)) := by
  by_cases hmem : var ∈ (definitions file).map Prod.fst
  · rw [and_iff_right hmem]
    cases pid with
    | none =>
      refine iff_of_true ⟨-1, file, rfl, fun h => absurd h (by decide), fun hnot => absurd hmem hnot⟩ fun h => ?_
      exact absurd h (by decide)
    | some pid =>
      have hiff := edits_some_iff pid hfile hvar hval hmem
      exact ⟨fun h _ => hiff.mp h, fun h => hiff.mpr (h rfl)⟩
  · refine iff_of_false ?_ fun hand => hmem hand.1
    rintro ⟨r, file', hcall, -, hundefined⟩
    obtain ⟨rfl, -⟩ := hundefined hmem
    cases pid with
    | none => exact absurd hcall (by simp [changeHostapdEntry])
    | some pid =>
      rw [changeHostapdEntry_some fun l hl => Nat.le_of_lt_succ (hfile l hl).short] at hcall
      obtain ⟨outs, -, heq⟩ := Option.map_eq_some_iff.mp hcall
      exact absurd (Prod.mk.inj heq).1 (by decide)

/-- A comment, and a variable that is defined. -/
theorem edits_iff_comment : Edits (some [52]) [35, 97, 10, 99, 61, 49, 10] [99] [54] := by
  refine (edits_iff _ (fun l hl => ?_) ⟨by decide, by decide, by decide, by decide, by decide⟩
    ⟨by decide, by decide⟩).mpr ⟨by decide, fun _ => ?_⟩
  · rw [show lines [35, 97, 10, 99, 61, 49, 10] = [[35, 97, 10], [99, 61, 49, 10]] from rfl] at hl
    rcases List.mem_pair.mp hl with rfl | rfl
    · exact ⟨Or.inl (by decide), by decide, by decide⟩
    · exact ⟨Or.inr (Or.inr (by decide)), by decide, by decide⟩
  · have hsurvives : Survives [35, 97, 10] := by
      rw [Survives, if_neg (by decide)]
      exact Or.inr ⟨by decide, by decide⟩
    have hstays : Stays [99] := Or.inr (Or.inl ⟨by decide, by decide⟩)
    change Unharmed [99] [54] [[35, 97, 10], [99, 61, 49, 10]]
    rw [Unharmed, if_neg (by decide), Unharmed, if_pos (by decide)]
    exact ⟨hsurvives, hstays, fun l' hl' => absurd hl' (List.not_mem_nil)⟩

/-- The value of the second line has an `=` in it, and loses what follows; a variable that is not defined
gives zero. -/
theorem edits_truncated : (∀ l ∈ lines [99, 61, 49, 10, 115, 61, 97, 61, 98, 10], IsConfLine l) ∧
    ¬Edits (some [52]) [99, 61, 49, 10, 115, 61, 97, 61, 98, 10] [99] [54] ∧
    ¬Edits (some [52]) [99, 61, 49, 10, 115, 61, 97, 61, 98, 10] [100] [54] := by
  refine ⟨fun l hl => ?_, ?_, ?_⟩
  · rw [show lines [99, 61, 49, 10, 115, 61, 97, 61, 98, 10] =
      [[99, 61, 49, 10], [115, 61, 97, 61, 98, 10]] from rfl] at hl
    rcases List.mem_pair.mp hl with rfl | rfl
    · exact ⟨Or.inr (Or.inr (by decide)), by decide, by decide⟩
    · exact ⟨Or.inr (Or.inr (by decide)), by decide, by decide⟩
  · rintro ⟨r, file', hcall, hsuccess, -⟩
    have hresult : changeHostapdEntry (some [52]) [99, 61, 49, 10, 115, 61, 97, 61, 98, 10] [99] [54] =
        some (0, [99, 61, 54, 10, 115, 61, 97, 10]) := rfl
    rw [hresult] at hcall
    obtain ⟨rfl, rfl⟩ := Prod.mk.inj (Option.some.inj hcall)
    exact absurd (hsuccess rfl).1 (by decide)
  · rintro ⟨r, file', hcall, -, hundefined⟩
    have hresult : changeHostapdEntry (some [52]) [99, 61, 49, 10, 115, 61, 97, 61, 98, 10] [100] [54] =
        some (0, [99, 61, 49, 10, 115, 61, 97, 10]) := rfl
    rw [hresult] at hcall
    obtain ⟨rfl, rfl⟩ := Prod.mk.inj (Option.some.inj hcall)
    exact absurd (hundefined (by decide)).1 (by decide)

end ConfigHostapd

end Ethanol
