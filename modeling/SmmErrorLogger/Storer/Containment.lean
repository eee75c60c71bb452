import SmmErrorLogger.Storer.FileWriter

/-! Which paths stay below the base directory, and which ones the file handler lets through. -/

namespace SmmErrorLogger.Storer

open Library.Interaction Library.Paths
open Library.Interaction.Proc

namespace ExternalStorerFileWriter

variable {writer : ExternalStorerFileWriter} {path rel : Text} {folder ps : List Text}

def Inside (writer : ExternalStorerFileWriter) (path : Text) : Prop :=
  (walk [] (pieces ((untilNul path).drop writer.baseDir.length))).isSome

instance (writer : ExternalStorerFileWriter) : DecidablePred writer.Inside :=
  fun _ => inferInstanceAs (Decidable (_ = true))

/-- Where the path has a NUL, the piece that it cuts off leads out if and only if the pieces that
are no longer seen do. -/
def NulHarmless (path : Text) : Prop :=
  ∀ before piece after folder, pieces path = before ++ piece :: after → (∀ p ∈ before, 0 ∉ p) →
    0 ∈ piece →
    walk [] before = some folder →
      (untilNul piece = dotdot ∧ folder = [] ↔ walk (piece :: folder) after = none)

lemma depthStays_append_nil {depth : ℤ} {parts : List Text} :
    depthStays depth (parts ++ [[]]) = depthStays depth parts := by
  induction parts generalizing depth with
  | nil => rfl
  | cons part parts ih =>
    rw [List.cons_append, depthStays, depthStays, ih, ih, ih]

lemma depthStays_eq_walk (hne : ∀ p ∈ ps, p ≠ []) :
    depthStays folder.length ps = (walk folder ps).isSome := by
  induction ps generalizing folder with
  | nil => rfl
  | cons piece ps ih =>
    obtain ⟨hpiece, hrest⟩ := List.forall_mem_cons.mp hne
    rw [depthStays, walk_cons, enter]
    by_cases hdotdot : piece = dotdot
    · have hdot : piece ≠ dot := by
        rw [hdotdot]
        decide
      rw [if_pos hdotdot, if_neg (not_or.mpr ⟨hpiece, hdot⟩), if_pos hdotdot]
      cases folder with
      | nil => rfl
      | cons name parent =>
        have hdepth : ((name :: parent).length : ℤ) - 1 = parent.length := by simp
        rw [hdepth, if_neg (by omega), ih hrest]
        rfl
    · by_cases hdot : piece = dot
      · rw [if_neg hdotdot, if_neg (not_not.mpr hdot), if_pos (Or.inr hdot)]
        exact ih hrest
      · rw [if_neg hdotdot, if_pos hdot, if_neg (not_or.mpr ⟨hpiece, hdot⟩), if_neg hdotdot]
        exact @ih (piece :: folder) hrest

lemma isValidPath_eq : isValidPath path = (walk [] (pieces (getRelativePath path))).isSome := by
  have hfilter : ∀ p ∈ (pieces (getRelativePath path)).filter (· ≠ []), p ≠ [] := by
    intro p hp
    simpa using (List.mem_filter.mp hp).2
  have hstays := @depthStays_eq_walk [] _ hfilter
  rw [walk_filter] at hstays
  rw [isValidPath, components]
  split_ifs
  · rw [depthStays_append_nil]
    exact hstays
  · rw [List.append_nil]
    exact hstays

lemma walk_snoc_name {name : Text} (h : name ≠ [] ∧ name ≠ dot ∧ name ≠ dotdot) :
    (walk folder (ps ++ [name])).isSome = (walk folder ps).isSome := by
  rw [walk_append]
  cases walk folder ps with
  | none => rfl
  | some f =>
    rw [Option.bind_some, walk_cons, enter, if_neg (not_or.mpr ⟨h.1, h.2.1⟩), if_neg h.2.2]
    rfl

lemma inside_append :
    writer.Inside (writer.baseDir ++ path) ↔ (walk [] (pieces (untilNul path))).isSome := by
  have hseen : untilNul (writer.baseDir ++ path) = writer.baseDir ++ untilNul path := by
    rw [untilNul, List.takeWhile_append_of_pos]
    · rfl
    · intro c hc
      simpa using fun hzero : c = 0 => writer.noNul (hzero ▸ hc)
  rw [Inside, hseen, List.drop_left]

lemma walk_slash : walk folder (pieces (untilNul (slash :: path))) = walk folder
    (pieces (untilNul path)) := by
  have hseen : untilNul (slash :: path) = slash :: untilNul path := by simp [untilNul, slash]
  rw [hseen, pieces_cons, if_pos rfl, walk_cons, enter, if_pos (Or.inl rfl)]
  rfl

lemma appendPath_cases (p q : Text) : appendPath p q = p ++ slash :: q ∨
    appendPath p q = p ++ q ∧ (p = [] ∨ ∃ r, p = r ++ [slash]) := by
  rw [appendPath]
  split_ifs with h
  · refine Or.inr ⟨rfl, h.imp_right fun hlast => ?_⟩
    obtain ⟨r, hr⟩ := List.getLast?_eq_some_iff.mp hlast
    exact ⟨r, hr⟩
  · exact Or.inl rfl

lemma inside_fullPath : writer.Inside (writer.fullPath path) ↔
    (walk [] (pieces (untilNul (getRelativePath path)))).isSome := by
  rw [fullPath]
  rcases appendPath_cases writer.baseDir (getRelativePath path) with heq | ⟨heq, -⟩
  · rw [heq, inside_append, walk_slash]
  · rw [heq, inside_append]

lemma walk_name {name q z : Text} (hname : name ≠ [] ∧ name ≠ dot ∧ name ≠ dotdot)
    (hslash : slash ∉ name)
    (hzero : 0 ∉ name) (hz : z = slash :: name ∨ z = name ∧ (q = [] ∨ ∃ r, q = r ++ [slash]))
    (h : (walk [] (pieces (untilNul q))).isSome) :
    (walk [] (pieces (untilNul (q ++ z)))).isSome := by
  have hpieces : pieces name = [name] := List.splitOn_eq_singleton hslash
  by_cases hq : 0 ∈ q
  · have hseen : untilNul (q ++ z) = untilNul q := by
      obtain ⟨c, hc, hnot⟩ : ∃ c ∈ q, ¬ (decide (c ≠ 0) = true) := ⟨0, hq, by simp⟩
      rw [untilNul, List.takeWhile_append, if_neg, untilNul]
      intro hlength
      exact hnot (List.takeWhile_eq_self_iff.mp
        ((List.takeWhile_prefix _).eq_of_length hlength) c hc)
    rwa [hseen]
  · rw [untilNul_of_notMem hq] at h
    rcases hz with rfl | ⟨rfl, rfl | ⟨r, rfl⟩⟩
    · rw [untilNul_of_notMem (by simp [hq, hzero, slash]), pieces_slash, hpieces,
        walk_snoc_name hname]
      exact h
    · rw [List.nil_append, untilNul_of_notMem hzero, hpieces]
      exact @walk_snoc_name [] [] _ hname
    · have hnil : pieces ([] : Text) = [[]] := rfl
      rw [pieces_slash, hnil, walk_append] at h
      have hr : 0 ∉ r := fun hmem => hq (List.mem_append_left _ hmem)
      rw [List.append_assoc, List.singleton_append, untilNul_of_notMem (by simp [hr, hzero, slash]),
        pieces_slash, hpieces, walk_snoc_name hname]
      cases hwalk : walk [] (pieces r) with
      | none =>
        rw [hwalk] at h
        cases h
      | some f => rfl

lemma fullPath_eq : ∃ q, writer.fullPath path = writer.baseDir ++ q := by
  rcases appendPath_cases writer.baseDir (getRelativePath path) with heq | ⟨heq, -⟩
  · exact ⟨_, heq⟩
  · exact ⟨_, heq⟩

lemma inside_index {p : Text} (h : writer.Inside p) (hbase : ∃ q, p = writer.baseDir ++ q) :
    writer.Inside (appendPath p (text "index.json")) := by
  obtain ⟨q, rfl⟩ := hbase
  rw [inside_append] at h
  have hwalk : ∀ z, (z = slash :: text "index.json" ∨ z = text "index.json" ∧
    (q = [] ∨ ∃ r, q = r ++ [slash])) → writer.Inside (writer.baseDir ++ (q ++ z)) :=
    fun z hz => inside_append.mpr (walk_name (by decide) (by decide) (by decide) hz h)
  rcases appendPath_cases (writer.baseDir ++ q) (text "index.json") with heq | ⟨heq, hslash⟩
  · rw [heq, List.append_assoc]
    exact hwalk _ (Or.inl rfl)
  · rw [heq, List.append_assoc]
    refine hwalk _ (Or.inr ⟨rfl, ?_⟩)
    rcases List.eq_nil_or_concat q with rfl | ⟨r, c, rfl⟩
    · exact Or.inl rfl
    · rcases hslash with hnil | ⟨r', hr'⟩
      · simp at hnil
      · have hlast := congrArg List.getLast? hr'
        rw [List.concat_eq_append, ← List.append_assoc, List.getLast?_concat,
          List.getLast?_concat] at hlast
        exact Or.inr ⟨r, by rw [List.concat_eq_append, Option.some.inj hlast]⟩

lemma walk_singleton {piece : Text} :
    (walk folder [piece]).isSome ↔ ¬ (piece = dotdot ∧ folder = []) := by
  rw [walk_cons, enter]
  by_cases hsame : piece = [] ∨ piece = dot
  · have hne : piece ≠ dotdot := by
      rcases hsame with rfl | rfl <;> decide
    rw [if_pos hsame]
    exact iff_of_true rfl fun h => hne h.1
  · rw [if_neg hsame]
    by_cases hdotdot : piece = dotdot
    · rw [if_pos hdotdot]
      cases folder with
      | nil => exact iff_of_false (by simp) fun h => h ⟨hdotdot, rfl⟩
      | cons name parent => exact iff_of_true rfl fun h => List.cons_ne_nil _ _ h.2
    · rw [if_neg hdotdot]
      exact iff_of_true rfl fun h => hdotdot h.1

/-- `isValidPath` looks behind the first NUL, and the operating system does not. -/
lemma walk_iff_of_nul {before after : List Text} {piece : Text}
    (hfolder : walk [] before = some folder) (hpiece : 0 ∈ piece) :
    ((walk [] (before ++ piece :: after)).isSome ↔ (walk [] (before ++ [untilNul piece])).isSome) ↔
      (untilNul piece = dotdot ∧ folder = [] ↔ walk (piece :: folder) after = none) := by
  have hne : ∀ q : Text, 0 ∉ q → piece ≠ q := fun q hq h => hq (h ▸ hpiece)
  have henter : enter folder piece = some (piece :: folder) := by
    rw [enter, if_neg (not_or.mpr ⟨hne [] (by decide), hne dot (by decide)⟩),
      if_neg (hne dotdot (by decide))]
  rw [walk_append, walk_append, hfolder, Option.bind_some, Option.bind_some, walk_cons, henter,
    Option.bind_some, walk_singleton]
  cases walk (piece :: folder) after with
  | none => simp
  | some f => simp

lemma isValidPath_iff_walk :
    (isValidPath path ↔ (walk [] (pieces (untilNul (getRelativePath path)))).isSome) ↔
      NulHarmless (getRelativePath path) := by
  rw [isValidPath_eq]
  generalize getRelativePath path = rel
  constructor
  · intro hexact before piece after folder hsplit hbefore hpiece hfolder
    rw [pieces_untilNul hsplit hbefore hpiece, hsplit] at hexact
    exact (walk_iff_of_nul hfolder hpiece).mp hexact
  · intro h
    by_cases hnul : 0 ∈ rel
    · obtain ⟨before, piece, after, hsplit, hbefore, hpiece⟩ := exists_nulPiece hnul
      rw [pieces_untilNul hsplit hbefore hpiece, hsplit]
      cases hfolder : walk [] before with
      | none => rw [walk_append, walk_append, hfolder, Option.bind_none, Option.bind_none]
      | some folder =>
        exact (walk_iff_of_nul hfolder hpiece).mpr (h _ _ _ _ hsplit hbefore hpiece hfolder)
    · rw [untilNul_of_notMem hnul]

def confined (writer : ExternalStorerFileWriter) : Environment FsCalls Unit where
  interferes _ _ := False
  permits _
    | .isDirectory path => writer.Inside path
    | .createDirectories path => writer.Inside path
    | .writeFile path _ => writer.Inside path
    | .removeAll path => writer.Inside path
  answers _ _ _ _ := True

def Confined (writer : ExternalStorerFileWriter) {α : Type} (p : WriterM α) : Prop :=
  p.Ensures writer.confined (fun _ _ _ => True) (fun _ _ _ => True) () ()

section

variable {α : Type} {Q : α → Unit → Unit → Prop} {X : StorerError → Unit → Unit → Prop} {u w : Unit}

lemma confined_pure {a : α} (h : Q a u w) : (pure a : WriterM α).Ensures writer.confined Q X u w :=
  fun _ _ => h

lemma confined_call {op : FsOp} {f : FsCalls.Ans op → WriterM α}
    (hpermits : writer.confined.permits w op)
    (h : ∀ ans w', (f ans).Ensures writer.confined Q X u w') :
    (Proc.call (S := FsCalls) op >>= f).Ensures writer.confined Q X u w :=
  fun _ _ => ⟨hpermits, fun ans w' _ => h ans w'⟩

lemma toWriter_confined {result : FileResult} {Q : Bool → Unit → Unit → Prop}
    (hQ : ∀ success, Q success u w)
    (hX : X .filesystemError u w) :
    (FileResult.toWriter result).Ensures writer.confined Q X u w := by
  cases result with
  | done success => exact fun _ _ => hQ success
  | threw => exact fun _ _ => hX

end

lemma createFolder_confined (h : isValidPath path → writer.Inside (writer.fullPath path)) :
    (writer.createFolder path).Ensures writer.confined
      (fun created _ _ => created = true → isValidPath path)
      (fun _ _ _ => True) () () := by
  rw [createFolder]
  split_ifs with hvalid
  · refine confined_call (h hvalid) fun isDirectory _ =>
      ensures_bind.mpr (toWriter_confined (fun success => ?_) trivial)
    split_ifs
    · exact confined_pure fun _ => hvalid
    · exact confined_call (h hvalid) fun _ _ => toWriter_confined (fun _ _ => hvalid) trivial
  · exact confined_pure (by simp)

lemma createFile_confined (h : isValidPath path → writer.Inside (writer.fullPath path))
    (jsonPdr : Json) :
    writer.Confined (writer.createFile path jsonPdr) := by
  rw [Confined, createFile, ensures_bind]
  refine (createFolder_confined h).mono ?_ (fun _ _ _ hX => hX)
  intro created _ _ hcreated
  split_ifs with hdone
  · have hinside := inside_index (h (hcreated hdone)) fullPath_eq
    exact confined_call hinside fun _ _ => confined_pure trivial
  · exact confined_pure trivial

lemma removeAll_confined (h : isValidPath path → writer.Inside (writer.fullPath path)) :
    writer.Confined (writer.removeAll path) := by
  rw [Confined, removeAll]
  split_ifs with hvalid
  · exact confined_call (h hvalid) fun _ _ => confined_pure trivial
  · exact confined_pure trivial

theorem isValidPath_exact_iff (writer : ExternalStorerFileWriter) (path : Text) :
    (isValidPath path ↔ writer.Inside (writer.fullPath path)) ∧
      writer.Confined (writer.createFolder path) ∧
      (∀ jsonPdr, writer.Confined (writer.createFile path jsonPdr)) ∧
        writer.Confined (writer.removeAll path) ↔
    NulHarmless (getRelativePath path) := by
  rw [← isValidPath_iff_walk, ← @inside_fullPath writer]
  refine ⟨fun h => h.1, fun h => ⟨h, ?_, createFile_confined h.mp, removeAll_confined h.mp⟩⟩
  exact (createFolder_confined h.mp).mono (fun _ _ _ _ => trivial) (fun _ _ _ hX => hX)

def bmcweb : ExternalStorerFileWriter := ⟨text "/run/bmcweb", by decide⟩

def nulPath : Text := dotdot ++ [0, 120]

theorem isValidPath_escapes : isValidPath nulPath ∧ ¬ bmcweb.Inside (bmcweb.fullPath nulPath) ∧
    ¬ bmcweb.Confined (bmcweb.removeAll nulPath) := by
  have hvalid : isValidPath nulPath := by decide +kernel
  have houtside : ¬ bmcweb.Inside (bmcweb.fullPath nulPath) := by decide +kernel
  refine ⟨hvalid, houtside, fun hconfined => houtside ?_⟩
  rw [Confined, removeAll, if_neg (not_not.mpr hvalid)] at hconfined
  exact (hconfined () .refl).1

end ExternalStorerFileWriter

end SmmErrorLogger.Storer
