import Mathlib.Data.List.TakeWhile
import Mathlib.Tactic

/-! Paths: where they lead, and what is seen of them before their first NUL byte. -/

namespace SmmErrorLogger.Library.Paths

abbrev Path := List UInt8

def slash : UInt8 := 47

def dot : Path := [46]

def dotdot : Path := [46, 46]

def pieces (path : Path) : List Path := path.splitOn slash

def untilNul (path : Path) : Path := path.takeWhile (· ≠ 0)

def enter (folder : List Path) (piece : Path) : Option (List Path) :=
  if piece = [] ∨ piece = dot then some folder
  else if piece = dotdot then folder.tail?
  else some (piece :: folder)

/-- The folder that a path leads to. There is none once the path leads out of the folder that it
started from. -/
def walk (folder : List Path) (ps : List Path) : Option (List Path) := ps.foldlM enter folder

variable {path : Path} {folder : List Path} {ps qs before after : List Path} {piece : Path}

lemma walk_cons : walk folder (piece :: ps) = (enter folder piece).bind (fun f => walk f ps) :=
  List.foldlM_cons

lemma walk_append : walk folder (ps ++ qs) = (walk folder ps).bind (fun f => walk f qs) :=
  List.foldlM_append

lemma walk_filter : walk folder (ps.filter (· ≠ [])) = walk folder ps := by
  induction ps generalizing folder with
  | nil => rfl
  | cons piece ps ih =>
    by_cases h : piece = []
    · rw [List.filter_cons_of_neg (by simpa using h), walk_cons, enter, if_pos (Or.inl h)]
      exact ih
    · rw [List.filter_cons_of_pos (by simpa using h), walk_cons, walk_cons]
      exact congrArg _ (funext fun f => ih)

lemma pieces_slash (a b : Path) : pieces (a ++ slash :: b) = pieces a ++ pieces b :=
  List.splitOn_append_cons_self _ _

lemma pieces_cons (c : UInt8) (path : Path) : pieces (c :: path) =
    if c = slash then [] :: pieces path else (pieces path).modifyHead (c :: ·) := by
  rw [pieces, List.splitOn_cons_eq_if_modifyHead]
  simp only [beq_iff_eq]
  rfl

lemma untilNul_of_notMem (h : 0 ∉ path) : untilNul path = path := by
  rw [untilNul, List.takeWhile_eq_self_iff]
  intro c hc
  simpa using fun hzero : c = 0 => h (hzero ▸ hc)

lemma pieces_untilNul (h : pieces path = before ++ piece :: after) (hbefore : ∀ p ∈ before, 0 ∉ p)
    (hpiece : 0 ∈ piece) : pieces (untilNul path) = before ++ [untilNul piece] := by
  induction path generalizing before piece after with
  | nil =>
    cases before with
    | nil =>
      obtain ⟨rfl, -⟩ := List.cons.inj h
      cases hpiece
    | cons p before => simp [pieces] at h
  | cons c path ih =>
    rw [pieces_cons] at h
    split_ifs at h with hc
    · have hseen : untilNul (c :: path) = c :: untilNul path := by simp [untilNul, hc, slash]
      rw [hseen, pieces_cons, if_pos hc]
      cases before with
      | nil =>
        obtain ⟨rfl, -⟩ := List.cons.inj h
        cases hpiece
      | cons p before =>
        obtain ⟨rfl, htail⟩ := List.cons.inj h
        rw [ih htail (fun q hq => hbefore q (List.mem_cons_of_mem _ hq)) hpiece]
        rfl
    · obtain ⟨p, ps, hps⟩ := List.exists_cons_of_ne_nil (List.splitOn_ne_nil slash path)
      rw [pieces, hps, List.modifyHead_cons] at h
      by_cases hzero : c = 0
      · subst hzero
        cases before with
        | nil =>
          obtain ⟨rfl, -⟩ := List.cons.inj h
          rfl
        | cons q before =>
          obtain ⟨rfl, -⟩ := List.cons.inj h
          exact absurd List.mem_cons_self (hbefore _ List.mem_cons_self)
      · have hseen : ∀ q, untilNul (c :: q) = c :: untilNul q := by simp [untilNul, hzero]
        rw [hseen, pieces_cons, if_neg hc]
        cases before with
        | nil =>
          obtain ⟨rfl, htail⟩ := List.cons.inj h
          have hp : 0 ∈ p := (List.mem_cons.mp hpiece).resolve_left (Ne.symm hzero)
          have hnone : ∀ q ∈ ([] : List Path), 0 ∉ q := by simp
          rw [ih (hps.trans rfl) hnone hp, hseen]
          rfl
        | cons q before =>
          obtain ⟨rfl, htail⟩ := List.cons.inj h
          have hfree : ∀ q ∈ p :: before, 0 ∉ q := by
            obtain ⟨hfirst, hrest⟩ := List.forall_mem_cons.mp hbefore
            exact List.forall_mem_cons.mpr ⟨fun hp => hfirst (List.mem_cons_of_mem _ hp), hrest⟩
          rw [ih (hps.trans (congrArg (p :: ·) htail)) hfree hpiece]
          rfl

lemma mem_pieces {c : UInt8} (hc : c ∈ path) (hne : c ≠ slash) :
    ∃ piece ∈ pieces path, c ∈ piece := by
  induction path with
  | nil => cases hc
  | cons d path ih =>
    rw [pieces_cons]
    split_ifs with hd
    · obtain ⟨piece, hpiece, hmem⟩ :=
        ih ((List.mem_cons.mp hc).resolve_left fun heq => hne (heq.trans hd))
      exact ⟨piece, List.mem_cons_of_mem _ hpiece, hmem⟩
    · obtain ⟨p, ps, hps⟩ := List.exists_cons_of_ne_nil (List.splitOn_ne_nil slash path)
      rw [pieces, hps, List.modifyHead_cons]
      rcases List.mem_cons.mp hc with rfl | hc
      · exact ⟨c :: p, List.mem_cons_self, List.mem_cons_self⟩
      · obtain ⟨piece, hpiece, hmem⟩ := ih hc
        rw [pieces, hps] at hpiece
        rcases List.mem_cons.mp hpiece with rfl | hpiece
        · exact ⟨d :: piece, List.mem_cons_self, List.mem_cons_of_mem _ hmem⟩
        · exact ⟨piece, List.mem_cons_of_mem _ hpiece, hmem⟩

lemma exists_nulPiece (h : 0 ∈ path) :
    ∃ before piece after, pieces path = before ++ piece :: after ∧
    (∀ p ∈ before, 0 ∉ p) ∧ 0 ∈ piece := by
  obtain ⟨p, hp, hzero⟩ := mem_pieces h (by decide)
  cases hfind : (pieces path).find? (fun p => 0 ∈ p) with
  | none => exact absurd hzero (by simpa using List.find?_eq_none.mp hfind p hp)
  | some piece =>
    obtain ⟨hpiece, before, after, hsplit, hbefore⟩ := List.find?_eq_some_iff_append.mp hfind
    exact ⟨before, piece, after, hsplit, by simpa using hbefore, by simpa using hpiece⟩

end SmmErrorLogger.Library.Paths
