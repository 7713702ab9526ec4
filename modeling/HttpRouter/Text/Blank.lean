import HttpRouter.Text.Ranges

/-!
# White space

The 29 characters that count as blank: the white space of Unicode and the four information separators. Trimming and
splitting into words go by this class. Splitting at a separator loses nothing: joining the pieces gives the text back
(`joinWith_splitOn`), and pieces that are joined are found again (`splitOn_joinWith`); so are the two parts of a cut
(`cut_eq_some`, `cut_append_cons`).
-/

namespace HttpRouter.Text

/-- The blank characters, as ranges. -/
def blankRanges : List (Nat × Nat) :=
  [(0x9, 0xd), (0x1c, 0x20), (0x85, 0x85), (0xa0, 0xa0), (0x1680, 0x1680), (0x2000, 0x200a), (0x2028, 0x2029),
   (0x202f, 0x202f), (0x205f, 0x205f), (0x3000, 0x3000)]

/-- Whether a character is blank. -/
def isBlank (c : Char) : Bool :=
  inRanges blankRanges c.toNat

theorem blankRanges_ascending : ascending blankRanges = true := by decide

section Parts

variable {α : Type}

/-- Drops the characters of a class from the end. -/
def dropEndWhile (p : α → Bool) (s : List α) : List α :=
  (s.reverse.dropWhile p).reverse

variable [DecidableEq α]

/-- The pieces of a text between single occurrences of a separator; there is always one more than separators. -/
def splitOn (sep : α) : List α → List (List α)
  | [] => [[]]
  | c :: rest =>
    if c = sep then [] :: splitOn sep rest
    else match splitOn sep rest with
      | [] => [[c]]
      | piece :: pieces => (c :: piece) :: pieces

/-- Splits at the first occurrence of a separator: the text before it, and what follows it if it occurs. -/
def cut (sep : α) : List α → List α × Option (List α)
  | [] => ([], none)
  | c :: rest =>
    if c = sep then ([], some rest)
    else let (before, after) := cut sep rest; (c :: before, after)

theorem splitOn_ne_nil (sep : α) (s : List α) : splitOn sep s ≠ [] := by
  cases s with
  | nil => simp [splitOn]
  | cons c rest =>
    unfold splitOn
    split
    · simp
    · split <;> simp

/-- **Cutting loses nothing**: the two parts and the separator make the text again, and the first part holds no
separator. -/
theorem cut_eq_some {sep : α} {s before after : List α} (h : cut sep s = (before, some after)) :
    s = before ++ sep :: after ∧ sep ∉ before := by
  induction s generalizing before with
  | nil => simp [cut] at h
  | cons c rest ih =>
    by_cases hc : c = sep
    · simp only [cut, hc, if_true, Prod.mk.injEq, Option.some.injEq] at h
      obtain ⟨rfl, rfl⟩ := h
      simp [hc]
    · simp only [cut, hc, if_false, Prod.mk.injEq] at h
      obtain ⟨rfl, h⟩ := h
      obtain ⟨hs, hn⟩ := ih (Prod.ext rfl h)
      exact ⟨by rw [List.cons_append, ← hs], by simp [Ne.symm hc, hn]⟩

/-- A text that cannot be cut holds no separator. -/
theorem cut_eq_none {sep : α} {s before : List α} (h : cut sep s = (before, none)) :
    s = before ∧ sep ∉ s := by
  induction s generalizing before with
  | nil => simp_all [cut]
  | cons c rest ih =>
    by_cases hc : c = sep
    · simp [cut, hc] at h
    · simp only [cut, hc, if_false, Prod.mk.injEq] at h
      obtain ⟨rfl, h⟩ := h
      obtain ⟨hs, hn⟩ := ih (Prod.ext rfl h)
      exact ⟨congrArg (c :: ·) hs, by simp [Ne.symm hc, hn]⟩

/-- A text is cut at its first separator. -/
theorem cut_append_cons {sep : α} {before : List α} (h : sep ∉ before) (after : List α) :
    cut sep (before ++ sep :: after) = (before, some after) := by
  induction before with
  | nil => rw [List.nil_append, cut, if_pos rfl]
  | cons c before ih =>
    rw [List.mem_cons, not_or] at h
    rw [List.cons_append, cut, if_neg (Ne.symm h.1), ih h.2]

/-- Joins pieces with a separator between them. -/
def joinWith (sep : List α) : List (List α) → List α
  | [] => []
  | [piece] => piece
  | piece :: pieces => piece ++ sep ++ joinWith sep pieces

/-- **Joining undoes splitting.** -/
theorem joinWith_splitOn (sep : α) (s : List α) : joinWith [sep] (splitOn sep s) = s := by
  induction s with
  | nil => rfl
  | cons c rest ih =>
    rcases hr : splitOn sep rest with _ | ⟨piece, pieces⟩
    · exact absurd hr (splitOn_ne_nil sep rest)
    · rw [hr] at ih
      by_cases hc : c = sep
      · rw [splitOn, if_pos hc, hr]
        simp [joinWith, ih, hc]
      · rw [splitOn, if_neg hc, hr]
        cases pieces with
        | nil => simpa [joinWith] using ih
        | cons next more => simpa [joinWith] using ih

/-- A text without the separator is one piece. -/
theorem splitOn_eq_self {sep : α} {s : List α} (h : sep ∉ s) : splitOn sep s = [s] := by
  induction s with
  | nil => rfl
  | cons c s ih =>
    rw [List.mem_cons, not_or] at h
    rw [splitOn, if_neg (Ne.symm h.1), ih h.2]

/-- The first piece ends at the first separator. -/
theorem splitOn_append_cons {sep : α} {s : List α} (h : sep ∉ s) (rest : List α) :
    splitOn sep (s ++ sep :: rest) = s :: splitOn sep rest := by
  induction s with
  | nil => rw [List.nil_append, splitOn, if_pos rfl]
  | cons c s ih =>
    rw [List.mem_cons, not_or] at h
    rw [List.cons_append, splitOn, if_neg (Ne.symm h.1), ih h.2]

/-- The pieces of a text hold no separator. -/
theorem notMem_of_mem_splitOn {sep : α} {s piece : List α} (h : piece ∈ splitOn sep s) : sep ∉ piece := by
  induction s generalizing piece with
  | nil =>
    rw [splitOn, List.mem_singleton] at h
    exact h ▸ List.not_mem_nil
  | cons c rest ih =>
    rcases hr : splitOn sep rest with _ | ⟨first, pieces⟩
    · exact absurd hr (splitOn_ne_nil sep rest)
    · by_cases hc : c = sep
      · rw [splitOn, if_pos hc] at h
        rcases List.mem_cons.mp h with rfl | h
        · exact List.not_mem_nil
        · exact ih h
      · rw [splitOn, if_neg hc, hr] at h
        rcases List.mem_cons.mp h with rfl | h
        · exact List.not_mem_cons_of_ne_of_not_mem (Ne.symm hc) (ih (hr ▸ List.mem_cons_self))
        · exact ih (hr ▸ List.mem_cons_of_mem _ h)

/-- **Splitting undoes joining** pieces that hold no separator. -/
theorem splitOn_joinWith {sep : α} {pieces : List (List α)} (hne : pieces ≠ [])
    (h : ∀ piece ∈ pieces, sep ∉ piece) : splitOn sep (joinWith [sep] pieces) = pieces := by
  induction pieces with
  | nil => exact absurd rfl hne
  | cons piece pieces ih =>
    have hpiece := h piece List.mem_cons_self
    cases pieces with
    | nil => exact splitOn_eq_self hpiece
    | cons next more =>
      have hjoin : joinWith [sep] (piece :: next :: more) = piece ++ sep :: joinWith [sep] (next :: more) := by
        rw [joinWith, List.append_assoc, List.singleton_append]
        exact nofun
      rw [hjoin, splitOn_append_cons hpiece, ih (List.cons_ne_nil _ _) fun p hp => h p (List.mem_cons_of_mem _ hp)]

end Parts

/-- Drops the blanks at both ends. -/
def trim (s : List Char) : List Char :=
  dropEndWhile isBlank (s.dropWhile isBlank)

/-- The words of a text: its maximal runs without blanks. -/
def words (s : List Char) : List (List Char) :=
  let (current, done) := s.foldr
    (fun c (current, done) =>
      if isBlank c then ([], if current.isEmpty then done else current :: done) else (c :: current, done))
    ([], [])
  if current.isEmpty then done else current :: done

end HttpRouter.Text
