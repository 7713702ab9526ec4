import HttpRouter.Proofs.Canonical

/-!
# Balance and nesting

Which texts are templates is said here by counting parentheses, and so is how deep the groups of a template are nested.
Both are said from a place on at which `depth` groups are open, since that is what one character after the other
changes (`depthAfter`): the search for an imbalance and the count go on alike from there.

* `imbalanceFrom_eq_unopened_iff`, `imbalanceFrom_of_not_overcloses`: what the search finds, by counting;
* `depths_write`: a canonical template has its groups where the parentheses of its written form are;
* `ofString_balance`: the two together.
-/

namespace HttpRouter.Template

/-! ## Counting -/

/-- Whether a text closes more groups than are open in front of it or opened in it. -/
def Overcloses (depth : Nat) (s : Letters) : Prop :=
  depth + s.count (.char '(') < s.count (.char ')')

instance (depth : Nat) (s : Letters) : Decidable (Overcloses depth s) :=
  inferInstanceAs (Decidable (_ < _))

/-- The first closing parenthesis that closes nothing: up to there more groups are closed than opened, and not sooner. -/
structure FirstUnopened (depth : Nat) (s : Letters) (i : Nat) : Prop where
  closing : s[i]? = some ')'
  overcloses : Overcloses depth (s.take (i + 1))
  first : ∀ j ≤ i, ¬ Overcloses depth (s.take j)

/-- How many groups are open behind a character. -/
def depthAfter (depth : Nat) (c : Letter) : Nat :=
  if c = '(' then depth + 1 else if c = ')' then depth - 1 else depth

/-- How many groups are open in front of each character. -/
def depths (depth : Nat) : Letters → List Nat
  | [] => []
  | c :: rest => depth :: depths (depthAfter depth c) rest

theorem not_overcloses_nil {depth : Nat} : ¬ Overcloses depth [] := by
  simp [Overcloses]

section Step

variable {position depth : Nat} {c : Letter} {rest : Letters}

/-- A character closes a group that is open, if it closes any, or else it is a parenthesis that closes nothing. -/
theorem closes_or_not (depth : Nat) (c : Letter) : (c = ')' → 0 < depth) ∨ c = ')' ∧ depth = 0 := by
  by_cases hc : c = ')'
  · exact (Nat.eq_zero_or_pos depth).symm.imp (fun h _ => h) fun h => ⟨hc, h⟩
  · exact .inl fun h => absurd h hc

/-- A character that closes nothing but what is open counts for the groups that are open behind it. -/
theorem depthAfter_add_count (h : c = ')' → 0 < depth) (rest : Letters) :
    depthAfter depth c + rest.count (.char '(') + (c :: rest).count (.char ')') =
      depth + (c :: rest).count (.char '(') + rest.count (.char ')') := by
  simp only [depthAfter, List.count_cons, beq_iff_eq]
  by_cases hopen : c = '('
  · subst hopen
    simp
    omega
  · by_cases hclose : c = ')'
    · have hpos := h hclose
      subst hclose
      simp
      omega
    · simp [hopen, hclose]

theorem overcloses_cons_iff (h : c = ')' → 0 < depth) :
    Overcloses depth (c :: rest) ↔ Overcloses (depthAfter depth c) rest := by
  have hcount := depthAfter_add_count h rest
  rw [Overcloses, Overcloses]
  omega

/-- No beginning of a text overcloses exactly if none does that goes on behind its first character. -/
theorem forall_prefix_cons_iff (h : c = ')' → 0 < depth) :
    (∀ p, p <+: c :: rest → ¬ Overcloses depth p) ↔ ∀ p, p <+: rest → ¬ Overcloses (depthAfter depth c) p := by
  constructor
  · intro hall p hp
    rw [← overcloses_cons_iff h]
    exact hall (c :: p) (List.cons_prefix_cons.mpr ⟨rfl, hp⟩)
  · intro hall p hp
    rcases List.prefix_cons_iff.mp hp with rfl | ⟨q, rfl, hq⟩
    · exact not_overcloses_nil
    · rw [overcloses_cons_iff h]
      exact hall q hq

/-- If no beginning of a text overcloses, its first character closes nothing but what is open. -/
theorem closes_of_forall_prefix (h : ∀ p, p <+: c :: rest → ¬ Overcloses depth p) : c = ')' → 0 < depth := by
  rintro rfl
  have hfirst : ¬ Overcloses depth [.char ')'] := h [.char ')'] (List.cons_prefix_cons.mpr ⟨rfl, List.nil_prefix⟩)
  simp only [Overcloses, List.count_singleton] at hfirst
  exact Nat.pos_of_ne_zero fun hzero => hfirst (by simp [hzero])

/-- If nothing is open in front of a closing parenthesis, it is the first that closes nothing. -/
theorem firstUnopened_zero : FirstUnopened 0 (.char ')' :: rest) 0 := by
  refine ⟨rfl, by simp [Overcloses], fun j hj => ?_⟩
  obtain rfl := Nat.le_zero.mp hj
  exact not_overcloses_nil

/-- Behind any other character the search for the first one goes on. -/
theorem firstUnopened_cons_iff (h : c = ')' → 0 < depth) {i : Nat} :
    FirstUnopened depth (c :: rest) i ↔ ∃ j, i = j + 1 ∧ FirstUnopened (depthAfter depth c) rest j := by
  constructor
  · rintro ⟨hclosing, hovercloses, hfirst⟩
    rw [List.take_succ_cons, overcloses_cons_iff h] at hovercloses
    cases i with
    | zero => exact absurd hovercloses not_overcloses_nil
    | succ i =>
      refine ⟨i, rfl, hclosing, hovercloses, fun j hj => ?_⟩
      rw [← overcloses_cons_iff h, ← List.take_succ_cons]
      exact hfirst (j + 1) (Nat.succ_le_succ hj)
  · rintro ⟨i, rfl, hclosing, hovercloses, hfirst⟩
    refine ⟨hclosing, (overcloses_cons_iff h).mpr hovercloses, fun j hj => ?_⟩
    cases j with
    | zero => exact not_overcloses_nil
    | succ j =>
      rw [List.take_succ_cons, overcloses_cons_iff h]
      exact hfirst j (Nat.le_of_succ_le_succ hj)

/-- So does the search for an imbalance. -/
theorem imbalanceFrom_cons (h : c = ')' → 0 < depth) :
    imbalanceFrom position depth (c :: rest) = imbalanceFrom (position + 1) (depthAfter depth c) rest := by
  by_cases hopen : c = '('
  · subst hopen
    exact imbalanceFrom_opening
  · by_cases hclose : c = ')'
    · subst hclose
      obtain ⟨depth, rfl⟩ := Nat.exists_eq_add_one.mpr (h rfl)
      exact imbalanceFrom_closing
    · rw [imbalanceFrom_plain hopen hclose, depthAfter, if_neg hopen, if_neg hclose]

end Step

/-! ## What the search finds -/

section Search

variable {position depth : Nat} {s : Letters}

/-- **An unopened group is reported** at the first parenthesis that closes nothing, and there only. -/
theorem imbalanceFrom_eq_unopened_iff {n : Nat} :
    imbalanceFrom position depth s = some (.unopened n) ↔ ∃ i, n = position + i ∧ FirstUnopened depth s i := by
  induction s generalizing position depth with
  | nil =>
    refine iff_of_false (fun h => ?_) ?_
    · rw [imbalanceFrom] at h
      split at h <;> cases h
    · rintro ⟨i, -, hclosing, -⟩
      cases hclosing
  | cons c rest ih =>
    rcases closes_or_not depth c with h | ⟨rfl, rfl⟩
    · rw [imbalanceFrom_cons h, ih]
      simp only [firstUnopened_cons_iff h]
      constructor
      · rintro ⟨i, rfl, hi⟩
        exact ⟨i + 1, by omega, i, rfl, hi⟩
      · rintro ⟨-, rfl, i, rfl, hi⟩
        exact ⟨i, by omega, hi⟩
    · rw [imbalanceFrom_unopened]
      constructor
      · rintro ⟨⟩
        exact ⟨0, rfl, firstUnopened_zero⟩
      · rintro ⟨i, rfl, hi⟩
        -- Any place further on would not be the first.
        have hzero : i = 0 := by
          by_contra hne
          exact hi.first 1 (Nat.pos_of_ne_zero hne) firstUnopened_zero.overcloses
        rw [hzero, Nat.add_zero]

/-- A text that closes more than is open has a first place where it does so. -/
theorem exists_firstUnopened {p : Letters} (hp : p <+: s) (h : Overcloses depth p) :
    ∃ i, FirstUnopened depth s i := by
  induction s generalizing depth p with
  | nil =>
    obtain rfl := List.prefix_nil.mp hp
    exact absurd h not_overcloses_nil
  | cons c rest ih =>
    rcases closes_or_not depth c with hc | ⟨rfl, rfl⟩
    · rcases List.prefix_cons_iff.mp hp with rfl | ⟨q, rfl, hq⟩
      · exact absurd h not_overcloses_nil
      · obtain ⟨i, hi⟩ := ih hq ((overcloses_cons_iff hc).mp h)
        exact ⟨i + 1, (firstUnopened_cons_iff hc).mpr ⟨i, rfl, hi⟩⟩
    · exact ⟨0, firstUnopened_zero⟩

/-- **If nothing is closed that is not open**, what counts is how many groups are open at the end. -/
theorem imbalanceFrom_of_not_overcloses (h : ∀ p, p <+: s → ¬ Overcloses depth p) :
    imbalanceFrom position depth s =
      if s.count (.char ')') < depth + s.count (.char '(') then some .unclosed else none := by
  induction s generalizing position depth with
  | nil =>
    rw [imbalanceFrom, List.count_nil, List.count_nil, Nat.add_zero]
    rcases Nat.eq_zero_or_pos depth with rfl | hpos
    · rfl
    · rw [if_neg (Nat.ne_of_gt hpos), if_pos hpos]
  | cons c rest ih =>
    have hc := closes_of_forall_prefix h
    have hcount := depthAfter_add_count hc rest
    rw [imbalanceFrom_cons hc, ih ((forall_prefix_cons_iff hc).mp h)]
    refine if_congr ?_ rfl rfl
    omega

/-- How many groups are open in front of a character, by counting. -/
theorem getElem?_depths (h : ∀ p, p <+: s → ¬ Overcloses depth p) {i : Nat} (hi : i < s.length) :
    (depths depth s)[i]? = some (depth + (s.take i).count (.char '(') - (s.take i).count (.char ')')) := by
  induction s generalizing depth i with
  | nil => cases hi
  | cons c rest ih =>
    have hc := closes_of_forall_prefix h
    cases i with
    | zero => simp [depths]
    | succ i =>
      have hcount := depthAfter_add_count hc (rest.take i)
      rw [depths, List.getElem?_cons_succ, ih ((forall_prefix_cons_iff hc).mp h) (Nat.lt_of_succ_lt_succ hi),
        List.take_succ_cons]
      congr 1
      omega

theorem length_depths (depth : Nat) (s : Letters) : (depths depth s).length = s.length := by
  induction s generalizing depth with
  | nil => rfl
  | cons c rest ih => exact congrArg Nat.succ (ih _)

end Search

/-! ## Nesting -/

/-- How many groups of a template each character of its written form stands in, if the template stands in `depth`
groups itself. A group begins behind its opening parenthesis and ends behind its closing one. -/
def nesting (depth : Nat) : Template → List Nat
  | nil => []
  | literal text rest => List.replicate text.length depth ++ nesting depth rest
  | segment name rest => List.replicate (name.length + 1) depth ++ nesting depth rest
  | wildcard rest => depth :: nesting depth rest
  | group inner rest => depth :: nesting (depth + 1) inner ++ (depth + 1) :: nesting depth rest

/-- Text without parentheses leaves open what is open. -/
theorem depths_append {text : Letters} (h : ∀ c ∈ text, c ≠ '(' ∧ c ≠ ')') (depth : Nat) (rest : Letters) :
    depths depth (text ++ rest) = List.replicate text.length depth ++ depths depth rest := by
  induction text with
  | nil => rfl
  | cons c text ih =>
    obtain ⟨⟨hopen, hclose⟩, htext⟩ := List.forall_mem_cons.mp h
    rw [List.cons_append, depths, depthAfter, if_neg hopen, if_neg hclose, ih htext]
    rfl

/-- **The groups of a canonical template are where its parentheses are.** -/
theorem depths_write {t : Template} (ht : t.Canonical) (depth : Nat) (rest : Letters) :
    depths depth (t.write ++ rest) = t.nesting depth ++ depths depth rest := by
  induction t generalizing depth rest with
  | nil => rfl
  | literal text after ih =>
    obtain ⟨-, hplain, -, hafter⟩ := ht
    have htext : ∀ c ∈ text, c ≠ '(' ∧ c ≠ ')' := fun c hc =>
      ⟨(hplain.ordinary c hc).1, (hplain.ordinary c hc).2.1⟩
    rw [write, List.append_assoc, depths_append htext, ih hafter, nesting, List.append_assoc]
  | segment name after ih =>
    obtain ⟨-, hname, -, hafter⟩ := ht
    have htext : ∀ c ∈ .char ':' :: name, c ≠ '(' ∧ c ≠ ')' :=
      List.forall_mem_cons.mpr ⟨by decide, fun c hc =>
        ⟨(ordinary_of_isNameChar (hname c hc)).1, (ordinary_of_isNameChar (hname c hc)).2.1⟩⟩
    rw [write, List.append_assoc, depths_append htext, ih hafter, nesting, List.append_assoc]
    rfl
  | wildcard after ih =>
    show depth :: depths depth (after.write ++ rest) = _
    rw [ih ht]
    rfl
  | group inner after ihInner ihAfter =>
    obtain ⟨hinner, hafter⟩ := ht
    show depth :: depths (depth + 1) ((inner.write ++ .char ')' :: after.write) ++ rest) = _
    rw [List.append_assoc, ihInner hinner, List.cons_append]
    show depth :: (inner.nesting (depth + 1) ++ (depth + 1) :: depths depth (after.write ++ rest)) = _
    rw [ihAfter hafter, nesting, List.append_assoc, List.cons_append, List.cons_append]

/-! ## Which texts are templates -/

/-- **Texts are refused exactly if they are not balanced.** If some beginning of a text closes more groups than it
opens, the first parenthesis at which that happens is reported, with its position. Otherwise, if the whole text opens
more than it closes, that is reported. Every other text is a template, whatever else it holds: it is the written form of
that template, and in front of each of its characters as many groups of the template are open as parentheses are. -/
theorem ofString_balance (source : Letters) :
    (∀ i, FirstUnopened 0 source i →
      ofString source = .error (.declare .invalidTemplate
        (Text.ofString ("unbalanced ')' at position " ++ toString i ++ " in " ++ Text.Quoted.text source)))) ∧
    ((∃ p, p <+: source ∧ Overcloses 0 p) → ∃ i, FirstUnopened 0 source i) ∧
    ((∀ p, p <+: source → ¬ Overcloses 0 p) →
      if source.count (.char ')') < source.count (.char '(') then
        ofString source = .error (.declare .invalidTemplate
          (Text.ofString ("unclosed '(' in " ++ Text.Quoted.text source)))
      else ∃ t, ofString source = .ok t ∧ t.write = source ∧
        (t.nesting 0).length = source.length ∧
        ∀ i < source.length, (t.nesting 0)[i]? =
          some ((source.take i).count (.char '(') - (source.take i).count (.char ')'))) := by
  refine ⟨fun i hi => ?_, fun ⟨p, hp, hover⟩ => exists_firstUnopened hp hover, fun h => ?_⟩
  · have hfound : imbalance? source = some (.unopened i) :=
      imbalanceFrom_eq_unopened_iff.mpr ⟨i, (Nat.zero_add i).symm, hi⟩
    rw [ofString, parse, hfound]
    rfl
  · have hsearch : imbalance? source = _ := imbalanceFrom_of_not_overcloses h
    rw [Nat.zero_add] at hsearch
    split
    · next hopen =>
      rw [if_pos hopen] at hsearch
      rw [ofString, parse, hsearch]
      rfl
    · next hclosed =>
      rw [if_neg hclosed] at hsearch
      have hparse : parse source = .ok (ofBalanced source) := by
        rw [parse, hsearch]
      have hwrite := write_of_parse hparse
      have hnesting : depths 0 source = (ofBalanced source).nesting 0 := by
        have hdepths := depths_write (canonical_of_parse hparse) 0 []
        rwa [List.append_nil, hwrite, depths, List.append_nil] at hdepths
      refine ⟨ofBalanced source, ofString_eq_ok.mpr hparse, hwrite, ?_, fun i hi => ?_⟩
      · rw [← hnesting, length_depths]
      · rw [← hnesting, getElem?_depths h hi, Nat.zero_add]

/-- Colons without a name, stars and dots count for nothing, and of two parentheses that close nothing the first one is
reported. -/
example :
    (ofBalanced "(:(*).)").nesting 0 = [0, 1, 1, 2, 2, 1, 1] ∧
      imbalance? "/:a)(.:b))" = some (.unopened 3) := by
  decide

end HttpRouter.Template
