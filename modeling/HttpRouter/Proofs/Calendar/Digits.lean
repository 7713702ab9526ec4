import HttpRouter.Calendar.IsoDate
import HttpRouter.Text.Digit
import Mathlib.Data.List.TakeWhile

/-!
# Written numbers

The parts of a moment are written in a fixed number of digits, and read in two ways: digit by digit as far as a part
goes, whatever follows, or as whole numbers that take up a text. A text with nothing but digits and a few marks
(`Figures`) has a property of all its characters as soon as the ten digits and the marks have it.

* `IsoDate.digits_twoDigits`, `IsoDate.digits_fourDigits`, `IsoDate.digits_sixDigits`: the digits of a part are read as
  the number that they write;
* `Text.integer?_digitChars`: so is any text of digits, with `integer?_twoDigits` and `integer?_fourDigits` as cases.
-/

namespace HttpRouter.Calendar

open Text (asciiDigit?)

/-! ## Texts of digits -/

theorem toList_twoDigits (n : Nat) : (twoDigits n).toList = [Nat.digitChar (n / 10 % 10), Nat.digitChar (n % 10)] :=
  String.toList_ofList

theorem toList_fourDigits (n : Nat) : (fourDigits n).toList = (twoDigits (n / 100)).toList ++ (twoDigits n).toList :=
  String.toList_append

theorem toList_sixDigits (n : Nat) : (sixDigits n).toList = (twoDigits (n / 10000)).toList ++ (fourDigits n).toList :=
  String.toList_append

/-- Whether a text consists of digits and some marks. -/
def Figures (marks s : List Char) : Prop :=
  ∀ c ∈ s, (∃ d < 10, c = Nat.digitChar d) ∨ c ∈ marks

section Figures

variable {marks s t : List Char}

theorem Figures.append (hs : Figures marks s) (ht : Figures marks t) : Figures marks (s ++ t) :=
  fun c hc => (List.mem_append.mp hc).elim (hs c) (ht c)

theorem Figures.cons {c : Char} (hc : c ∈ marks) (hs : Figures marks s) : Figures marks (c :: s) :=
  List.forall_mem_cons.mpr ⟨Or.inr hc, hs⟩

theorem Figures.mono {marks' : List Char} (hs : Figures marks s) (h : marks ⊆ marks') : Figures marks' s :=
  fun c hc => (hs c hc).imp_right fun hmark => h hmark

/-- What holds of the ten digits and of the marks holds of all characters. -/
theorem Figures.forall (hs : Figures marks s) {p : Char → Bool} (hdigits : ∀ d < 10, p (Nat.digitChar d) = true)
    (hmarks : marks.all p = true) : ∀ c ∈ s, p c = true := by
  intro c hc
  rcases hs c hc with ⟨d, hd, rfl⟩ | hmark
  · exact hdigits d hd
  · exact List.all_eq_true.mp hmarks c hmark

/-- Any other character does not occur. -/
theorem Figures.notMem (hs : Figures marks s) {c : Char} (hdigits : ∀ d < 10, c ≠ Nat.digitChar d)
    (hmarks : c ∉ marks) : c ∉ s := by
  intro hc
  rcases hs c hc with ⟨d, hd, heq⟩ | hmark
  · exact hdigits d hd heq
  · exact hmarks hmark

variable (marks) in
theorem figures_twoDigits (n : Nat) : Figures marks (twoDigits n).toList := by
  rw [toList_twoDigits]
  exact List.forall_mem_cons.mpr ⟨Or.inl ⟨_, Nat.mod_lt _ (by decide), rfl⟩,
    List.forall_mem_singleton.mpr (Or.inl ⟨_, Nat.mod_lt _ (by decide), rfl⟩)⟩

variable (marks) in
theorem figures_fourDigits (n : Nat) : Figures marks (fourDigits n).toList := by
  rw [toList_fourDigits]
  exact (figures_twoDigits marks _).append (figures_twoDigits marks _)

variable (marks) in
theorem figures_sixDigits (n : Nat) : Figures marks (sixDigits n).toList := by
  rw [toList_sixDigits]
  exact (figures_twoDigits marks _).append (figures_fourDigits marks _)

theorem twoDigits_ne_nil (n : Nat) : (twoDigits n).toList ≠ [] := by
  rw [toList_twoDigits]
  exact List.cons_ne_nil _ _

theorem fourDigits_ne_nil (n : Nat) : (fourDigits n).toList ≠ [] := by
  rw [toList_fourDigits]
  exact List.append_ne_nil_of_left_ne_nil (twoDigits_ne_nil _) _

end Figures

/-! ## Digits one by one -/

namespace IsoDate

section Digits

theorem asciiDigit?_digitChar {d : Nat} (h : d < 10) : asciiDigit? (Nat.digitChar d) = some d := by
  revert d
  decide

variable {n : Nat} (value : Nat) (rest : List Char)

/-- Two digits continue a number by two places. -/
theorem digits_two_more (count : Nat) :
    digits value (count + 2) ((twoDigits n).toList ++ rest) = digits (100 * value + n % 100) count rest := by
  have htens := asciiDigit?_digitChar (Nat.mod_lt (n / 10) (show 10 > 0 by decide))
  have hones := asciiDigit?_digitChar (Nat.mod_lt n (show 10 > 0 by decide))
  have hvalue : 10 * (10 * value + n / 10 % 10) + n % 10 = 100 * value + n % 100 := by omega
  rw [toList_twoDigits, ← hvalue]
  simp [digits, htens, hones]

theorem digits_twoDigits (h : n < 100) :
    digits value 2 ((twoDigits n).toList ++ rest) = some (100 * value + n, rest) := by
  rw [digits_two_more, Nat.mod_eq_of_lt h]
  rfl

theorem digits_fourDigits (h : n < 10000) : digits 0 4 ((fourDigits n).toList ++ rest) = some (n, rest) := by
  have hvalue : 100 * (100 * 0 + n / 100 % 100) + n % 100 = n := by omega
  rw [toList_fourDigits, List.append_assoc, digits_two_more, digits_two_more, hvalue]
  rfl

theorem digits_sixDigits (h : n < 1000000) : digits 0 6 ((sixDigits n).toList ++ rest) = some (n, rest) := by
  have hvalue : 100 * (100 * (100 * 0 + n / 10000 % 100) + n / 100 % 100) + n % 100 = n := by omega
  rw [toList_sixDigits, toList_fourDigits, List.append_assoc, List.append_assoc, digits_two_more, digits_two_more,
    digits_two_more, hvalue]
  rfl

end Digits

end IsoDate

/-! ## Whole numbers -/

section Numbers

open Text (digitValue? isPadding readDigits natural? integer? dropEndWhile digitLimit)

/-- A digit has its value, and is nothing that may stand around or between digits. -/
theorem digitValue?_digitChar {d : Nat} (h : d < 10) :
    digitValue? (Nat.digitChar d) = some d ∧ isPadding (Nat.digitChar d) = false ∧ Nat.digitChar d ≠ '_' ∧
      Nat.digitChar d ≠ '-' ∧ Nat.digitChar d ≠ '+' := by
  revert d
  decide

/-- Digits continue a number place by place. -/
theorem readDigits_digitChars {ds : List Nat} (h : ∀ d ∈ ds, d < 10) (value : Nat) :
    readDigits value (ds.map Nat.digitChar) = some (ds.foldl (fun n d => 10 * n + d) value) := by
  induction ds generalizing value with
  | nil => rfl
  | cons d ds ih =>
    obtain ⟨hvalue, -, hline, -, -⟩ := digitValue?_digitChar (h d List.mem_cons_self)
    rw [List.map_cons, readDigits, hvalue]
    · exact ih (fun d hd => h d (List.mem_cons_of_mem _ hd)) _
    · exact fun _ _ hd => absurd hd hline

theorem not_isPadding_digitChars {ds : List Nat} (h : ∀ d ∈ ds, d < 10) {c : Char}
    (hc : c ∈ ds.map Nat.digitChar) : ¬ isPadding c = true := by
  obtain ⟨d, hd, rfl⟩ := List.mem_map.mp hc
  rw [(digitValue?_digitChar (h d hd)).2.1]
  exact Bool.false_ne_true

/-- **A text of digits is read** as the number that they write. -/
theorem integer?_digitChars {ds : List Nat} (h : ∀ d ∈ ds, d < 10) (hne : ds ≠ []) (hlength : ds.length ≤ digitLimit) :
    integer? (ds.map Nat.digitChar) = some ((ds.foldl (fun n d => 10 * n + d) 0 : Nat) : Int) := by
  have hfront : (ds.map Nat.digitChar).dropWhile isPadding = ds.map Nat.digitChar :=
    List.dropWhile_eq_self_iff.mpr fun _ => not_isPadding_digitChars h (List.getElem_mem _)
  have hback : dropEndWhile isPadding (ds.map Nat.digitChar) = ds.map Nat.digitChar := by
    have hlast : (ds.map Nat.digitChar).reverse.dropWhile isPadding = (ds.map Nat.digitChar).reverse :=
      List.dropWhile_eq_self_iff.mpr fun _ => not_isPadding_digitChars h (List.mem_reverse.mp (List.getElem_mem _))
    rw [dropEndWhile, hlast, List.reverse_reverse]
  rw [integer?, hfront, hback]
  cases ds with
  | nil => exact absurd rfl hne
  | cons d ds =>
    obtain ⟨hvalue, -, -, hminus, hplus⟩ := digitValue?_digitChar (h d List.mem_cons_self)
    have hcount : (Nat.digitChar d :: ds.map Nat.digitChar).countP (· != '_') ≤ digitLimit := by
      refine Nat.le_trans List.countP_le_length ?_
      rwa [List.length_cons, List.length_map]
    have hnatural : natural? (Nat.digitChar d :: ds.map Nat.digitChar) =
        some (ds.foldl (fun n d => 10 * n + d) d) := by
      have hguard : (guard _ : Option Unit) = some () := if_pos hcount
      rw [natural?, hguard, hvalue]
      exact readDigits_digitChars (fun d hd => h d (List.mem_cons_of_mem _ hd)) d
    simp [hminus, hplus, hnatural]

theorem integer?_twoDigits {n : Nat} (h : n < 100) : integer? (twoDigits n).toList = some (n : Int) := by
  have hdigits : (twoDigits n).toList = [n / 10 % 10, n % 10].map Nat.digitChar := toList_twoDigits n
  have hvalue : 10 * (10 * 0 + n / 10 % 10) + n % 10 = n := by omega
  rw [hdigits, integer?_digitChars _ (List.cons_ne_nil _ _) (Nat.le_of_ble_eq_true rfl)]
  · simp only [List.foldl_cons, List.foldl_nil, hvalue]
  · intro d hd
    simp only [List.mem_cons, List.not_mem_nil, or_false] at hd
    omega

theorem integer?_fourDigits {n : Nat} (h : n < 10000) : integer? (fourDigits n).toList = some (n : Int) := by
  have hdigits : (fourDigits n).toList =
      [n / 100 / 10 % 10, n / 100 % 10, n / 10 % 10, n % 10].map Nat.digitChar := by
    rw [toList_fourDigits, toList_twoDigits, toList_twoDigits]
    rfl
  have hvalue : 10 * (10 * (10 * (10 * 0 + n / 100 / 10 % 10) + n / 100 % 10) + n / 10 % 10) + n % 10 = n := by omega
  rw [hdigits, integer?_digitChars _ (List.cons_ne_nil _ _) (Nat.le_of_ble_eq_true rfl)]
  · simp only [List.foldl_cons, List.foldl_nil, hvalue]
  · intro d hd
    simp only [List.mem_cons, List.not_mem_nil, or_false] at hd
    omega

end Numbers

end HttpRouter.Calendar
