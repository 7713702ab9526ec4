import HttpRouter.Calendar.HttpDate
import HttpRouter.Calendar.MailDate
import HttpRouter.Proofs.Calendar.Clocks
import HttpRouter.Proofs.Calendar.Digits
import Mathlib.Data.Option.Basic

/-!
# Mail texts

An HTTP date is six words with blanks between them, and the reader of mail dates goes by words: it finds the words again
(`words_joinWith`), passes over the name of the day, and takes none of the others for anything else than it is, since the
year is neither a time nor a zone. Only a year of one or two digits is taken for another one.

* `read_writeUniversal`: an HTTP date is read as the moment that it was written for, from year 100 on;
* `read_word`: a single word is no mail date, so that texts in other formats are left to their own readers.
-/

namespace HttpRouter

namespace Text

/-! ## Words and pieces -/

/-- Whether a text is a word. -/
def IsWord (w : List Char) : Prop :=
  w ≠ [] ∧ ∀ c ∈ w, isBlank c = false

theorem IsWord.isEmpty {w : List Char} (h : IsWord w) : w.isEmpty = false :=
  List.isEmpty_eq_false_iff.mpr h.1

/-- Whether a text is a word can be computed. -/
theorem IsWord.of_all {w : List Char} (h : (!w.isEmpty && w.all fun c => !isBlank c) = true) : IsWord w := by
  simpa [IsWord] using h

/-- What splitting into words does with one character, from the end of a text on. -/
def wordStep (c : Char) : List Char × List (List Char) → List Char × List (List Char)
  | (current, done) =>
    if isBlank c then ([], if current.isEmpty then done else current :: done) else (c :: current, done)

/-- A text without blanks goes before the word that has been begun. -/
theorem foldr_wordStep {w : List Char} (h : ∀ c ∈ w, isBlank c = false) (current : List Char)
    (done : List (List Char)) : w.foldr wordStep (current, done) = (w ++ current, done) := by
  induction w with
  | nil => rfl
  | cons c w ih =>
    rw [List.foldr_cons, ih fun c hc => h c (List.mem_cons_of_mem _ hc), wordStep, h c List.mem_cons_self]
    rfl

theorem words_eq (s : List Char) :
    words s = if (s.foldr wordStep ([], [])).1.isEmpty then (s.foldr wordStep ([], [])).2
      else (s.foldr wordStep ([], [])).1 :: (s.foldr wordStep ([], [])).2 := rfl

/-- Words with blanks between them are taken apart: the first of them is still going on. -/
theorem foldr_joinWith {w : List Char} {ws : List (List Char)} (h : ∀ v ∈ w :: ws, IsWord v) :
    (joinWith [' '] (w :: ws)).foldr wordStep ([], []) = (w, ws) := by
  induction ws generalizing w with
  | nil =>
    rw [joinWith, foldr_wordStep (h w List.mem_cons_self).2, List.append_nil]
  | cons v ws ih =>
    have hw := h w List.mem_cons_self
    have hv := h v (List.mem_cons_of_mem _ List.mem_cons_self)
    have hjoin : joinWith [' '] (w :: v :: ws) = w ++ [' '] ++ joinWith [' '] (v :: ws) := rfl
    rw [hjoin, List.append_assoc, List.foldr_append, List.foldr_append, ih fun u hu => h u (List.mem_cons_of_mem _ hu)]
    have hblank : [' '].foldr wordStep (v, ws) = ([], v :: ws) := by
      cases v with
      | nil => exact absurd rfl hv.1
      | cons c v => rfl
    rw [hblank, foldr_wordStep hw.2, List.append_nil]

/-- **Words are found again** from a text of words with blanks between them. -/
theorem words_joinWith {ws : List (List Char)} (h : ∀ w ∈ ws, IsWord w) : words (joinWith [' '] ws) = ws := by
  cases ws with
  | nil => rfl
  | cons w ws =>
    rw [words_eq, foldr_joinWith h]
    exact if_neg (by simpa using (h w List.mem_cons_self).1)

/-- Digits and marks make up a word unless there is a blank among the marks. -/
theorem IsWord.of_figures {marks s : List Char} (h : Calendar.Figures marks s) (hne : s ≠ [])
    (hmarks : (marks.all fun c => !isBlank c) = true) : IsWord s := by
  have hblank := h.forall (by decide) hmarks
  exact ⟨hne, fun c hc => by simpa using hblank c hc⟩

end Text

namespace Calendar.MailDate

open Text

/-! ## Single words -/

/-- A single word is no date. -/
theorem read_word {w : List Char} (h : IsWord w) : read w = .error .notADate := by
  have hwords : words (joinWith [' '] [w]) = [w] := words_joinWith (List.forall_mem_singleton.mpr h)
  have hrest : withoutDayName [w] = [] ∨ withoutDayName [w] = [afterComma w] := ite_eq_or_eq _ _ _
  have hparts : parts? [w] = none := by
    rcases hrest with hrest | hrest <;> rw [parts?, hrest]
  rw [joinWith] at hwords
  rw [read, hwords, hparts]
  rfl

/-! ## The parts of an HTTP date -/

/-- The name of the day as it is written. -/
def writtenDay (m : Moment) : List Char :=
  (HttpDate.dayNames.getD m.date.weekday "").toList ++ [',']

/-- The name of the month as it is written. -/
def writtenMonth (m : Moment) : List Char :=
  (HttpDate.monthNames.getD (m.date.month - 1) "").toList

/-- The time of day as it is written. -/
def writtenTime (m : Moment) : List Char :=
  (twoDigits m.hour).toList ++ ':' :: ((twoDigits m.minute).toList ++ ':' :: (twoDigits m.second).toList)

theorem toList_writeUniversal (m : Moment) :
    (HttpDate.writeUniversal m).toList = joinWith [' '] [writtenDay m, (twoDigits m.date.day).toList, writtenMonth m,
      (fourDigits m.date.year).toList, writtenTime m, ['G', 'M', 'T']] := by
  simp [HttpDate.writeUniversal, joinWith, writtenDay, writtenMonth, writtenTime]

theorem isWord_writtenDay (m : Moment) : IsWord (writtenDay m) := by
  have hnames : ∀ k < 7, (!((HttpDate.dayNames.getD k "").toList ++ [',']).isEmpty &&
      ((HttpDate.dayNames.getD k "").toList ++ [',']).all fun c => !isBlank c) = true := by decide
  exact .of_all (hnames _ (Nat.mod_lt _ (by decide)))

/-- The name of a month is a word that stands for the month. -/
theorem month?_writtenMonth {m : Moment} (h : m.date.Valid) :
    month? (writtenMonth m) = some m.date.month ∧ IsWord (writtenMonth m) := by
  have hnames : ∀ k < 12, month? (HttpDate.monthNames.getD k "").toList = some (k + 1) ∧
      (!(HttpDate.monthNames.getD k "").toList.isEmpty &&
        (HttpDate.monthNames.getD k "").toList.all fun c => !isBlank c) = true := by decide
  obtain ⟨-, -, hfirst, hlast, -⟩ := h
  obtain ⟨hnumber, hword⟩ := hnames (m.date.month - 1) (by omega)
  rw [Nat.sub_add_cancel hfirst] at hnumber
  exact ⟨hnumber, .of_all hword⟩

theorem isWord_twoDigits (n : Nat) : IsWord (twoDigits n).toList :=
  .of_figures (figures_twoDigits [] n) (twoDigits_ne_nil n) (by decide)

theorem isWord_fourDigits (n : Nat) : IsWord (fourDigits n).toList :=
  .of_figures (figures_fourDigits [] n) (fourDigits_ne_nil n) (by decide)

theorem figures_writtenTime (m : Moment) : Figures [':'] (writtenTime m) :=
  (figures_twoDigits _ _).append (.cons (by decide) ((figures_twoDigits _ _).append (.cons (by decide)
    (figures_twoDigits _ _))))

theorem isWord_writtenTime (m : Moment) : IsWord (writtenTime m) :=
  .of_figures (figures_writtenTime m) (List.append_ne_nil_of_left_ne_nil (twoDigits_ne_nil _) _) (by decide)

/-- The parts of an HTTP date are found; the name of the day is not one of them. -/
theorem parts?_writeUniversal {m : Moment} (h : m.Valid) :
    parts? (words (HttpDate.writeUniversal m).toList) =
      some ⟨(twoDigits m.date.day).toList, writtenMonth m, (fourDigits m.date.year).toList, writtenTime m,
        ['G', 'M', 'T']⟩ := by
  have hwords : ∀ w ∈ [writtenDay m, (twoDigits m.date.day).toList, writtenMonth m, (fourDigits m.date.year).toList,
      writtenTime m, ['G', 'M', 'T']], IsWord w := by
    simp only [List.forall_mem_cons]
    exact ⟨isWord_writtenDay m, isWord_twoDigits _, (month?_writtenMonth h.1).2, isWord_fourDigits _,
      isWord_writtenTime m, .of_all rfl, fun _ hw => absurd hw List.not_mem_nil⟩
  have hname : (writtenDay m).getLast? = some ',' := List.getLast?_concat
  rw [toList_writeUniversal, words_joinWith hwords, parts?, withoutDayName, if_pos (Or.inl hname)]

/-- The time of day is cut at its colons. -/
theorem timeParts?_writtenTime (m : Moment) :
    timeParts? (writtenTime m) =
      some ((twoDigits m.hour).toList, (twoDigits m.minute).toList, (twoDigits m.second).toList) := by
  have hcolon : ∀ n, ':' ∉ (twoDigits n).toList := fun n =>
    (figures_twoDigits [] n).notMem (by decide) (by decide)
  rw [timeParts?, writtenTime, splitOn_append_cons (hcolon _), splitOn_append_cons (hcolon _),
    splitOn_eq_self (hcolon _)]

/-- Digits and colons have no comma to drop. -/
theorem dropComma_figures {s : List Char} (h : Figures [':'] s) : dropComma s = s :=
  if_neg fun hlast => h.notMem (by decide) (by decide) (List.mem_of_getLast? hlast)

/-! ## The numbers of an HTTP date -/

/-- **The numbers of an HTTP date** are those of the moment, for years that have three digits at least. -/
theorem numbers?_written {m : Moment} (h : m.Valid) (hyear : 100 ≤ m.date.year) :
    numbers? ⟨(twoDigits m.date.day).toList, writtenMonth m, (fourDigits m.date.year).toList, writtenTime m,
        ['G', 'M', 'T']⟩ =
      some ([(m.date.year : Int), m.date.month, m.date.day, m.hour, m.minute, m.second], ['G', 'M', 'T']) := by
  obtain ⟨hname, hmonth⟩ := month?_writtenMonth h.1
  have hlast : m.date.year < 10000 := Nat.lt_succ_of_le h.1.2.1
  have hday : m.date.day < 100 := Nat.lt_of_le_of_lt (Date.day_le h.1) (by decide)
  obtain ⟨-, hhour, hminute, hsecond, -⟩ := h
  have hparts : (guard (!(twoDigits m.date.day).toList.isEmpty && !(writtenMonth m).isEmpty &&
      !(fourDigits m.date.year).toList.isEmpty) : Option Unit) = some () := by
    rw [(isWord_twoDigits _).isEmpty, hmonth.isEmpty, (isWord_fourDigits _).isEmpty]
    rfl
  have hyearPart : (guard (!(fourDigits m.date.year).toList.isEmpty) : Option Unit) = some () := by
    rw [(isWord_fourDigits _).isEmpty]
    rfl
  -- The year stands where it should: it is not the time, and it is not the zone.
  have hnotTime : ((fourDigits m.date.year).toList.contains ':' &&
      (fourDigits m.date.year).toList.head? != some ':') = false := by
    have hcolon : ':' ∉ (fourDigits m.date.year).toList :=
      (figures_fourDigits [] _).notMem (by decide) (by decide)
    rw [List.contains_eq_mem, decide_eq_false hcolon, Bool.false_and]
  have hnotZone : ((fourDigits m.date.year).toList.head?.all isDigit) = true := by
    have hdigits : ∀ d < 10, isDigit (Nat.digitChar d) = true := by decide
    rw [toList_fourDigits, toList_twoDigits]
    exact hdigits _ (Nat.mod_lt _ (by decide))
  have hfull : fullYear m.date.year = m.date.year := if_pos (by exact_mod_cast hyear)
  rw [numbers?]
  simp only [hname, hparts, hnotTime, hyearPart, hnotZone, Bool.false_eq_true, if_false, if_true,
    dropComma_figures (figures_writtenTime m), dropComma_figures (figures_twoDigits _ _),
    dropComma_figures (figures_fourDigits _ _), timeParts?_writtenTime, integer?_fourDigits hlast,
    integer?_twoDigits hday, integer?_twoDigits (show m.hour < 100 by omega),
    integer?_twoDigits (show m.minute < 100 by omega), integer?_twoDigits (show m.second < 100 by omega), hfull,
    bind, Option.bind, pure]

/-- Numbers of four digits fit. -/
theorem fits_of_lt {n : Nat} (h : n < 10000) : fits n = .ok () := by
  have hfits : Words.fits Words.limit32 n = true := by
    rw [Words.fits_iff, Words.limit32]
    omega
  rw [fits, if_pos hfits]

theorem zoneSeconds?_GMT : zoneSeconds? ['G', 'M', 'T'] = some 0 := by decide

/-- **An HTTP date is read** as the moment that it was written for, in years of three digits at least. -/
theorem read_writeUniversal {m : Moment} (h : m.Valid) (hyear : 100 ≤ m.date.year) (hmicro : m.micro = 0)
    (hoffset : m.offset = some 0) : read (HttpDate.writeUniversal m).toList = .ok m := by
  have hchecked := Moment.checked_parts h
  rw [hmicro, hoffset] at hchecked
  have hmicros : offsetMicros 0 = .ok 0 := rfl
  have hday : m.date.day < 10000 := Nat.lt_of_le_of_lt (Date.day_le h.1) (by decide)
  have hlast : m.date.year < 10000 := Nat.lt_succ_of_le h.1.2.1
  have hparts : (parts? (words (HttpDate.writeUniversal m).toList)).bind numbers? =
      some ([(m.date.year : Int), m.date.month, m.date.day, m.hour, m.minute, m.second], ['G', 'M', 'T']) := by
    rw [parts?_writeUniversal h, Option.bind_some, numbers?_written h hyear]
  obtain ⟨-, hhour, hminute, hsecond, -⟩ := h
  have hhour := fits_of_lt (show m.hour < 10000 by omega)
  have hminute := fits_of_lt (show m.minute < 10000 by omega)
  have hsecond := fits_of_lt (show m.second < 10000 by omega)
  rw [read, hparts]
  dsimp only
  rw [zoneSeconds?_GMT]
  dsimp only
  rw [hmicros, fits_of_lt hlast, fits_of_lt hday, hhour, hminute, hsecond]
  simp only [bind, Except.bind, pure, Except.pure]
  rw [hchecked]
  rfl

end Calendar.MailDate

end HttpRouter
