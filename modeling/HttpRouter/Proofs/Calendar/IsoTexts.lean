import HttpRouter.Proofs.Calendar.Clocks
import HttpRouter.Proofs.Calendar.Digits
import HttpRouter.Calendar.IsoDate
import Mathlib.Data.Option.Basic

/-!
# ISO texts

A moment is written with its parts in a fixed number of digits, and read part by part. The date ends behind ten
characters, since no digit of a month begins a week (`dateLength_written`), and the time of day ends where the first sign
behind the date is, since neither digits nor the marks between them are signs. So each part is read from just the text
that it was written as.

* `date_written`, `clock_written`, `timeAndOffset_written`: the parts of a moment are read from their texts;
* `read_textWith`: a moment whose offset is in whole minutes is read from its text.
-/

namespace HttpRouter.Calendar

/-- Whether the clock of a moment is ahead of universal time by whole minutes. A clock without an offset counts too. -/
def Moment.WholeMinutes (m : Moment) : Prop :=
  ∀ o, m.offset = some o → (60 * perSecond : Int) ∣ o

namespace IsoDate

/-! ## Parts of a moment -/

/-- The time of day of a moment as it is written. -/
def writtenClock (m : Moment) : List Char :=
  (twoDigits m.hour).toList ++ ':' :: ((twoDigits m.minute).toList ++ ':' :: ((twoDigits m.second).toList ++
    if m.micro = 0 then [] else '.' :: (sixDigits m.micro).toList))

/-- The offset of a moment as it is written. -/
def writtenZone (m : Moment) : List Char :=
  ((m.offset.map Moment.offsetText).getD "").toList

/-- A date as it is written. -/
def writtenDate (d : Date) : List Char :=
  (fourDigits d.year).toList ++ '-' :: ((twoDigits d.month).toList ++ '-' :: (twoDigits d.day).toList)

theorem toList_textWith (m : Moment) :
    (m.textWith "T").toList = writtenDate m.date ++ 'T' :: (writtenClock m ++ writtenZone m) := by
  by_cases h : m.micro = 0 <;>
    simp [Moment.textWith, Date.text, writtenDate, writtenClock, writtenZone, h]

/-- No digit begins a week. -/
theorem digitChar_ne_week {d : Nat} (h : d < 10) : Nat.digitChar d ≠ 'W' := by
  revert d
  decide

/-- **A date is read** from its text. -/
theorem date_written {d : Date} (h : d.Valid) :
    date (writtenDate d) = some ((d.year, d.month, d.day) : RawDate) := by
  have hday : d.day < 100 := Nat.lt_of_le_of_lt (Date.day_le h) (by decide)
  obtain ⟨-, hyear, -, hmonth, -, -⟩ := h
  have hyear : d.year < 10000 := Nat.lt_succ_of_le hyear
  have hmonth : d.month < 100 := Nat.lt_of_le_of_lt hmonth (by decide)
  have hend : digits 0 2 (twoDigits d.day).toList = some (d.day, []) := by
    simpa using digits_twoDigits 0 [] hday
  rw [date, writtenDate, digits_fourDigits _ hyear]
  simp only [bind, Option.bind]
  split
  · next s hweek =>
    rw [toList_twoDigits] at hweek
    exact absurd (List.cons.inj hweek).1 (digitChar_ne_week (Nat.mod_lt _ (by decide)))
  · simp [digits_twoDigits _ _ hmonth, hend]

section Clock

variable {hour minute second n : Nat} {follow : Bool} {more : Option Clock}

/-- A colon with another part behind it leads on to that part, -/
theorem clockFrom_colon (rest : List Char) :
    clockFrom hour minute second (':' :: ((twoDigits n).toList ++ rest)) follow more = more := by
  rw [toList_twoDigits]
  rfl

/-- and the decimal mark to the fraction. -/
theorem clockFrom_mark (h : n < 1000000) :
    clockFrom hour minute second ('.' :: (sixDigits n).toList) follow more = some ⟨hour, minute, second, n, follow⟩ := by
  have hlength : (sixDigits n).toList.length = 6 := by
    simp [toList_sixDigits, toList_fourDigits, toList_twoDigits]
  have hdigits : digits 0 6 (sixDigits n).toList = some (n, []) := by
    simpa using digits_sixDigits [] h
  have hfraction : fraction (sixDigits n).toList follow = some (n, follow) := by
    simp [fraction, hlength, hdigits]
  have hmark : clockFrom hour minute second ('.' :: (sixDigits n).toList) follow more =
      (fraction (sixDigits n).toList follow).map fun p => ⟨hour, minute, second, p.1, p.2⟩ := by
    rw [toList_sixDigits, toList_twoDigits]
    rfl
  rw [hmark, hfraction]
  rfl

/-- Hours and minutes are read from a text that has nothing else. -/
theorem clock_hourMinute (hhour : hour < 100) (hminute : minute < 100) :
    clock ((twoDigits hour).toList ++ ':' :: (twoDigits minute).toList) follow =
      some ⟨hour, minute, 0, 0, follow⟩ := by
  simp only [clock, digits_twoDigits _ _ hhour, Option.bind_eq_bind, Option.bind_some, List.head?_cons, List.tail_cons,
    beq_self_eq_true, if_true, Nat.mul_zero, Nat.zero_add]
  rw [← List.append_nil (twoDigits minute).toList, clockFrom_colon, digits_twoDigits _ _ hminute]
  simp [clockFrom]

/-- **A time of day is read** from its text. -/
theorem clock_written {m : Moment} (h : m.Valid) :
    clock (writtenClock m) follow = some ⟨m.hour, m.minute, m.second, m.micro, follow⟩ := by
  obtain ⟨-, hhour, hminute, hsecond, hmicro, -⟩ := h
  have hhour : m.hour < 100 := by omega
  have hminute : m.minute < 100 := by omega
  have hsecond : m.second < 100 := by omega
  simp only [clock, writtenClock, digits_twoDigits _ _ hhour, digits_twoDigits _ _ hminute, digits_twoDigits _ _ hsecond,
    Option.bind_eq_bind, Option.bind_some, clockFrom_colon, List.head?_cons, List.tail_cons, beq_self_eq_true,
    Bool.not_true, Bool.false_or, if_true, guard, Option.pure_def, Nat.mul_zero, Nat.zero_add]
  split
  · next hmicro => rw [hmicro, clockFrom]
  · exact clockFrom_mark hmicro

end Clock

/-! ## Offsets -/

/-- A number of minutes as an offset has it behind the sign. -/
def writtenMinutes (n : Nat) : List Char :=
  (twoDigits (n / 60)).toList ++ ':' :: (twoDigits (n % 60)).toList

/-- The minutes of an offset are read. -/
theorem clock_writtenMinutes {n : Nat} (h : n < 1440) (follow : Bool) :
    clock (writtenMinutes n) follow = some ⟨n / 60, n % 60, 0, 0, follow⟩ :=
  clock_hourMinute (by omega) (by omega)

/-- An offset in whole minutes is written as a sign and the minutes. -/
theorem offsetText_minutes (minutes : Int) :
    (Moment.offsetText (60 * perSecond * minutes)).toList =
      (if minutes < 0 then '-' else '+') :: writtenMinutes minutes.natAbs := by
  have habs : (60 * perSecond * minutes : Int).natAbs = minutes.natAbs * 60 * perSecond := by
    simp only [perSecond]
    omega
  have hsign : (60 * perSecond * minutes : Int) < 0 ↔ minutes < 0 := by
    simp only [perSecond]
    omega
  have hhours : minutes.natAbs * 60 / 3600 = minutes.natAbs / 60 := by omega
  have hminutes : minutes.natAbs * 60 / 60 = minutes.natAbs := by omega
  simp only [Moment.offsetText, habs, hsign, Nat.mul_div_cancel _ (show 0 < perSecond by decide), Nat.mul_mod_left,
    hhours, hminutes, writtenMinutes]
  split <;> simp

theorem figures_writtenClock (m : Moment) : Figures [':', '.'] (writtenClock m) := by
  refine (figures_twoDigits _ _).append (.cons (by decide) ((figures_twoDigits _ _).append (.cons (by decide)
    ((figures_twoDigits _ _).append ?_))))
  split
  · exact fun _ hc => absurd hc List.not_mem_nil
  · exact .cons (by decide) (figures_sixDigits _ _)

/-- **A time of day and an offset** in whole minutes are read from their text. -/
theorem timeAndOffset_written {m : Moment} (h : m.Valid) (hminutes : m.WholeMinutes) :
    timeAndOffset (writtenClock m ++ writtenZone m) =
      some (⟨m.hour, m.minute, m.second, m.micro, m.offset.isSome⟩, m.offset) := by
  have htime : ∀ c ∈ writtenClock m, (!startsOffset c) = true :=
    (figures_writtenClock m).forall (by decide) (by decide)
  rw [timeAndOffset, List.takeWhile_append_of_pos htime, List.dropWhile_append_of_pos htime, writtenZone]
  rcases hoffset : m.offset with _ | o
  · simp [clock_written h]
  · obtain ⟨minutes, rfl⟩ := hminutes o hoffset
    have hday := h.2.2.2.2.2 _ hoffset
    rw [Option.map_some, Option.getD_some, offsetText_minutes]
    generalize hn : minutes.natAbs = n
    have hbound : n < 1440 := by
      simp only [perDay, perSecond] at hday
      omega
    have hvalue : ((n / 60 * 60 + n % 60) * 60 * perSecond : Int) = 60 * perSecond * n := by
      simp only [perSecond]
      omega
    by_cases hneg : minutes < 0
    · have hminus : -(60 * perSecond * n : Int) = 60 * perSecond * minutes := by
        simp only [perSecond]
        omega
      simp [hneg, startsOffset, clock_written h, clock_writtenMinutes hbound, hvalue, hminus]
    · have hplus : (60 * perSecond * n : Int) = 60 * perSecond * minutes := by
        simp only [perSecond]
        omega
      simp [hneg, startsOffset, clock_written h, clock_writtenMinutes hbound, hvalue, hplus]

/-! ## Moments -/

theorem length_writtenDate (d : Date) : (writtenDate d).length = 10 := by
  simp [writtenDate, toList_fourDigits, toList_twoDigits]

/-- A date by month in the extended form ends behind ten characters. -/
theorem dateLength_written (d : Date) (rest : List Char) : dateLength (writtenDate d ++ 'T' :: rest) = some 10 := by
  have hweek : Nat.digitChar (d.month / 10 % 10) ≠ 'W' := digitChar_ne_week (Nat.mod_lt _ (by decide))
  simp [dateLength, writtenDate, toList_fourDigits, toList_twoDigits, hweek]

/-- **A moment is read from its text** if its offset is in whole minutes. -/
theorem read_textWith {m : Moment} (h : m.Valid) (hminutes : m.WholeMinutes) :
    read (m.textWith "T").toList = .ok m := by
  rw [toList_textWith]
  obtain ⟨s, hs⟩ : ∃ s, s = writtenDate m.date ++ 'T' :: (writtenClock m ++ writtenZone m) := ⟨_, rfl⟩
  have hlength : dateLength s = some 10 := hs ▸ dateLength_written _ _
  have htake : s.take 10 = writtenDate m.date := hs ▸ List.take_left' (length_writtenDate m.date)
  have hdrop : s.drop 10 = 'T' :: (writtenClock m ++ writtenZone m) :=
    hs ▸ List.drop_left' (length_writtenDate m.date)
  have hlong : ¬ s.length < 7 := by
    rw [hs, List.length_append, length_writtenDate]
    omega
  have hoffset : ∀ o, m.offset = some o → Moment.checkedOffset o = .ok o := fun o ho => if_pos (h.2.2.2.2.2 o ho)
  have hparts := Moment.checked_parts h
  rw [← hs, read]
  simp only [if_neg hlong, hlength, htake, hdrop, date_written h.1, timeAndOffset_written h hminutes, Option.elim,
    bind, Except.bind, pure, Except.pure]
  cases hzone : m.offset with
  | none =>
    rw [hzone] at hparts
    simp only [hparts, Except.mapError]
  | some o =>
    rw [hzone] at hparts
    simp only [hoffset o hzone, hparts, Except.mapError]

/-- The text of a moment has nothing but digits and marks in it. -/
theorem figures_textWith {m : Moment} (hminutes : m.WholeMinutes) :
    Figures ['-', 'T', ':', '.', '+'] (m.textWith "T").toList := by
  have hdate : Figures ['-'] (writtenDate m.date) :=
    (figures_fourDigits _ _).append (.cons (by decide) ((figures_twoDigits _ _).append (.cons (by decide)
      (figures_twoDigits _ _))))
  have hzone : Figures ['+', '-', ':'] (writtenZone m) := by
    rw [writtenZone]
    cases hoffset : m.offset with
    | none => exact fun _ hc => absurd hc List.not_mem_nil
    | some o =>
      obtain ⟨minutes, rfl⟩ := hminutes o hoffset
      rw [Option.map_some, Option.getD_some, offsetText_minutes]
      refine .cons ?_ ((figures_twoDigits _ _).append (.cons (by decide) (figures_twoDigits _ _)))
      split <;> decide
  rw [toList_textWith]
  exact (hdate.mono (by simp)).append
    (.cons (by decide) (((figures_writtenClock m).mono (by simp)).append (hzone.mono (by simp))))

end IsoDate

end HttpRouter.Calendar
