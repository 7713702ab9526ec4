import HttpRouter.Calendar.HttpDate
import HttpRouter.Proofs.Calendar.Days

/-!
# Clocks

A moment shows a number of microseconds since the calendar began, and what a clock shows stands for one moment of that
clock. Brought to universal time (`Moment.universal`), moments on different clocks can be compared; and the HTTP date of
a moment depends on nothing but the second of universal time that it lies in.

* `ofClock_clock`, `clock_ofClock`: a moment is found again from what its clock shows, and the other way round;
* `existsUnique_universal`: on each clock, there is one moment for each instant;
* `write_eq`: the HTTP date of a moment is that of its second.
-/

namespace HttpRouter.Calendar

namespace Moment

/-- Microseconds of universal time since the calendar began. A clock without an offset shows universal time. -/
def universal (m : Moment) : Int :=
  m.clock - m.offset.getD 0

/-! ## What a clock shows -/

/-- **What a clock shows is found again from the moment.** -/
theorem clock_ofClock (n : Nat) (offset : Option Int) : (ofClock n offset).clock = n := by
  simp only [clock, ofClock, Date.number_ofNumber, perDay, perSecond]
  omega

/-- **A moment is found again from what its clock shows.** -/
theorem ofClock_clock {m : Moment} (h : m.Valid) : ofClock m.clock m.offset = m := by
  obtain ⟨date, hour, minute, second, micro, offset⟩ := m
  obtain ⟨hdate, hhour, hminute, hsecond, hmicro, -⟩ := h
  dsimp only at hhour hminute hsecond
  simp only [perSecond] at hmicro
  have hday : clock ⟨date, hour, minute, second, micro, offset⟩ / perDay = date.number := by
    simp only [clock, perDay, perSecond]
    omega
  have hseconds : clock ⟨date, hour, minute, second, micro, offset⟩ % perDay / perSecond =
      (hour * 60 + minute) * 60 + second := by
    simp only [clock, perDay, perSecond]
    omega
  have hrest : clock ⟨date, hour, minute, second, micro, offset⟩ % perSecond = micro := by
    simp only [clock, perDay, perSecond]
    omega
  simp only [ofClock, hday, hseconds, hrest, Date.ofNumber_number hdate, mk.injEq, true_and, and_true]
  omega

/-- What clocks show lies between the beginning and the end of the calendar. -/
theorem valid_ofClock {n : Nat} (h : n < dayCount * perDay) {offset : Option Int}
    (hoffset : ∀ o, offset = some o → -(perDay : Int) < o ∧ o < perDay) : (ofClock n offset).Valid := by
  have hday : n / perDay < dayCount := Nat.div_lt_of_lt_mul (Nat.mul_comm _ _ ▸ h)
  refine ⟨Date.valid_ofNumber hday, ?_, ?_, ?_, ?_, hoffset⟩
  all_goals
    simp only [ofClock, perDay, perSecond]
    omega

/-- The parts of a moment pass the checks that parts are put to. -/
theorem checked_parts {m : Moment} (h : m.Valid) :
    checked m.date.year m.date.month m.date.day m.hour m.minute m.second m.micro m.offset = .ok m := by
  obtain ⟨⟨hyear, hlast, hmonth, hdec, hday, hlength⟩, hhour, hminute, hsecond, -, -⟩ := h
  have hdate : (1 : Int) ≤ m.date.day ∧
      (m.date.day : Int) ≤ monthLength (m.date.year : Int).toNat (m.date.month : Int).toNat := by
    simp only [Int.toNat_natCast]
    omega
  rw [checked, if_neg (by omega), if_neg (by omega), if_neg (not_not_intro hdate), if_neg (by omega), if_neg (by omega),
    if_neg (by omega)]
  rfl

/-! ## Universal time -/

/-- **An instant is shown once** on each clock, if the calendar has what that clock shows then: by the moment of it. -/
theorem existsUnique_universal {u : Int} {offset : Option Int} (hfirst : 0 ≤ u + offset.getD 0)
    (hlast : u + offset.getD 0 < dayCount * perDay)
    (hoffset : ∀ o, offset = some o → -(perDay : Int) < o ∧ o < perDay) :
    ∃ m : Moment, (m.Valid ∧ m.offset = offset ∧ m.universal = u) ∧
      ∀ m' : Moment, m'.Valid → m'.offset = offset → m'.universal = u → m' = m := by
  obtain ⟨n, hn⟩ := Int.eq_ofNat_of_zero_le hfirst
  rw [hn] at hlast
  refine ⟨ofClock n offset, ⟨valid_ofClock (by exact_mod_cast hlast) hoffset, rfl, ?_⟩, fun m h hm hu => ?_⟩
  · have hshown : (ofClock n offset).universal = (n : Int) - offset.getD 0 := by rw [universal, clock_ofClock]; rfl
    omega
  · have hclock : m.clock = n := by
      rw [universal, hm] at hu
      omega
    rw [← ofClock_clock h, hclock, hm]

/-- **The clock of universal time** shows the instant of a moment, if the calendar has it. -/
theorem universal?_eq {m : Moment} (h : m.Valid) {n : Nat} (hn : m.universal = n) (hlast : n < dayCount * perDay) :
    m.universal? = some (ofClock n (some 0)) := by
  rw [universal] at hn
  rw [universal?]
  split
  · next hoffset =>
    rw [hoffset, Option.getD_none, Int.sub_zero, Int.natCast_inj] at hn
    have hm := ofClock_clock h
    rw [hn, hoffset] at hm
    rw [← hm]
    rfl
  · next o hoffset =>
    rw [hoffset, Option.getD_some] at hn
    rw [hn, if_pos ⟨Int.natCast_nonneg n, by exact_mod_cast hlast⟩, Int.toNat_natCast]

/-! ## Seconds of universal time -/

/-- The moment at which the clock of universal time shows a number of seconds since the calendar began. -/
def ofSecond (n : Nat) : Moment :=
  ofClock (n * perSecond) (some 0)

theorem valid_ofSecond {n : Nat} (h : n < dayCount * 86400) : (ofSecond n).Valid := by
  refine valid_ofClock ?_ fun o ho => Option.some.inj ho ▸ by decide
  simp only [perDay, perSecond]
  omega

theorem universal_ofSecond (n : Nat) : (ofSecond n).universal = (n * perSecond : Nat) := by
  rw [universal, ofSecond, clock_ofClock]
  exact Int.sub_zero _

theorem date_ofSecond (n : Nat) : (ofSecond n).date = Date.ofNumber (n / 86400) := by
  have hday : n * perSecond / perDay = n / 86400 := by
    simp only [perDay, perSecond]
    omega
  rw [← hday]
  rfl

theorem micro_ofSecond (n : Nat) : (ofSecond n).micro = 0 :=
  Nat.mul_mod_left _ _

end Moment

namespace HttpDate

/-- The HTTP date of a second of universal time, counted from the beginning of the calendar. -/
def ofSecond (n : Nat) : String :=
  writeUniversal (Moment.ofSecond n)

/-- The HTTP date has nothing finer than seconds. -/
theorem writeUniversal_ofClock (n : Nat) : writeUniversal (Moment.ofClock n (some 0)) = ofSecond (n / perSecond) := by
  have hday : n / perSecond * perSecond / perDay = n / perDay := by
    simp only [perDay, perSecond]
    omega
  have hseconds : n / perSecond * perSecond % perDay / perSecond = n % perDay / perSecond := by
    simp only [perDay, perSecond]
    omega
  simp only [ofSecond, writeUniversal, Moment.ofSecond, Moment.ofClock, hday, hseconds]

/-- **The HTTP date of a moment is that of its second.** -/
theorem write_eq {m : Moment} (h : m.Valid) {n : Nat} (hn : m.universal = n) (hlast : n < dayCount * perDay) :
    write m = .ok (ofSecond (n / perSecond)) := by
  rw [write, Moment.universal?_eq h hn hlast]
  exact congrArg Except.ok (writeUniversal_ofClock n)

end HttpDate

end HttpRouter.Calendar
