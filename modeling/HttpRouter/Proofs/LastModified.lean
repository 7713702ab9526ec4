import HttpRouter.LastModified
import HttpRouter.Proofs.Calendar.IsoTexts
import HttpRouter.Proofs.Calendar.MailTexts

/-!
# One instant, one date

The forms of a last-modified time are read in different ways, and each of them as some moment: seconds by counting from
1970, an ISO text part by part after it has been refused as a mail date, an HTTP date as a mail date. What is written is
the second of universal time that the moment lies in, on whatever clock the moment was given. So all forms of an instant
come together in one date, and a date is kept when it is given back.

* `ofSeconds_eq`, `ofText_textWith`, `ofText_ofSecond`: what each form is read as;
* `toHttpDate_moment_of_second`: what is written for a moment;
* `toHttpDate_alike`: the forms of an instant have the same date.
-/

namespace HttpRouter.LastModified

open Calendar

/-! ## Seconds since 1970 -/

/-- The year of a day is found by cycles as it is found in the calendar. -/
theorem yearOf_natCast (day : Nat) : ofSeconds.yearOf day = Date.yearOfNumber day := by
  have hcycle : (day : Int).fdiv 146097 = (day / 146097 : Nat) := Int.fdiv_eq_ediv_of_nonneg _ (by decide)
  have hrest : (day : Int).fmod 146097 = (day % 146097 : Nat) := Int.fmod_eq_emod_of_nonneg _ (by decide)
  have hfalls := Date.fallsIn_yearOfNumber (day % 146097)
  have hday : FallsIn day (day / 146097 * 400 + Date.yearOfNumber (day % 146097)) := by
    have hstart := yearStart_add (day / 146097) hfalls.one_le
    have hnext := yearStart_add (day / 146097) (Nat.le_add_left 1 (Date.yearOfNumber (day % 146097)))
    have hlow := hfalls.start_le
    have hhigh := hfalls.lt_next
    exact ⟨Nat.le_add_left_of_le hfalls.one_le, by omega, by rw [Nat.add_assoc]; omega⟩
  rw [ofSeconds.yearOf, hcycle, hrest, Int.toNat_natCast, (Date.fallsIn_yearOfNumber day).unique hday]
  omega

/-- **Seconds since 1970** are a moment on the clock of universal time, if the calendar has it. -/
theorem ofSeconds_eq {t : Int} {n : Nat} (hn : epochDay * 86400 + t = n) (hlast : n < dayCount * 86400) :
    ofSeconds t 0 = .ok (Moment.ofSecond n) := by
  have hepoch : (epochDay : Int) = 719162 := by decide
  have hcount : dayCount = 3652059 := by decide
  have hday : (n : Int).fdiv 86400 = (n / 86400 : Nat) := Int.fdiv_eq_ediv_of_nonneg _ (by decide)
  have hvalid : (Date.ofNumber (n / 86400)).Valid := Date.valid_ofNumber (by omega)
  have hfirst : 1 ≤ Date.yearOfNumber (n / 86400) := hvalid.1
  have hend : Date.yearOfNumber (n / 86400) ≤ lastYear := hvalid.2.1
  have hword : Words.fits Words.limit64 t = true := by
    rw [Words.fits_iff, Words.limit64]
    omega
  have hyear : Words.fits Words.limit32 (Date.yearOfNumber (n / 86400) - 1900) = true := by
    rw [lastYear] at hend
    rw [Words.fits_iff, Words.limit32]
    omega
  simp only [ofSeconds, hword, hn, hday, yearOf_natCast, hyear, Bool.not_true, Bool.false_eq_true, if_false,
    Nat.add_zero, Int.toNat_natCast]
  exact if_neg (by omega)

/-! ## The forms of a moment -/

/-- A moment is its own form: what remains is to write it. -/
theorem toHttpDate_moment (m : Moment) : toHttpDate (.moment m) = (HttpDate.write m).map some := by
  cases hwrite : HttpDate.write m <;> simp [toHttpDate, Value.isTruthy, hwrite] <;> rfl

/-- Seconds stand for the moment that they are read as, -/
theorem toHttpDate_int {t : Int} (ht : t ≠ 0) {m : Moment} (h : ofSeconds t 0 = .ok m) :
    toHttpDate (.int t) = toHttpDate (.moment m) := by
  have htruthy : (Value.int t).isTruthy = true := bne_iff_ne.mpr ht
  simp only [toHttpDate, htruthy, h]
  rfl

/-- and so do texts. The empty text, which counts as nothing, is not read as a moment. -/
theorem toHttpDate_text {s : Letters} {m : Moment} (h : ofText s = .ok m) :
    toHttpDate (.text s) = toHttpDate (.moment m) := by
  have hne : s ≠ [] := by
    rintro rfl
    cases h
  have htruthy : (Value.text s).isTruthy = true := by
    simpa [Value.isTruthy] using hne
  simp only [toHttpDate, htruthy, h]
  rfl

/-- The HTTP date of a moment is that of the second that it lies in. -/
theorem toHttpDate_moment_of_second {m : Moment} (h : m.Valid) {n : Nat} (hn : m.universal / perSecond = n)
    (hlast : n < dayCount * 86400) : toHttpDate (.moment m) = .ok (some (HttpDate.ofSecond n)) := by
  have hcount : dayCount = 3652059 := by decide
  simp only [perSecond] at hn
  obtain ⟨u, hu⟩ := Int.eq_ofNat_of_zero_le (show 0 ≤ m.universal by omega)
  have hsecond : u / perSecond = n := by
    simp only [perSecond]
    omega
  have hend : u < dayCount * perDay := by
    simp only [perDay, perSecond]
    omega
  rw [toHttpDate_moment, HttpDate.write_eq h hu hend, hsecond]
  rfl

/-! ## Texts -/

/-- To the reader of mail dates a string is its characters, -/
theorem map_getD_ofString (s : String) :
    (Text.ofString s).map (fun l => l.char?.getD Text.Utf8.replacement) = s.toList := by
  rw [Text.ofString, Text.ofChars, List.map_map]
  exact List.map_id _

/-- and so it is to the reader of ISO texts, since all of its letters are characters. -/
theorem isoChars?_ofString (s : String) : isoChars? (Text.ofString s) = some s.toList := by
  have hplain : ∀ place : Nat, ((Text.ofString s)[place]?.any fun l : Letter => l.char?.isNone) = false := by
    intro place
    rw [Text.ofString, Text.ofChars, List.getElem?_map]
    cases s.toList[place]? <;> rfl
  have hfind : (dividers.find? fun place => (Text.ofString s)[place]?.any fun l : Letter => l.char?.isNone) = none :=
    List.find?_eq_none.mpr fun place _ => by rw [hplain place]; decide
  rw [isoChars?, hfind]
  exact Text.plain?_ofString s

/-- **The ISO text of a moment** whose offset is in whole minutes is read as that moment: it is a single word, so that
it is not taken for a mail date. -/
theorem ofText_textWith {m : Moment} (h : m.Valid) (hminutes : m.WholeMinutes) : ofText (m.textWith "T") = .ok m := by
  have hne : (m.textWith "T").toList ≠ [] := by
    rw [IsoDate.toList_textWith]
    exact List.append_ne_nil_of_right_ne_nil _ (List.cons_ne_nil _ _)
  have hword : Text.IsWord (m.textWith "T").toList := .of_figures (IsoDate.figures_textWith hminutes) hne (by decide)
  rw [ofText, map_getD_ofString, MailDate.read_word hword, isoChars?_ofString]
  dsimp only [Option.elim]
  rw [IsoDate.read_textWith h hminutes]

/-- **The HTTP date of a second** is read as the moment at which the clock of universal time shows it. -/
theorem ofText_ofSecond {n : Nat} (hfirst : yearStart 100 * 86400 ≤ n) (hlast : n < dayCount * 86400) :
    ofText (HttpDate.ofSecond n) = .ok (Moment.ofSecond n) := by
  have hyear : 100 ≤ (Moment.ofSecond n).date.year := by
    rw [Moment.date_ofSecond]
    exact Date.le_year_ofNumber ((Nat.le_div_iff_mul_le (by decide)).mpr hfirst)
  rw [ofText, map_getD_ofString, HttpDate.ofSecond]
  rw [MailDate.read_writeUniversal (Moment.valid_ofSecond hlast) hyear (Moment.micro_ofSecond n) rfl]

/-! ## One instant, one date -/

/-- **All forms of an instant have the same HTTP date**, from year 100 to the end of the calendar, and it is the one that
the clock of universal time shows at that second: the seconds since 1970, every moment of that second on the clock of
universal time or on one with an offset in whole minutes, the ISO text of the moment, and the HTTP date itself. The
beginning of 1970 is left out, since zero counts as nothing. -/
theorem toHttpDate_alike {t : Int} (ht : t ≠ 0) (hfirst : yearStart 100 * 86400 ≤ epochDay * 86400 + t)
    (hlast : epochDay * 86400 + t < dayCount * 86400) :
    ∃ shown : Moment, (shown.Valid ∧ shown.offset = some 0 ∧ shown.universal = (epochDay * 86400 + t) * perSecond) ∧
      toHttpDate (.int t) = .ok (some (HttpDate.writeUniversal shown)) ∧
      toHttpDate (.text (HttpDate.writeUniversal shown)) = .ok (some (HttpDate.writeUniversal shown)) ∧
      ∀ m : Moment, m.Valid → m.WholeMinutes → m.universal / perSecond = epochDay * 86400 + t →
        toHttpDate (.moment m) = .ok (some (HttpDate.writeUniversal shown)) ∧
          toHttpDate (.text (m.textWith "T")) = .ok (some (HttpDate.writeUniversal shown)) := by
  obtain ⟨n, hn⟩ := Int.eq_ofNat_of_zero_le (Int.le_trans (by decide) hfirst)
  rw [hn] at hfirst hlast
  have hfirst : yearStart 100 * 86400 ≤ n := Int.ofNat_le.mp hfirst
  have hlast : n < dayCount * 86400 := Int.ofNat_lt.mp hlast
  have hvalid := Moment.valid_ofSecond hlast
  have hshown : (Moment.ofSecond n).universal / perSecond = n := by
    rw [Moment.universal_ofSecond]
    exact Int.ofNat_inj.mpr (Nat.mul_div_cancel n (by decide))
  have hdate := toHttpDate_moment_of_second hvalid hshown hlast
  refine ⟨Moment.ofSecond n, ⟨hvalid, rfl, ?_⟩, ?_, ?_, fun m h hminutes hsecond => ?_⟩
  · rw [Moment.universal_ofSecond, hn, Int.natCast_mul]
  · exact (toHttpDate_int ht (ofSeconds_eq hn hlast)).trans hdate
  · exact (toHttpDate_text (ofText_ofSecond hfirst hlast)).trans hdate
  · have hmoment := toHttpDate_moment_of_second h (hsecond.trans hn) hlast
    exact ⟨hmoment, (toHttpDate_text (ofText_textWith h hminutes)).trans hmoment⟩

/-- Half an hour into a leap day of universal time, which is the evening before at five hours behind. -/
theorem toHttpDate_alike_leapDay :
    let evening : Moment := ⟨⟨2024, 2, 28⟩, 19, 30, 0, 250000, some (-18000000000)⟩
    let leapDay : Moment := ⟨⟨2024, 2, 29⟩, 0, 30, 0, 0, none⟩
    ∀ v ∈ [Value.int 1709166600, .moment evening, .text "2024-02-28T19:30:00.250000-05:00", .moment leapDay,
      .text "2024-02-29T00:30:00", .text "Thu, 29 Feb 2024 00:30:00 GMT"],
      toHttpDate v = .ok (some "Thu, 29 Feb 2024 00:30:00 GMT") := by
  intro evening leapDay
  obtain ⟨shown, -, hint, htext, hmoments⟩ := toHttpDate_alike (t := 1709166600) (by decide) (by decide) (by decide)
  have hvalue : toHttpDate (.int 1709166600) = .ok (some "Thu, 29 Feb 2024 00:30:00 GMT") := rfl
  have hshown : HttpDate.writeUniversal shown = "Thu, 29 Feb 2024 00:30:00 GMT" := by
    simpa using hint.symm.trans hvalue
  rw [hshown] at htext
  have hevening := hmoments evening
    ⟨by decide, by decide, by decide, by decide, by decide, fun o ho => Option.some.inj ho ▸ by decide⟩
    (fun o ho => Option.some.inj ho ▸ ⟨-300, rfl⟩) (by decide)
  have hleapDay := hmoments leapDay
    ⟨by decide, by decide, by decide, by decide, by decide, fun o ho => nomatch ho⟩ (fun o ho => nomatch ho) (by decide)
  have heveningText : evening.textWith "T" = "2024-02-28T19:30:00.250000-05:00" := by decide
  have hleapDayText : leapDay.textWith "T" = "2024-02-29T00:30:00" := by decide
  rw [heveningText, hshown] at hevening
  rw [hleapDayText, hshown] at hleapDay
  simp only [List.forall_mem_cons]
  exact ⟨hvalue, hevening.1, hevening.2, hleapDay.1, hleapDay.2, htext, fun _ hv => absurd hv List.not_mem_nil⟩

end HttpRouter.LastModified
