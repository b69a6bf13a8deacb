import Registrar.Proofs.Instant.Calendar
import Registrar.Proofs.Kind.Lawful

/-!
Instants and their texts. Main statements: an instant of a year that the calendar covers, with a fraction
below one second or a leap second, is what its text is read as; and so is every instant that is read of
some text.
-/

namespace Registrar

namespace Instant

variable {n width most : Nat} {ds rest : List Char}

/-- The text goes on with something that is no digit, or ends. -/
def Stops (rest : List Char) : Prop := ∀ c, rest.head? = some c → c.isDigit = false

theorem stops_cons {c : Char} (h : c.isDigit = false) (r : List Char) : Stops (c :: r) := by
  rintro d ⟨⟩
  exact h

theorem takeWhile_of_stops (stops : Stops rest) : rest.takeWhile Char.isDigit = [] := by
  cases rest with
  | nil => rfl
  | cons c r => exact List.takeWhile_cons_of_neg (by simp [stops c rfl])

theorem trimStart_cons {c : Char} (h : Text.isBlank c = false) (r : List Char) :
    Text.trimStart (c :: r) = c :: r :=
  List.dropWhile_cons_of_neg (by simp [h])

theorem number?_append (digits : ∀ c ∈ ds, c.isDigit) (filled : ds ≠ []) (short : ds.length ≤ most)
    (stops : Stops rest) : number? most (ds ++ rest) = some (Number.digitsValue ds, rest) := by
  have taken : ((ds ++ rest).takeWhile Char.isDigit).take most = ds := by
    rw [List.takeWhile_append_of_pos digits, takeWhile_of_stops stops, List.append_nil,
      List.take_of_length_le short]
  have notEmpty : ds.isEmpty = false := by simp [filled]
  simp [number?, taken, notEmpty]

theorem isDigit_of_mem_padded {c : Char} (h : c ∈ padded width n) : c.isDigit := by
  rcases List.mem_append.1 h with zero | digit
  · rw [List.eq_of_mem_replicate zero]
    rfl
  · exact Nat.isDigit_of_mem_toDigits (by decide) (by decide) digit

theorem padded_ne_nil : padded width n ≠ [] := by
  simp [padded, Nat.toDigits_ne_nil]

theorem digitsValue_padded : Number.digitsValue (padded width n) = n := by
  rw [padded, Number.digitsValue_zeros, Number.digitsValue_eq_ofDigitChars
    fun c hc => Nat.isDigit_of_mem_toDigits (by decide) (by decide) hc, Nat.ofDigitChars_ten_toDigits]

theorem length_padded (positive : 0 < width) (h : n < 10 ^ width) :
    (padded width n).length = width := by
  have short := (Nat.length_toDigits_le_iff (by decide) positive).2 h
  simp only [padded, List.length_append, List.length_replicate]
  omega

theorem padded_eq_cons (width n : Nat) : ∃ c r, padded width n = c :: r ∧ c.isDigit := by
  have filled : padded width n ≠ [] := padded_ne_nil
  obtain ⟨c, r, shown⟩ := List.exists_cons_of_ne_nil filled
  exact ⟨c, r, shown, isDigit_of_mem_padded (shown ▸ List.mem_cons_self)⟩

theorem trimStart_padded (width n : Nat) (rest : List Char) :
    Text.trimStart (padded width n ++ rest) = padded width n ++ rest := by
  obtain ⟨c, r, shown, digit⟩ := padded_eq_cons width n
  rw [shown]
  exact trimStart_cons (Number.not_isBlank_of_isDigit digit) _

theorem number?_padded (positive : 0 < width) (h : n < 10 ^ width) (enough : width ≤ most)
    (stops : Stops rest) : number? most (padded width n ++ rest) = some (n, rest) := by
  rw [number?_append (fun _ => isDigit_of_mem_padded) padded_ne_nil
    (by rw [length_padded positive h]; exact enough) stops, digitsValue_padded]

theorem item?_padded (h : n < 100) (stops : Stops rest) :
    item? 2 (padded 2 n ++ rest) = some (n, rest) := by
  rw [item?, trimStart_padded]
  exact number?_padded (by decide) h (Nat.le_refl 2) stops

theorem mark?_cons {c : Char} (h : Text.isBlank c = false) (r : List Char) :
    mark? c (c :: r) = some r := by
  simp [mark?, trimStart_cons h]

theorem year?_yearText (year : Int) (r : List Char) :
    year? (yearText year ++ '-' :: r) = some (year, '-' :: r) := by
  have stops : Stops ('-' :: r) := stops_cons (by decide) r
  have all (n : Nat) : number? (padded 4 n ++ '-' :: r).length (padded 4 n ++ '-' :: r) =
      some (n, '-' :: r) := by
    rw [number?_append (fun _ => isDigit_of_mem_padded) padded_ne_nil (by simp) stops,
      digitsValue_padded]
  unfold yearText
  split
  · next plain =>
    obtain ⟨c, rest, shown, digit⟩ := padded_eq_cons 4 year.toNat
    have read : number? 4 (padded 4 year.toNat ++ '-' :: r) = some (year.toNat, '-' :: r) :=
      number?_padded (by decide) (by omega) (Nat.le_refl 4) stops
    rw [year?, trimStart_padded]
    split
    · next same =>
      rw [shown] at same
      cases same
      cases digit
    · next same =>
      rw [shown] at same
      cases same
      cases digit
    · rw [read, Option.map_some]
      dsimp only
      rw [Int.toNat_of_nonneg plain.1]
  · next wide =>
    by_cases negative : year < 0
    · have size : -(year.natAbs : Int) = year := by omega
      rw [if_pos negative]
      refine (congrArg (Option.map _) (all year.natAbs)).trans ?_
      exact congrArg (fun y => some (y, '-' :: r)) size
    · have size : (year.natAbs : Int) = year := by omega
      rw [if_neg negative]
      refine (congrArg (Option.map _) (all year.natAbs)).trans ?_
      exact congrArg (fun y => some (y, '-' :: r)) size

theorem fraction?_fractionText (h : n < 1000000000) :
    fraction? (fractionText n ++ ['Z']) = some (n, ['Z']) := by
  have places {width m : Nat} (positive : 0 < width) (few : width ≤ 9) (below : m < 10 ^ width) :
      fraction? ('.' :: padded width m ++ ['Z']) = some (m * 10 ^ (9 - width), ['Z']) := by
    have read : number? 9 (padded width m ++ ['Z']) = some (m, ['Z']) :=
      number?_padded positive below few (stops_cons (by decide) [])
    have length := length_padded positive below
    simp [fraction?, read, length]
  unfold fractionText
  split
  · next zero =>
    subst zero
    rfl
  · split
    · next thousandth =>
      rw [places (by decide) (by decide) (by omega)]
      congr 2
      omega
    · split
      · next millionth =>
        rw [places (by decide) (by decide) (by omega)]
        congr 2
        omega
      · rw [places (by decide) (by decide) (by omega)]
        simp

/-- The year is one that the calendar covers, and the fraction is below a second, or below two in the last
second of a minute. -/
def IsProper (t : Instant) : Prop :=
  yearInRange (civilDate (t.seconds.fdiv 86400)).1 ∧
    (t.nanos < 1000000000 ∨ t.nanos < 2000000000 ∧ t.seconds % 60 = 59)

theorem ofParts?_of_day {year : Int} {month day time nanos leap : Nat} {number : Int}
    (date : civilDate number = (year, month, day)) (covered : yearInRange year) (short : time < 86400)
    (leaps : leap = 0 ∨ leap = 1 ∧ time % 60 = 59) :
    ofParts? year month day (time / 3600) (time / 60 % 60) (time % 60 + leap) nanos 0 =
      some ⟨number * 86400 + time, nanos + leap * 1000000000⟩ := by
  obtain ⟨same, month1, month12, day1, dayLast⟩ := civilDate_spec date
  have hour : time / 3600 ≤ 23 := by omega
  have minute : time / 60 % 60 ≤ 59 := by omega
  have second : time % 60 + leap ≤ 60 := by omega
  have sixty : (if time % 60 + leap = 60 then 1 else 0) = leap := by split <;> omega
  have seconds : number * 86400 + (((time / 3600 : Nat) : Int) * 3600 +
      ((time / 60 % 60 : Nat) : Int) * 60 + ((time % 60 + leap - leap : Nat) : Int)) - 0 =
        number * 86400 + time := by omega
  have back : (number * 86400 + (time : Int)).fdiv 86400 = number := by
    rw [Int.fdiv_eq_ediv_of_nonneg _ (by decide)]
    omega
  unfold ofParts?
  rw [if_pos ⟨covered, month1, month12, day1, dayLast, hour, minute, second, by decide⟩]
  dsimp only
  rw [sixty, same, seconds, back, date, if_pos covered]

theorem stops_fractionText (n : Nat) : Stops (fractionText n ++ ['Z']) := by
  unfold fractionText
  split
  · exact stops_cons (by decide) []
  · split
    · exact stops_cons (by decide) _
    · split <;> exact stops_cons (by decide) _

theorem read?_of_parts {s : String} {year offset : Int} {month day hour minute second nanos : Nat}
    {r₁ r₂ r₃ r₄ r₅ r₆ r₇ r₈ r₉ r₁₀ r₁₁ r₁₂ : List Char}
    (hyear : year? s.toList = some (year, r₁)) (m₁ : mark? '-' r₁ = some r₂)
    (hmonth : item? 2 r₂ = some (month, r₃)) (m₂ : mark? '-' r₃ = some r₄)
    (hday : item? 2 r₄ = some (day, 'T' :: r₅)) (hhour : item? 2 r₅ = some (hour, r₆))
    (m₃ : mark? ':' r₆ = some r₇) (hminute : item? 2 r₇ = some (minute, r₈))
    (m₄ : mark? ':' r₈ = some r₉) (hsecond : item? 2 r₉ = some (second, r₁₀))
    (hnanos : fraction? r₁₀ = some (nanos, r₁₁)) (hzone : zone? r₁₁ = some (offset, r₁₂))
    (done : Text.trimStart r₁₂ = []) :
    read? s = ofParts? year month day hour minute second nanos offset := by
  -- One part at a time: what follows the separator stands under a binder, where no part is known yet.
  unfold read?
  rw [hyear]
  show (mark? '-' r₁).bind _ = _
  rw [m₁]
  show (item? 2 r₂).bind _ = _
  rw [hmonth]
  show (mark? '-' r₃).bind _ = _
  rw [m₂]
  show (item? 2 r₄).bind _ = _
  rw [hday]
  show (item? 2 r₅).bind _ = _
  rw [hhour]
  show (mark? ':' r₆).bind _ = _
  rw [m₃]
  show (item? 2 r₇).bind _ = _
  rw [hminute]
  show (mark? ':' r₈).bind _ = _
  rw [m₄]
  show (item? 2 r₉).bind _ = _
  rw [hsecond]
  show (fraction? r₁₀).bind _ = _
  rw [hnanos]
  show (zone? r₁₁).bind _ = _
  rw [hzone]
  show (if (Text.trimStart r₁₂).isEmpty then _ else none) = _
  rw [done]
  rfl

/-- The instant is what its text is read as. -/
def ReadsBack (t : Instant) : Prop := read? t.text = some t

theorem IsProper.readsBack {t : Instant} (h : t.IsProper) : t.ReadsBack := by
  obtain ⟨seconds, nanos⟩ := t
  obtain ⟨covered, fraction⟩ := h
  dsimp only at covered fraction
  obtain ⟨number, time, parts, short⟩ : ∃ (number : Int) (time : Nat),
      seconds = number * 86400 + time ∧ time < 86400 := by
    refine ⟨seconds / 86400, (seconds % 86400).toNat, ?_, ?_⟩ <;> omega
  have sameDay : seconds.fdiv 86400 = number := by
    rw [Int.fdiv_eq_ediv_of_nonneg _ (by decide)]
    omega
  have sameTime : (seconds - number * 86400).toNat = time := by omega
  rw [sameDay] at covered
  obtain ⟨year, month, day, date⟩ : ∃ year month day, civilDate number = (year, month, day) :=
    ⟨_, _, _, rfl⟩
  rw [date] at covered
  obtain ⟨_, _, month12, _, dayLast⟩ := civilDate_spec date
  have day31 : day ≤ 31 := by
    refine dayLast.trans ?_
    unfold daysIn
    split <;> try split
    all_goals decide
  let rest := fractionText (nanos % 1000000000) ++ ['Z']
  have written : (text ⟨seconds, nanos⟩).toList =
      yearText year ++ '-' :: (padded 2 month ++ '-' :: (padded 2 day ++ 'T' ::
        (padded 2 (time / 3600) ++ ':' :: (padded 2 (time / 60 % 60) ++ ':' ::
          (padded 2 (time % 60 + nanos / 1000000000) ++ rest))))) := by
    simp [text, clockText, sameDay, sameTime, date, rest]
  have whole : (nanos % 1000000000) + nanos / 1000000000 * 1000000000 = nanos := by omega
  unfold ReadsBack
  refine (read?_of_parts (written ▸ year?_yearText year _) (mark?_cons (by decide) _)
    (item?_padded (by omega) (stops_cons (by decide) _)) (mark?_cons (by decide) _)
    (item?_padded (by omega) (stops_cons (by decide) _))
    (item?_padded (by omega) (stops_cons (by decide) _)) (mark?_cons (by decide) _)
    (item?_padded (by omega) (stops_cons (by decide) _)) (mark?_cons (by decide) _)
    (item?_padded (by omega) (stops_fractionText _)) (fraction?_fractionText (by omega))
    rfl rfl).trans ?_
  rw [ofParts?_of_day date covered short (by omega), whole, parts]

theorem number?_lt {s r : List Char} (h : number? most s = some (n, r)) :
    s.length - r.length ≤ most ∧ n < 10 ^ (s.length - r.length) := by
  unfold number? at h
  dsimp only at h
  split at h
  · cases h
  · cases h
    have short := List.length_take_le most (s.takeWhile Char.isDigit)
    have inside : ((s.takeWhile Char.isDigit).take most).length ≤ s.length :=
      (List.length_take_le' ..).trans (List.takeWhile_prefix _).length_le
    have taken : s.length - (s.drop ((s.takeWhile Char.isDigit).take most).length).length =
        ((s.takeWhile Char.isDigit).take most).length := by
      rw [List.length_drop]
      omega
    rw [taken]
    exact ⟨short, Number.digitsValue_lt _⟩

theorem fraction?_lt {s r : List Char} {nanos : Nat} (h : fraction? s = some (nanos, r)) :
    nanos < 1000000000 := by
  unfold fraction? at h
  split at h
  · next tail =>
    split at h
    · next n rest read =>
      cases h
      obtain ⟨short, below⟩ := number?_lt read
      calc n * 10 ^ (9 - (tail.length - rest.length))
          < 10 ^ (tail.length - rest.length) * 10 ^ (9 - (tail.length - rest.length)) :=
            Nat.mul_lt_mul_of_pos_right below (Nat.pow_pos (by decide))
        _ = 1000000000 := by rw [← Nat.pow_add, Nat.add_sub_cancel' short]
    · cases h
  · cases h
    decide

theorem offset?_minutes {s r : List Char} {offset : Int} (h : offset? s = some (offset, r)) :
    offset % 60 = 0 := by
  unfold offset? at h
  split at h
  · cases h
    rfl
  · cases h
    rfl
  · split at h
    · split at h
      · split at h
        · cases h
          split <;> omega
        · cases h
      · cases h
    · cases h
  · cases h

theorem zone?_minutes {s r : List Char} {offset : Int} (h : zone? s = some (offset, r)) :
    offset % 60 = 0 := by
  unfold zone? at h
  dsimp only at h
  split at h
  · cases h
    rfl
  · exact offset?_minutes h

theorem isProper_of_ofParts? {year offset : Int} {month day hour minute second nanos : Nat} {t : Instant}
    (h : ofParts? year month day hour minute second nanos offset = some t)
    (fraction : nanos < 1000000000) (minutes : offset % 60 = 0) : t.IsProper := by
  unfold ofParts? at h
  split at h
  · next inRange =>
    generalize hleap : (if second = 60 then 1 else 0) = leap at h
    dsimp only at h
    split at h
    · next covered =>
      cases h
      refine ⟨covered, ?_⟩
      dsimp only
      by_cases last : second = 60
      · rw [if_pos last] at hleap
        omega
      · rw [if_neg last] at hleap
        omega
    · cases h
  · cases h

/-- Whatever text an instant is read from, its own text is read as the same one. -/
theorem readsBack_of_read? {s : String} {t : Instant} (h : read? s = some t) : t.ReadsBack := by
  unfold read? at h
  obtain ⟨⟨_, _⟩, _, h⟩ := Option.bind_eq_some_iff.1 h
  obtain ⟨_, _, h⟩ := Option.bind_eq_some_iff.1 h
  obtain ⟨⟨_, _⟩, _, h⟩ := Option.bind_eq_some_iff.1 h
  obtain ⟨_, _, h⟩ := Option.bind_eq_some_iff.1 h
  obtain ⟨⟨_, _⟩, _, h⟩ := Option.bind_eq_some_iff.1 h
  dsimp only at h
  -- The date and the time of day stand apart.
  split at h
  · split at h
    · obtain ⟨_, _, h⟩ := Option.bind_eq_some_iff.1 h
      obtain ⟨⟨_, _⟩, _, h⟩ := Option.bind_eq_some_iff.1 h
      obtain ⟨_, _, h⟩ := Option.bind_eq_some_iff.1 h
      obtain ⟨⟨_, _⟩, _, h⟩ := Option.bind_eq_some_iff.1 h
      obtain ⟨_, _, h⟩ := Option.bind_eq_some_iff.1 h
      obtain ⟨⟨_, _⟩, _, h⟩ := Option.bind_eq_some_iff.1 h
      obtain ⟨⟨nanos, _⟩, hnanos, h⟩ := Option.bind_eq_some_iff.1 h
      obtain ⟨⟨offset, _⟩, hzone, h⟩ := Option.bind_eq_some_iff.1 h
      dsimp only at h
      split at h
      · exact (isProper_of_ofParts? h (fraction?_lt hnanos) (zone?_minutes hzone)).readsBack
      · cases h
    · cases h
  · cases h

end Instant
end Registrar
