import NodeTuning.Proofs.Text.Digits
import NodeTuning.Time.Rfc3339

/-!
Instants are read back from their texts. Main statements: the reader gives the very instant that
was written, if its year is one of the calendar and a leap second stands only at the end of a
minute, and it gives only such instants.
-/
namespace NodeTuning.Timestamp
open NodeTuning.Text
variable {digits rest : List Char} {most n : Nat}

/-- An instant that a text can stand for. -/
structure Exact (time : Timestamp) : Prop where
  year : inCalendar time.date.year = true
  leap : 1000000000 ≤ time.nano → time.second % 60 = 59

theorem trimStart_append {front : List Char} (filled : front ≠ [])
    (inked : ∀ c ∈ front, isBlank c = false) : trimStart (front ++ rest) = front ++ rest := by
  apply trimStart_of_first
  intro c more same
  cases front with
  | nil => exact absurd rfl filled
  | cons first later =>
    cases same
    exact inked _ List.mem_cons_self

theorem trimStart_digits (filled : digits ≠ []) (numeric : ∀ c ∈ digits, c.isDigit = true) :
    trimStart (digits ++ rest) = digits ++ rest :=
  trimStart_append filled fun c member => not_blank_of_isDigit (numeric c member)

theorem takeWhile_take_eq_nil (ends : most = 0 ∨ ∀ c, rest.head? = some c → c.isDigit = false) :
    (rest.take most).takeWhile Char.isDigit = [] := by
  rcases ends with none | stops
  · simp [none]
  · cases rest with
    | nil => simp
    | cons c later =>
      cases most with
      | zero => rfl
      | succ more => simp [stops c rfl]

/-- Digits are read up to the limit or to what is no digit. -/
theorem digitsUpTo_append (filled : digits ≠ []) (numeric : ∀ c ∈ digits, c.isDigit = true)
    (fits : digits.length ≤ most)
    (ends : digits.length = most ∨ ∀ c, rest.head? = some c → c.isDigit = false) :
    digitsUpTo most (digits ++ rest) = some (Nat.ofDigitChars 10 digits 0, rest) := by
  have taken : ((digits ++ rest).take most).takeWhile Char.isDigit = digits := by
    rw [List.take_append, List.take_of_length_le fits, List.takeWhile_append_of_pos numeric,
      takeWhile_take_eq_nil (ends.imp_left fun full => by omega), List.append_nil]
  simp [digitsUpTo, taken, filled]

theorem digitsUpTo_padded {width : Nat} (positive : 0 < width) (fits : n < 10 ^ width) :
    digitsUpTo width (padded width n ++ rest) = some (n, rest) := by
  rw [digitsUpTo_append (padded_ne_nil positive) (fun _ => isDigit_of_mem_padded)
    (by simp) (.inl (by simp)), ofDigitChars_padded fits]

theorem numberUpTo_padded (fits : n < 100) :
    numberUpTo 2 (padded 2 n ++ rest) = some (n, rest) := by
  rw [numberUpTo, trimStart_digits (padded_ne_nil (by decide)) fun _ => isDigit_of_mem_padded]
  exact digitsUpTo_padded (by decide) fits

theorem mark_padded {c : Char} (inked : isBlank c = false) {width : Nat} (positive : 0 < width) :
    mark c (c :: (padded width n ++ rest)) = some (padded width n ++ rest) := by
  have start : trimStart (c :: (padded width n ++ rest)) = c :: (padded width n ++ rest) := by
    simp [trimStart, inked]
  have later : trimStart (padded width n ++ rest) = padded width n ++ rest :=
    trimStart_digits (padded_ne_nil positive) fun _ => isDigit_of_mem_padded
  simp [mark, start, later]

theorem yearNumber_of_digit {c : Char} (digit : c.isDigit = true) :
    yearNumber (c :: rest) =
      (digitsUpTo 4 (c :: rest)).map fun read => ((read.1 : Int), read.2) := by
  have start : trimStart (c :: rest) = c :: rest := by
    simp [trimStart, not_blank_of_isDigit digit]
  unfold yearNumber
  rw [start]
  split
  · rename_i same
    cases same
    exact absurd digit (by decide)
  · rename_i same
    cases same
    exact absurd digit (by decide)
  · rfl

theorem digitsUpTo_zeros_decimal (zeros size : Nat) (rest : List Char) :
    let written := List.replicate zeros '0' ++ decimal size ++ '-' :: rest
    digitsUpTo written.length written = some (size, '-' :: rest) := by
  have numeric : ∀ c ∈ List.replicate zeros '0' ++ decimal size, c.isDigit = true := by
    intro c member
    rcases List.mem_append.1 member with zero | digit
    · rw [List.eq_of_mem_replicate zero]
      decide
    · exact isDigit_of_mem_decimal digit
  have value : Nat.ofDigitChars 10 (List.replicate zeros '0' ++ decimal size) 0 = size := by
    rw [Nat.ofDigitChars_append, Nat.ofDigitChars_replicate_zero]
    simp [decimal]
  have filled : List.replicate zeros '0' ++ decimal size ≠ [] := by
    simp [decimal, Nat.toDigits_ne_nil]
  intro written
  have fits : (List.replicate zeros '0' ++ decimal size).length ≤ written.length := by
    simp [written]
  rw [digitsUpTo_append filled numeric fits (.inr fun c first => ?_), value]
  cases first
  decide

theorem yearNumber_yearText (year : Int) :
    yearNumber (yearText year ++ '-' :: rest) = some (year, '-' :: rest) := by
  unfold yearText
  split
  · rename_i ordinary
    have fits : year.toNat < 10 ^ 4 := by omega
    have size := length_padded 4 year.toNat
    rcases digits : padded 4 year.toNat with _ | ⟨c, more⟩
    · simp [digits] at size
    · have digit : c.isDigit = true :=
        isDigit_of_mem_padded (digits ▸ List.mem_cons_self : c ∈ padded 4 year.toNat)
      rw [List.cons_append, yearNumber_of_digit digit, ← List.cons_append, ← digits,
        digitsUpTo_padded (by decide) fits, Option.map_some, Int.toNat_of_nonneg ordinary.1]
  · rename_i far
    have read := digitsUpTo_zeros_decimal (4 - (decimal year.natAbs).length) year.natAbs rest
    dsimp only at read ⊢
    split
    · change (digitsUpTo _ _).map (fun read => (-(read.1 : Int), read.2)) = _
      refine (congrArg _ read).trans ?_
      rw [Option.map_some, show -(year.natAbs : Int) = year by omega]
    · change (digitsUpTo _ _).map (fun read => ((read.1 : Int), read.2)) = _
      refine (congrArg _ read).trans ?_
      rw [Option.map_some, show (year.natAbs : Int) = year by omega]

theorem dateAndRest_written (date : Date) (known : inCalendar date.year = true) :
    dateAndRest (yearText date.year ++ '-' :: (padded 2 date.month ++ '-' ::
      (padded 2 date.day ++ rest))) = some (date, rest) := by
  have months := date.month_range
  have days := date.day_range
  have shortest : daysInMonth date.year date.month ≤ 31 := by
    unfold daysInMonth
    split
    · split <;> decide
    · split <;> decide
  have month : date.month < 100 := by omega
  have day : date.day < 100 := by omega
  have same : Date.of? date.year date.month date.day = some date := by
    simp [Date.of?, months, days]
  simp [dateAndRest, yearNumber_yearText, mark_padded, numberUpTo_padded month,
    numberUpTo_padded day, known, same, show isBlank '-' = false by decide]

theorem fraction_point {width unit : Nat} (positive : 0 < width) (most : width ≤ 9)
    (scaled : unit = 10 ^ (9 - width)) (exact : n % unit = 0) (fits : n < 1000000000) :
    fraction ('.' :: (padded width (n / unit) ++ ['Z'])) = some (n, ['Z']) := by
  have numeric : ∀ c ∈ padded width (n / unit), c.isDigit = true :=
    fun _ => isDigit_of_mem_padded
  have digits : (padded width (n / unit) ++ ['Z']).takeWhile Char.isDigit =
      padded width (n / unit) := by
    rw [List.takeWhile_append_of_pos numeric]
    simp
  have left : (padded width (n / unit) ++ ['Z']).dropWhile Char.isDigit = ['Z'] := by
    rw [List.dropWhile_append_of_pos numeric]
    simp
  have kept : (padded width (n / unit)).take 9 = padded width (n / unit) :=
    List.take_of_length_le (by simpa using most)
  have whole : 10 ^ width * unit = 1000000000 := by
    rw [scaled, ← Nat.pow_add, Nat.add_sub_cancel' most]
  have small : n / unit < 10 ^ width := Nat.div_lt_of_lt_mul (by rwa [Nat.mul_comm, whole])
  have value : n / unit * unit = n := Nat.div_mul_cancel (Nat.dvd_of_mod_eq_zero exact)
  simp only [fraction, digits, left, kept, ofDigitChars_padded small, length_padded]
  rw [if_neg (by simp [padded_ne_nil positive]),
    show Nat.pow 10 (9 - width) = unit from scaled.symm, value]

theorem fraction_fractionText (fits : n < 1000000000) :
    fraction (fractionText n ++ ['Z']) = some (n, ['Z']) := by
  unfold fractionText
  split
  · rename_i zero
    simp [fraction, zero]
  · split
    · rename_i milli
      exact fraction_point (by decide) (by decide) (by decide) milli fits
    · split
      · rename_i micro
        exact fraction_point (by decide) (by decide) (by decide) micro fits
      · have all := fraction_point (show 0 < 9 by decide) (by decide) (show 1 = _ by decide)
          (Nat.mod_one n) fits
        rwa [Nat.div_one] at all

theorem clockAndRest_written {time : Timestamp}
    (leap : 1000000000 ≤ time.nano → time.second % 60 = 59) :
    clockAndRest (clockText time ++ (fractionText (time.nano % 1000000000) ++ ['Z'])) =
      some (time.second, time.nano, ['Z']) := by
  have seconds := time.second_lt
  have nanos := time.nano_lt
  have hour : time.second / 3600 < 100 := by omega
  have minute : time.second / 60 % 60 < 100 := by omega
  have second : time.second % 60 + time.nano / 1000000000 < 100 := by omega
  have part := fraction_fractionText (Nat.mod_lt time.nano (by decide : 0 < 1000000000))
  have colon : isBlank ':' = false := by decide
  simp only [clockText, clockAndRest, List.append_assoc, List.cons_append,
    numberUpTo_padded hour, numberUpTo_padded minute, numberUpTo_padded second,
    mark_padded colon (show 0 < 2 by decide), part, Option.bind_eq_bind,
    Option.bind_some]
  rw [if_neg (by omega)]
  have ended : trimStart ['Z'] = ['Z'] := rfl
  split
  · rename_i leaping
    have second : time.second / 3600 * 3600 + time.second / 60 % 60 * 60 + 59 = time.second := by
      omega
    have nano : time.nano % 1000000000 + 1000000000 = time.nano := by omega
    rw [second, nano, ended]
  · rename_i plain
    have ordinary : time.nano < 1000000000 := by
      by_contra late
      have last := leap (by omega)
      omega
    have second : time.second / 3600 * 3600 + time.second / 60 % 60 * 60 +
        (time.second % 60 + time.nano / 1000000000) = time.second := by omega
    rw [second, Nat.mod_eq_of_lt ordinary, ended]

theorem text_eq (time : Timestamp) : time.text.toList =
    yearText time.date.year ++ '-' :: (padded 2 time.date.month ++ '-' ::
      (padded 2 time.date.day ++ 'T' :: (clockText time ++
        (fractionText (time.nano % 1000000000) ++ ['Z'])))) := by
  simp [text, assemble]

theorem read?_text {time : Timestamp} (exact : time.Exact) : read? time.text = some time := by
  have moment : ofLocal? time.date time.second time.nano 0 = some time := by
    have seconds := time.second_lt
    have nanos := time.nano_lt
    have rest : (time.second : Int) % 86400 = time.second := by omega
    have today : ¬ (time.second : Int) < 0 := by omega
    have before : ¬ 86400 ≤ (time.second : Int) := by omega
    simp [ofLocal?, rest, seconds, nanos, today, before]
  have zone : offset ['Z'] = some (0, []) := by decide
  have separator : ∀ rest, afterSeparator ('T' :: rest) = some rest := fun _ => rfl
  have inside : ((trimStart []).isEmpty && decide ((-86400 : Int) < 0) &&
      decide ((0 : Int) < 86400)) = true := by decide
  simp only [read?, text_eq, dateAndRest_written _ exact.year, separator,
    clockAndRest_written exact.leap, zone, moment, Option.bind_eq_bind, Option.bind_some, inside,
    if_true, Option.filter_some, exact.year]

theorem fraction_lt {input : List Char} (read : fraction input = some (n, rest)) :
    n < 1000000000 := by
  unfold fraction at read
  split at read
  · rename_i later
    simp only at read
    split at read
    · cases read
    · cases read
      have numeric : ∀ c ∈ (later.takeWhile Char.isDigit).take 9, c.isDigit = true :=
        fun c member => List.mem_takeWhile_imp (List.mem_of_mem_take member)
      have size : ((later.takeWhile Char.isDigit).take 9).length ≤ 9 := List.length_take_le 9 _
      generalize (later.takeWhile Char.isDigit).take 9 = kept at numeric size ⊢
      calc Nat.ofDigitChars 10 kept 0 * 10 ^ (9 - kept.length)
          < 10 ^ kept.length * 10 ^ (9 - kept.length) :=
            Nat.mul_lt_mul_of_pos_right (ofDigitChars_lt numeric) (Nat.pow_pos (by decide))
        _ = 1000000000 := by rw [← Nat.pow_add, Nat.add_sub_cancel' size]
  · cases read
    decide

/-- Offsets are whole minutes. -/
theorem offset_whole {input : List Char} {shift : Int} (read : offset input = some (shift, rest)) :
    shift % 60 = 0 := by
  have signed : ∀ {negative later}, signedOffset negative later = some (shift, rest) →
      shift % 60 = 0 := by
    intro negative later found
    simp only [signedOffset, Option.bind_eq_bind, Option.bind_eq_some_iff] at found
    obtain ⟨hours, _, minutes, _, found⟩ := found
    split at found
    · cases found
      split <;> omega
    · cases found
  unfold offset at read
  simp only at read
  split at read
  · cases read
    rfl
  · split at read
    · cases read
    · split at read
      · cases read
        rfl
      · split at read
        · exact signed read
        · split at read
          · exact signed read
          · cases read

/-- A leap second is read only at the end of a minute. -/
theorem clockAndRest_leap {input : List Char} {second nano : Nat}
    (read : clockAndRest input = some (second, nano, rest)) (late : 1000000000 ≤ nano) :
    second % 60 = 59 := by
  simp only [clockAndRest, Option.bind_eq_bind, Option.bind_eq_some_iff] at read
  obtain ⟨hour, _, _, _, minute, _, _, _, second, _, part, fractional, read⟩ := read
  have short := fraction_lt fractional
  split at read
  · cases read
  · split at read
    · cases read
      omega
    · cases read
      omega

theorem exact_of_read? {input : String} {time : Timestamp} (read : read? input = some time) :
    time.Exact := by
  simp only [read?, Option.bind_eq_bind, Option.bind_eq_some_iff] at read
  obtain ⟨date, _, _, _, clock, clocked, zone, zoned, read⟩ := read
  have whole := offset_whole zoned
  split at read
  · obtain ⟨moment, known⟩ := Option.filter_eq_some_iff.1 read
    refine ⟨known, fun late => ?_⟩
    simp only [ofLocal?] at moment
    split at moment
    · split at moment
      · cases moment
        have last := clockAndRest_leap clocked late
        dsimp only
        omega
      · cases moment
    · cases moment
  · cases read

end NodeTuning.Timestamp
