import EdgeSensor.Py.Datetime
import EdgeSensor.Sensor.ExternalSource

/-!
# The year of a Snort alert (`snort_source.py`)

Snort writes `MM/DD-HH:MM:SS.ffffff`. `parse_snort_timestamp` takes the year off the clock, so an
alert that is read in the year it was raised in keeps its time, to the second. One that is read
past midnight of the thirty-first of December is dated a year late (`parseSnortTimestamp_slashed`):
two times a day apart are in one year, or on the last day of one and the first of the next
(`new_year`).

Mirroring notes:
- A clock is read in whole seconds by `utc_now_iso`, and its year as `str` writes it: `%Y` takes
  four digits, so before the year 1000 nothing is parsed.
-/

namespace EdgeSensor.Sensor

open EdgeSensor.Lib EdgeSensor.Py

/-- A text of ASCII characters. -/
def asString (s : PyStr) : String := String.ofList (s.map Char.ofNat)

theorem lit_asString {s : PyStr} (h : ∀ c ∈ s, c < 128) : lit (asString s) = s := by
  rw [lit, asString, String.toList_ofList, List.map_map]
  refine (List.map_congr_left fun c hc => ?_).trans (List.map_id s)
  have hvalid : c.isValidChar := .inl (Nat.lt_trans (h c hc) (by decide))
  show (Char.ofNat c).toNat = c
  rw [Char.ofNat, dif_pos hvalid]
  rfl

theorem isoformat_ascii (t : DateTime) : ∀ c ∈ t.isoformat, c < 128 := by
  have hdigits : ∀ width n, ∀ c ∈ digits width n, c < 128 := fun width n c hc => by
    have hdigit := mem_digits hc
    omega
  unfold DateTime.isoformat
  simp only [List.forall_mem_append]
  exact ⟨⟨⟨⟨⟨⟨⟨⟨⟨⟨⟨hdigits 4 _, by decide⟩, hdigits 2 _⟩, by decide⟩, hdigits 2 _⟩, by decide⟩,
    hdigits 2 _⟩, by decide⟩, hdigits 2 _⟩, by decide⟩, hdigits 2 _⟩, by decide⟩

theorem strptimeSlashed_encodable (tables : UnicodeTables) (s iso : PyStr)
    (h : (strptimeSlashed tables s).map DateTime.isoformat = some iso) :
    PyStr.encodable iso = true := by
  obtain ⟨t, -, rfl⟩ := Option.map_eq_some_iff.mp h
  refine List.all_eq_true.mpr fun c hc => ?_
  have hascii := isoformat_ascii t c hc
  rw [isSurrogate, Bool.not_eq_true', Bool.and_eq_false_iff]
  exact .inl (decide_eq_false (by omega))

/-- The text functions, `strptime` being Python's own. -/
def EngineText.withStrptime (text : EngineText) (tables : UnicodeTables) : EngineText :=
  { text with
    strptime := fun s => (strptimeSlashed tables s).map DateTime.isoformat
    strptime_encodable := strptimeSlashed_encodable tables }

theorem EngineText.withStrptime_strptime (text : EngineText) (tables : UnicodeTables) (s : PyStr) :
    (text.withStrptime tables).strptime s = (strptimeSlashed tables s).map DateTime.isoformat := rfl

/-- What is read off the clock at a time. -/
def EngineClock.at (p : DateTime) : EngineClock where
  day := asString (digits 4 p.year ++ digits 2 p.month ++ digits 2 p.day)
  now := asString p.isoformat
  year := p.year

theorem EngineClock.at_year (p : DateTime) : (EngineClock.at p).year = p.year := rfl

/-! ## The text -/

theorem containsT_slashed (t : DateTime) : containsT (.str t.slashed) = some false := by
  have hdigits : ∀ width n, 84 ∉ digits width n := fun width n hmem => by
    have hdigit := mem_digits hmem
    omega
  unfold containsT DateTime.slashed
  rw [Option.some_inj, List.contains_eq_mem, decide_eq_false_iff_not]
  simp [hdigits]

theorem truthy_slashed (t : DateTime) : (Value.str t.slashed).truthy = true := by
  rw [DateTime.slashed, digits_two (Nat.lt_of_le_of_lt t.month_le (by decide))]
  rfl

/-- What is made of the text of a time. -/
theorem parseSnortTimestamp_eq (text : EngineText) (tables : UnicodeTables) (t p : DateTime) :
    parseSnortTimestamp (text.withStrptime tables) (.at p) (.str t.slashed)
      = .ok (.str (((strptimeSlashed tables (lit (toString p.year) ++ 47 :: t.slashed)).map
          DateTime.isoformat).getD p.isoformat)) := by
  have hnow : lit (EngineClock.at p).now = p.isoformat := lit_asString (isoformat_ascii p)
  have htext : lit (toString p.year) ++ 47 :: t.slashed
      = lit (toString p.year) ++ lit "/" ++ t.slashed := (List.append_assoc _ (lit "/") _).symm
  unfold parseSnortTimestamp
  rw [truthy_slashed, containsT_slashed, hnow, htext, if_neg (by decide)]
  dsimp only
  rw [EngineText.withStrptime_strptime, EngineClock.at_year, toStr]

/-- A time in a year of four digits, that has the day. -/
theorem parseSnortTimestamp_of_year (text : EngineText) (tables : UnicodeTables) {t p : DateTime}
    (hyear : 1000 ≤ p.year) (hday : t.day ≤ daysInMonth p.year t.month) :
    parseSnortTimestamp (text.withStrptime tables) (.at p) (.str t.slashed)
      = .ok (.str (t.inYear p.year p.year_pos p.year_le hday).isoformat) := by
  have hlt : p.year < 10000 := Nat.lt_succ_of_le p.year_le
  have htext : lit (toString p.year) = digits (3 + 1) p.year := lit_toString hlt hyear
  rw [parseSnortTimestamp_eq, htext, strptimeSlashed_eq t hlt, t.make_eq p.year_pos p.year_le hday,
    Option.map_some, Option.getD_some]

theorem parseSnortTimestamp_short_year (text : EngineText) (tables : UnicodeTables)
    (t : DateTime) {p : DateTime} (hyear : p.year < 1000) :
    parseSnortTimestamp (text.withStrptime tables) (.at p) (.str t.slashed)
      = .ok (.str p.isoformat) := by
  rw [parseSnortTimestamp_eq, strptimeSlashed_short_year hyear]
  rfl

/-! ## The two times -/

/-- The date of a time of the day before is the same or the one before. -/
theorem ordinal_of_micros {t p : DateTime} (hle : t.micros ≤ p.micros)
    (hday : p.micros ≤ t.micros + dayMicros) : t.ordinal ≤ p.ordinal ∧ p.ordinal ≤ t.ordinal + 1 := by
  have htime : ∀ t : DateTime, t.ordinal * dayMicros ≤ t.micros
      ∧ t.micros < t.ordinal * dayMicros + dayMicros := by
    intro t
    have hhour := t.hour_lt
    have hminute := t.minute_lt
    have hsecond := t.second_lt
    have hmicro := t.microsecond_lt
    unfold DateTime.micros dayMicros
    omega
  have hpos : 0 < dayMicros := by decide
  obtain ⟨ht, ht'⟩ := htime t
  obtain ⟨hp, hp'⟩ := htime p
  constructor
  · refine Nat.le_of_lt_succ (Nat.lt_of_mul_lt_mul_right (a := dayMicros) ?_)
    rw [Nat.succ_mul]
    omega
  · refine Nat.le_of_lt_succ (Nat.lt_of_mul_lt_mul_right (a := dayMicros) ?_)
    rw [Nat.succ_mul, Nat.add_mul, Nat.one_mul]
    omega

/-- **The year of an alert.** Read within a day, an alert keeps its time to the second if that is
in the same year; if not, its day is the last of a year and it is read on the first of the next,
and it gets the time it would have at the end of that year. -/
theorem parseSnortTimestamp_slashed (text : EngineText) (tables : UnicodeTables) (t p : DateTime)
    (hle : t.micros ≤ p.micros) (hday : p.micros ≤ t.micros + dayMicros) :
    (1000 ≤ p.year → p.year = t.year →
      parseSnortTimestamp (text.withStrptime tables) (.at p) (.str t.slashed)
        = .ok (.str t.isoformat))
    ∧ (1000 ≤ p.year → p.year ≠ t.year →
      t.IsLast ∧ p.IsFirst ∧ ∃ late : DateTime, late.year = p.year ∧ late.month = t.month
        ∧ late.day = t.day ∧ late.hour = t.hour ∧ late.minute = t.minute ∧ late.second = t.second
        ∧ parseSnortTimestamp (text.withStrptime tables) (.at p) (.str t.slashed)
          = .ok (.str late.isoformat))
    ∧ (p.year < 1000 →
      parseSnortTimestamp (text.withStrptime tables) (.at p) (.str t.slashed)
        = .ok (.str p.isoformat)) := by
  refine ⟨fun hfour hsame => ?_, fun hfour hne => ?_, ?_⟩
  · have hvalid : t.day ≤ daysInMonth p.year t.month := by
      rw [hsame]
      exact t.day_le
    rw [parseSnortTimestamp_of_year text tables hfour hvalid, DateTime.inYear_self _ _ _ hsame]
  · obtain ⟨hord, hord'⟩ := ordinal_of_micros hle hday
    obtain ⟨hlast, hfirst⟩ := CalendarDate.new_year hord hord' fun heq => hne heq.symm
    have hvalid : t.day ≤ daysInMonth p.year t.month := by
      rw [hlast.1, hlast.2]
      exact Nat.le_refl 31
    exact ⟨hlast, hfirst, t.inYear p.year p.year_pos p.year_le hvalid, rfl, rfl, rfl, rfl, rfl, rfl,
      parseSnortTimestamp_of_year text tables hfour hvalid⟩
  · exact fun hshort => parseSnortTimestamp_short_year text tables t hshort

theorem none_encodable (_ t : PyStr) (h : (none : Option PyStr) = some t) :
    PyStr.encodable t = true := by
  cases h

/-- The text functions of an alert without numbers. -/
def bareText : EngineText where
  decode _ := []
  loads _ := .error none
  repr _ := []
  lower s := s
  readInt _ := none
  fromIso _ := none
  strptime _ := none
  maxDepth := 900
  repr_encodable _ := rfl
  lower_encodable _ h := h
  fromIso_encodable := none_encodable
  strptime_encodable := none_encodable

/-- No digits but those of ASCII. -/
def asciiTables : UnicodeTables := ⟨fun _ => none, fun _ => false⟩

/-- Noon of a day, and so many seconds. -/
def noonOf (year month day second : Nat) (hyear : 1 ≤ year ∧ year ≤ 9999 := by decide)
    (hmonth : 1 ≤ month ∧ month ≤ 12 := by decide)
    (hday : 1 ≤ day ∧ day ≤ daysInMonth year month := by decide) (hsecond : second < 60 := by decide) :
    DateTime where
  year := year
  month := month
  day := day
  hour := 12
  minute := 0
  second := second
  microsecond := 0
  year_pos := hyear.1
  year_le := hyear.2
  month_pos := hmonth.1
  month_le := hmonth.2
  day_pos := hday.1
  day_le := hday.2
  hour_lt := by decide
  minute_lt := by decide
  second_lt := hsecond
  microsecond_lt := by decide

/-- An alert of the eighteenth of June, read a second later. -/
theorem parseSnortTimestamp_slashed_june :
    parseSnortTimestamp (bareText.withStrptime asciiTables) (.at (noonOf 2026 6 18 31))
      (.str (noonOf 2026 6 18 30).slashed) = .ok (.str (noonOf 2026 6 18 30).isoformat) :=
  (parseSnortTimestamp_slashed bareText asciiTables (noonOf 2026 6 18 30) (noonOf 2026 6 18 31)
    (by decide) (by decide)).1 (by decide) rfl

/-- An alert of the last of December that is read on the first of January gets another time, and one
of the year 999 that of its reading. -/
theorem new_year_loses_year :
    (¬ ∀ (text : EngineText) (tables : UnicodeTables) (t p : DateTime),
      t.micros ≤ p.micros → p.micros ≤ t.micros + dayMicros →
      parseSnortTimestamp (text.withStrptime tables) (.at p) (.str t.slashed)
        = .ok (.str t.isoformat))
    ∧ ¬ ∀ (text : EngineText) (tables : UnicodeTables) (t p : DateTime),
      t.micros ≤ p.micros → p.micros ≤ t.micros + dayMicros → p.year = t.year →
      parseSnortTimestamp (text.withStrptime tables) (.at p) (.str t.slashed)
        = .ok (.str t.isoformat) := by
  constructor
  · intro hclaim
    have hkept := hclaim bareText asciiTables (noonOf 2025 12 31 0) (noonOf 2026 1 1 0) (by decide)
      (by decide)
    rw [parseSnortTimestamp_of_year bareText asciiTables (by decide) (by decide)] at hkept
    have hiso := Value.str.inj (Except.ok.inj hkept)
    exact absurd hiso (by decide)
  · intro hclaim
    have hkept := hclaim bareText asciiTables (noonOf 999 6 18 0) (noonOf 999 6 18 1) (by decide)
      (by decide) rfl
    rw [parseSnortTimestamp_short_year bareText asciiTables _ (by decide)] at hkept
    have hiso := Value.str.inj (Except.ok.inj hkept)
    exact absurd hiso (by decide)

end EdgeSensor.Sensor
