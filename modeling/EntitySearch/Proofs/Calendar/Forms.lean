import EntitySearch.Proofs.Calendar.Remainder

/-!
# Date text has one reading

A text is tried as a day, as one of four patterns of a day with a time of day, and as RFC 3339 text.
All of these begin with the items of a day, so the rest behind the day tells the forms apart: a day
leaves nothing, a time of day begins with the letter `T` or else, behind white space, with a digit,
minutes leave nothing or a colon, and the seconds of RFC 3339 text leave a zone.  Hence no two forms
read the same text, the order in which they are tried does not matter, and a time of day has none of
them.
-/

namespace EntitySearch

/-! ## The forms of date text -/

/-- What stands between a day and a time of day. -/
inductive DateSeparator where
  /-- White space of any length, even none. -/
  | blank
  /-- The letter `T`. -/
  | letter
  deriving DecidableEq

/-- The item of a pattern that reads the separator. -/
def DateSeparator.item : DateSeparator → PatternItem
  | blank => .blank
  | letter => .mark 'T'

/-- The forms of the texts that name a day or an instant. -/
inductive DateForm where
  /-- A day. -/
  | day
  /-- A day and a time of day to the second. -/
  | seconds (separator : DateSeparator)
  /-- A day and a time of day to the minute. -/
  | minutes (separator : DateSeparator)
  /-- RFC 3339 text. -/
  | rfc3339
  deriving DecidableEq

namespace DateForm

/-- The day or instant that a text of the form names. -/
def read? : DateForm → List Char → Option DateReading
  | day, text => DateReading.ofDay? text
  | seconds separator, text =>
      DateReading.ofPattern? text (Pattern.day ++ separator.item :: Pattern.seconds)
  | minutes separator, text =>
      DateReading.ofPattern? text (Pattern.day ++ separator.item :: Pattern.minutes)
  | rfc3339, text => (Timestamp.ofRfc3339? text).map .instant

/-- The forms of a day with a time of day, in the order in which a text is tried. -/
def dayTimes : List DateForm :=
  [seconds .blank, seconds .letter, minutes .blank, minutes .letter]

/-- All forms, in the order in which a text is tried. -/
def tried : List DateForm := day :: dayTimes ++ [rfc3339]

theorem mem_tried (form : DateForm) : form ∈ tried := by
  rcases form with _ | ⟨_ | _⟩ | ⟨_ | _⟩ | _ <;> decide

/-- A text names what the first of the forms that reads it names. -/
theorem findSome?_tried (text : String) :
    tried.findSome? (read? · (Text.trim text.toList)) = DateReading.ofText? text := by
  have patterns : dayTimes.findSome? (read? · (Text.trim text.toList)) =
      Pattern.dayTimes.findSome? (DateReading.ofPattern? (Text.trim text.toList)) := rfl
  rw [DateReading.ofText?, ← patterns, tried, List.cons_append, List.findSome?_cons,
    List.findSome?_append, List.findSome?_singleton]
  simp only [Option.orElse_apply, Option.orElse_eq_or, read?]
  cases DateReading.ofDay? (Text.trim text.toList) <;> rfl

/-! ## Telling the forms apart -/

/-- The form of a day with a separator and a time of day, by what minutes and seconds leave of the
text behind the separator. -/
def ofTime? (separator : DateSeparator) (timed : List Char) : Option DateForm :=
  (Pattern.rest? Pattern.minutes timed).bind fun
    | [] => some (minutes separator)
    | behind => (Pattern.rest? [.mark ':', .second] behind).map fun zone =>
        if zone = [] then seconds separator else rfc3339

/-- The only form that can read a text, by what the items of a day leave of it. -/
def ofText? (text : List Char) : Option DateForm :=
  (Pattern.rest? Pattern.day text).bind fun
    | [] => some day
    | 't' :: _ => some rfc3339
    | 'T' :: timed => ofTime? .letter timed
    | timed => ofTime? .blank timed

theorem ofTime?_of_minutes (separator : DateSeparator) {timed : List Char}
    (whole : Pattern.rest? Pattern.minutes timed = some []) :
    ofTime? separator timed = some (minutes separator) := by
  rw [ofTime?, whole, Option.bind_some]

/-- Seconds follow minutes behind a colon. -/
theorem ofTime?_of_seconds (separator : DateSeparator) {timed zone : List Char}
    (left : Pattern.rest? Pattern.seconds timed = some zone) :
    ofTime? separator timed = some (if zone = [] then seconds separator else rfc3339) := by
  rw [Pattern.seconds, Pattern.rest?_append] at left
  obtain ⟨behind, minutes, seconds⟩ := Option.bind_eq_some_iff.mp left
  rw [ofTime?, minutes, Option.bind_some]
  cases behind with
  | nil => cases seconds
  | cons colon second => simp only [seconds, Option.map_some]

/-- What follows a day and its separator is told by the time of day that it begins with. -/
theorem ofText?_of_separator (separator : DateSeparator) {text behind timed left : List Char}
    (day : Pattern.rest? Pattern.day text = some behind)
    (separated : separator.item.rest? behind = some timed)
    (time : Pattern.rest? Pattern.minutes timed = some left) :
    ofText? text = ofTime? separator timed := by
  rw [ofText?, day, Option.bind_some]
  cases separator with
  | letter =>
      obtain rfl := PatternItem.rest?_mark_eq_some_iff.mp separated
      rfl
  | blank =>
      obtain rfl : Text.trimStart behind = timed := Option.some.inj separated
      rw [ofTime?, Pattern.rest?_minutes_trimStart, ← ofTime?]
      rw [Pattern.rest?_minutes_trimStart] at time
      -- neither at the end of the text nor at a letter does a time of day begin
      split
      · cases time
      · cases time
      · cases time
      · rfl

theorem ofText?_of_ofDay? {text : List Char} {reading : DateReading}
    (read : DateReading.ofDay? text = some reading) : ofText? text = some day := by
  obtain ⟨date, named, -⟩ := Option.map_eq_some_iff.mp read
  obtain ⟨parts, whole, -⟩ := Option.bind_eq_some_iff.mp named
  rw [ofText?, Pattern.rest?_of_read? whole, Option.bind_some]

/-- A pattern of a day, a separator and a time of day leaves nothing behind the time of day. -/
theorem exists_rest?_of_ofPattern? {text : List Char} {separator : DateSeparator}
    {time : List PatternItem} {reading : DateReading}
    (read : DateReading.ofPattern? text (Pattern.day ++ separator.item :: time) = some reading) :
    ∃ behind timed, Pattern.rest? Pattern.day text = some behind ∧
      separator.item.rest? behind = some timed ∧ Pattern.rest? time timed = some [] := by
  obtain ⟨timestamp, named, -⟩ := Option.map_eq_some_iff.mp read
  obtain ⟨parts, whole, -⟩ := Option.bind_eq_some_iff.mp named
  have left := Pattern.rest?_of_read? whole
  rw [Pattern.rest?_append] at left
  obtain ⟨behind, day, separated⟩ := Option.bind_eq_some_iff.mp left
  obtain ⟨timed, separator, time⟩ := Option.bind_eq_some_iff.mp separated
  exact ⟨behind, timed, day, separator, time⟩

/-- RFC 3339 text has the small letter, which no pattern reads, or it goes on behind its seconds. -/
theorem ofText?_of_ofRfc3339? {text : List Char} {timestamp : Timestamp}
    (read : Timestamp.ofRfc3339? text = some timestamp) : ofText? text = some rfc3339 := by
  obtain ⟨mark, timed, zone, day, known, seconds, present⟩ :=
    Timestamp.exists_rest?_of_ofRfc3339? read
  obtain ⟨behind, minutes⟩ := Pattern.exists_rest?_minutes seconds
  rcases known with rfl | rfl | rfl
  · rw [ofText?_of_separator .letter day rfl minutes,
      ofTime?_of_seconds _ seconds, if_neg present]
  · rw [ofText?, day]
    rfl
  · have trimmed : PatternItem.blank.rest? (' ' :: timed) = some (Text.trimStart timed) := rfl
    rw [← Pattern.rest?_minutes_trimStart] at minutes
    rw [← Pattern.rest?_seconds_trimStart] at seconds
    rw [ofText?_of_separator .blank day trimmed minutes,
      ofTime?_of_seconds _ seconds, if_neg present]

/-- A form reads only the texts that are told to be of that form. -/
theorem ofText?_of_read? {form : DateForm} {text : List Char} {reading : DateReading}
    (read : form.read? text = some reading) : ofText? text = some form := by
  cases form with
  | day => exact ofText?_of_ofDay? read
  | seconds separator =>
      obtain ⟨behind, timed, day, separated, time⟩ := exists_rest?_of_ofPattern? read
      obtain ⟨colon, minutes⟩ := Pattern.exists_rest?_minutes time
      rw [ofText?_of_separator separator day separated minutes,
        ofTime?_of_seconds separator time, if_pos rfl]
  | minutes separator =>
      obtain ⟨behind, timed, day, separated, time⟩ := exists_rest?_of_ofPattern? read
      rw [ofText?_of_separator separator day separated time, ofTime?_of_minutes separator time]
  | rfc3339 =>
      obtain ⟨timestamp, named, -⟩ := Option.map_eq_some_iff.mp read
      exact ofText?_of_ofRfc3339? named

/-- Different forms read different texts. -/
theorem eq_of_read? {form other : DateForm} {text : List Char} {reading again : DateReading}
    (read : form.read? text = some reading) (readAgain : other.read? text = some again) :
    form = other :=
  Option.some.inj ((ofText?_of_read? read).symm.trans (ofText?_of_read? readAgain))

/-- All forms, in whichever order and however often they are tried, read what some form reads. -/
theorem findSome?_eq_some_iff {order : List DateForm} (complete : ∀ form, form ∈ order)
    {text : List Char} {reading : DateReading} :
    order.findSome? (read? · text) = some reading ↔
      ∃ form : DateForm, form.read? text = some reading := by
  constructor
  · intro found
    obtain ⟨form, -, read⟩ := List.exists_of_findSome?_eq_some found
    exact ⟨form, read⟩
  · rintro ⟨form, read⟩
    have reads : (order.findSome? (read? · text)).isSome :=
      List.findSome?_isSome_iff.mpr ⟨form, complete form, by rw [read]; rfl⟩
    obtain ⟨again, found⟩ := Option.isSome_iff_exists.mp reads
    obtain ⟨other, -, readAgain⟩ := List.exists_of_findSome?_eq_some found
    obtain rfl := eq_of_read? read readAgain
    rw [found, ← readAgain, read]

/-- No form reads a text that begins with a time of day. -/
theorem read?_eq_none_of_minutes {text behind : List Char}
    (left : Pattern.rest? Pattern.minutes text = some behind) (form : DateForm) :
    form.read? text = none := by
  rw [Option.eq_none_iff_forall_ne_some]
  intro reading read
  have told := ofText?_of_read? read
  rw [ofText?, Pattern.rest?_day_of_minutes left] at told
  cases told

end DateForm

/-! ## One reading -/

namespace DateReading

/-- A time of day to the second goes on where one to the minute ends. -/
theorem exists_rest?_of_isTimeOfDay {text : String} (time : isTimeOfDay text = true) :
    ∃ behind, Pattern.rest? Pattern.minutes (Text.trim text.toList) = some behind := by
  obtain ⟨pattern, known, named⟩ := List.any_eq_true.mp time
  obtain ⟨time, ofParts⟩ := Option.isSome_iff_exists.mp named
  obtain ⟨parts, whole, -⟩ := Option.bind_eq_some_iff.mp ofParts
  have left := Pattern.rest?_of_read? whole
  simp only [List.mem_cons, List.not_mem_nil, or_false] at known
  rcases known with rfl | rfl
  · exact Pattern.exists_rest?_minutes left
  · exact ⟨[], left⟩

/-- The text has at most one reading as a day or an instant, and none when it is a time of day.  A
reading holds both the time that is named and whether it is a whole day. -/
structure ReadsOnce (text : String) : Prop where
  /-- At most one form reads the text without the white space around it. -/
  alone : ∀ (form other : DateForm) (reading again : DateReading),
    form.read? (Text.trim text.toList) = some reading →
      other.read? (Text.trim text.toList) = some again → form = other
  /-- In whichever order the forms are tried, the text names the same. -/
  anyOrder : ∀ order : List DateForm, order.Perm DateForm.tried →
    order.findSome? (DateForm.read? · (Text.trim text.toList)) = ofText? text
  /-- A time of day has none of the forms. -/
  notTime : isTimeOfDay text = true →
    ∀ form : DateForm, form.read? (Text.trim text.toList) = none

/-- Every text reads once. -/
theorem readsOnce (text : String) : ReadsOnce text where
  alone _ _ _ _ read readAgain := DateForm.eq_of_read? read readAgain
  anyOrder order reordered := by
    have complete (form : DateForm) : form ∈ order := reordered.mem_iff.mpr form.mem_tried
    rw [← DateForm.findSome?_tried]
    ext reading
    rw [DateForm.findSome?_eq_some_iff complete,
      DateForm.findSome?_eq_some_iff DateForm.mem_tried]
  notTime time form := by
    obtain ⟨behind, left⟩ := exists_rest?_of_isTimeOfDay time
    exact DateForm.read?_eq_none_of_minutes left form

/-- A text of each form.  The blank of a pattern may stand for no white space at all, and RFC 3339
text may have a blank where a pattern has one. -/
def specimen : DateForm → String
  | .day => "\u00a02024-5-6"
  | .seconds .blank => "2024-05-06 07:08:09"
  | .seconds .letter => "2024-05-06T07:08:09"
  | .minutes .blank => "2024-05-0607:08"
  | .minutes .letter => "2024-05-06T07:08"
  | .rfc3339 => "2024-05-06 07:08:09.5Z"

/-- Each form reads its text and no other form does, the last form may as well be tried first, and
no form reads a time of day. -/
theorem readsOnce_specimens :
    (∀ form : DateForm, (form.read? (Text.trim (specimen form).toList)).isSome = true) ∧
      (∀ form other : DateForm,
        (other.read? (Text.trim (specimen form).toList)).isSome = true → form = other) ∧
      DateForm.tried.reverse.findSome?
          (DateForm.read? · (Text.trim (specimen (.minutes .blank)).toList)) =
        ofText? (specimen (.minutes .blank)) ∧
      isTimeOfDay "07:08:60" = true ∧
      ∀ form : DateForm, form.read? (Text.trim "07:08:60".toList) = none := by
  have reads (form : DateForm) :
      (form.read? (Text.trim (specimen form).toList)).isSome = true := by
    rcases form with _ | ⟨_ | _⟩ | ⟨_ | _⟩ | _ <;> decide +kernel
  have time : isTimeOfDay "07:08:60" = true := by decide +kernel
  refine ⟨reads, fun form other readsToo => ?_, ?_, time, (readsOnce "07:08:60").notTime time⟩
  · obtain ⟨reading, read⟩ := Option.isSome_iff_exists.mp (reads form)
    obtain ⟨again, readAgain⟩ := Option.isSome_iff_exists.mp readsToo
    exact (readsOnce (specimen form)).alone form other reading again read readAgain
  · exact (readsOnce (specimen (.minutes .blank))).anyOrder _ (List.reverse_perm DateForm.tried)

end DateReading

end EntitySearch
