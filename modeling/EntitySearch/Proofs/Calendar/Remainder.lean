import EntitySearch.Proofs.Calendar.Reading

/-!
# What is left behind the parts of a date

The items of a pattern are read one after another, and what they leave of a text does not depend on
the numbers that were read before.  A time of day ends its first number at a colon, so the items of
a day do not get past its hour.  RFC 3339 text is read by the items of a day and, behind one more
character, by those of a time of day to the second; its zone is left.
-/

namespace EntitySearch

/-! ## Numbers of a fixed width -/

/-- What is read as a number is a stretch of digits in front of the rest. -/
theorem exists_digits_of_number? {most value : Nat} {text rest : List Char}
    (read : number? most text = some (value, rest)) :
    ∃ digits, text = digits ++ rest ∧ digits ≠ [] ∧ (∀ char ∈ digits, char.isDigit = true) ∧
      digits.length ≤ most := by
  have leads : (text.take most).takeWhile Char.isDigit <+: text.take most :=
    List.takeWhile_prefix _
  simp only [number?] at read
  split at read
  next absent => cases read
  next present =>
    obtain ⟨-, rfl⟩ := Prod.mk.inj (Option.some.inj read)
    refine ⟨_, ?_, present, ?_, leads.length_le.trans (List.length_take_le most text)⟩
    · exact (List.prefix_iff_eq_append.mp (leads.trans (List.take_prefix most text))).symm
    · exact List.all_eq_true.mp List.all_takeWhile

theorem head?_of_number? {most value : Nat} {text rest : List Char}
    (read : number? most text = some (value, rest)) :
    ∀ char ∈ text.head?, char.isDigit = true := by
  obtain ⟨digits, rfl, present, each, -⟩ := exists_digits_of_number? read
  intro char first
  rw [List.head?_append, List.head?_eq_some_head present, Option.some_or,
    Option.mem_some_iff] at first
  exact each char (first ▸ List.head_mem present)

/-- A number of exactly so many digits is one of at most so many. -/
theorem number?_of_fixedNumber? {width value : Nat} (positive : width ≠ 0) {text rest : List Char}
    (read : fixedNumber? width text = some (value, rest)) :
    number? width text = some (value, rest) := by
  simp only [fixedNumber?] at read
  split at read
  next digits =>
    obtain ⟨length, each⟩ := digits
    have present : text.take width ≠ [] := by
      rintro empty
      rw [empty] at length
      exact positive length.symm
    have whole : number? width (text.take width ++ text.drop width) =
        some (Text.digitsValue (text.take width), text.drop width) :=
      number?_append present (List.all_eq_true.mp each) length.le (.inl length)
    rwa [List.take_append_drop, read] at whole
  next => cases read

/-- No white space is in front of a number of exactly so many digits, so skipping it changes
nothing. -/
theorem number?_trimStart_of_fixedNumber? {width value : Nat} (positive : width ≠ 0)
    {text rest : List Char} (read : fixedNumber? width text = some (value, rest)) :
    number? width (Text.trimStart text) = some (value, rest) := by
  have digits := number?_of_fixedNumber? positive read
  have starts : Text.trimStart text = text := Text.trimStart_eq_self fun char first =>
    Text.isWhiteSpace_of_isDigit (head?_of_number? digits char first)
  rwa [starts]

/-! ## What is left of a text -/

namespace PatternItem

/-- What an item leaves of a text. -/
def rest? (item : PatternItem) (text : List Char) : Option (List Char) :=
  (item.read? {} text).map Prod.snd

/-- What an item leaves does not depend on what has been read before. -/
theorem map_snd_read? (item : PatternItem) (parts : DateTimeParts) (text : List Char) :
    (item.read? parts text).map Prod.snd = item.rest? text := by
  cases item with
  | mark char =>
      cases text with
      | nil => rfl
      | cons head tail => by_cases same : head = char <;> simp [rest?, read?, same]
  | _ => simp [rest?, read?, Function.comp_def]

theorem rest?_mark_eq_some_iff {char : Char} {text rest : List Char} :
    (mark char).rest? text = some rest ↔ text = char :: rest := by
  cases text with
  | nil => simp [rest?, read?]
  | cons head tail => by_cases same : head = char <;> simp [rest?, read?, same]

theorem rest?_year {text rest : List Char} {value : Nat}
    (read : number? 4 (Text.trimStart text) = some (value, rest)) :
    year.rest? text = some rest := by
  simp [rest?, read?, year?_of_isDigit (head?_of_number? read), read]

theorem rest?_hour (text : List Char) :
    hour.rest? text = (number? 2 (Text.trimStart text)).map Prod.snd := by
  simp [rest?, read?, Function.comp_def]

/-- An item that may read one digit leaves the same when there are two. -/
theorem rest?_twoDigits {item : PatternItem} {enter : DateTimeParts → Nat → DateTimeParts}
    (enters : item.enter? = some enter) {text rest : List Char} {value : Nat}
    (read : fixedNumber? 2 text = some (value, rest)) : item.rest? text = some rest := by
  have digits := number?_trimStart_of_fixedNumber? (by decide) read
  rw [rest?, read?_of_number? enters {} digits, Option.map_some]

end PatternItem

namespace Pattern

/-- What items leave of a text when they are read one after another. -/
def rest? : List PatternItem → List Char → Option (List Char)
  | [], text => some text
  | item :: items, text => (item.rest? text).bind (rest? items)

theorem rest?_cons {item : PatternItem} {text rest : List Char}
    (left : item.rest? text = some rest) (items : List PatternItem) :
    rest? (item :: items) text = rest? items rest := by
  rw [rest?, left, Option.bind_some]

theorem rest?_append (first second : List PatternItem) (text : List Char) :
    rest? (first ++ second) text = (rest? first text).bind (rest? second) := by
  induction first generalizing text with
  | nil => rfl
  | cons item first remaining =>
      rw [List.cons_append, rest?, rest?, Option.bind_assoc]
      exact congrArg _ (funext remaining)

theorem map_snd_readItems? (items : List PatternItem) (parts : DateTimeParts) (text : List Char) :
    (readItems? items parts text).map Prod.snd = rest? items text := by
  induction items generalizing parts text with
  | nil => rfl
  | cons item items remaining =>
      rw [readItems?, rest?, ← item.map_snd_read? parts, Option.map_bind, Option.bind_map]
      exact congrArg _ (funext fun entered => remaining entered.1 entered.2)

/-- A pattern that reads a text leaves nothing of it. -/
theorem rest?_of_read? {pattern : List PatternItem} {text : List Char} {parts : DateTimeParts}
    (read : read? pattern text = some parts) : rest? pattern text = some [] := by
  rw [read?] at read
  split at read
  next entered whole => rw [← map_snd_readItems? pattern {}, whole, Option.map_some]
  next => cases read

/-! ## Days and times of day -/

/-- White space in front of a time of day does not count. -/
theorem rest?_hour_trimStart (items : List PatternItem) (text : List Char) :
    rest? (.hour :: items) (Text.trimStart text) = rest? (.hour :: items) text := by
  rw [rest?, rest?, PatternItem.rest?_hour, PatternItem.rest?_hour, Text.trimStart_trimStart]

theorem rest?_minutes_trimStart (text : List Char) :
    rest? minutes (Text.trimStart text) = rest? minutes text :=
  rest?_hour_trimStart _ text

theorem rest?_seconds_trimStart (text : List Char) :
    rest? seconds (Text.trimStart text) = rest? seconds text :=
  rest?_hour_trimStart _ text

/-- A text that begins with a time of day does not begin with a day, since its first number ends at
a colon. -/
theorem rest?_day_of_minutes {text behind : List Char} (left : rest? minutes text = some behind) :
    rest? day text = none := by
  obtain ⟨afterHour, hour, others⟩ := Option.bind_eq_some_iff.mp left
  obtain ⟨timed, colon, -⟩ := Option.bind_eq_some_iff.mp others
  obtain rfl := PatternItem.rest?_mark_eq_some_iff.mp colon
  rw [PatternItem.rest?_hour] at hour
  obtain ⟨⟨value, -⟩, read, rfl⟩ := Option.map_eq_some_iff.mp hour
  obtain ⟨digits, whole, present, each, length⟩ := exists_digits_of_number? read
  have year : number? 4 (Text.trimStart text) = some (Text.digitsValue digits, ':' :: timed) := by
    rw [whole]
    exact number?_append present each (by omega) (.inr (by simp))
  rw [day, rest?_cons (PatternItem.rest?_year year)]
  rfl

/-- Before a time of day is read to the second, it is read to the minute. -/
theorem exists_rest?_minutes {timed zone : List Char} (left : rest? seconds timed = some zone) :
    ∃ behind, rest? minutes timed = some behind := by
  rw [seconds, rest?_append] at left
  obtain ⟨behind, whole, -⟩ := Option.bind_eq_some_iff.mp left
  exact ⟨behind, whole⟩

end Pattern

namespace Timestamp

theorem skipMark?_eq_some_iff {char : Char} {text rest : List Char} :
    skipMark? char text = some rest ↔ text = char :: rest := by
  cases text <;> simp [skipMark?]

theorem rest?_mark_of_skipMark? {char : Char} {text rest : List Char}
    (read : skipMark? char text = some rest) : (PatternItem.mark char).rest? text = some rest :=
  PatternItem.rest?_mark_eq_some_iff.mpr (skipMark?_eq_some_iff.mp read)

/-- The separator of RFC 3339 text is a letter in either case or a blank. -/
theorem exists_separator_of_skipMark? {text rest : List Char}
    (read : (skipMark? 'T' text <|> skipMark? 't' text <|> skipMark? ' ' text) = some rest) :
    ∃ separator, text = separator :: rest ∧
      (separator = 'T' ∨ separator = 't' ∨ separator = ' ') := by
  simp only [Option.orElse_apply, Option.orElse_eq_or, Option.or_eq_some_iff,
    skipMark?_eq_some_iff] at read
  rcases read with upper | ⟨-, lower | ⟨-, blank⟩⟩
  · exact ⟨'T', upper, .inl rfl⟩
  · exact ⟨'t', lower, .inr (.inl rfl)⟩
  · exact ⟨' ', blank, .inr (.inr rfl)⟩

/-- RFC 3339 text begins as a day, a separator and a time of day to the second, and goes on. -/
theorem exists_rest?_of_ofRfc3339? {text : List Char} {timestamp : Timestamp}
    (read : ofRfc3339? text = some timestamp) :
    ∃ separator timed zone, Pattern.rest? Pattern.day text = some (separator :: timed) ∧
      (separator = 'T' ∨ separator = 't' ∨ separator = ' ') ∧
      Pattern.rest? Pattern.seconds timed = some zone ∧ zone ≠ [] := by
  rw [ofRfc3339?] at read
  obtain ⟨⟨year, _⟩, readYear, read⟩ := Option.bind_eq_some_iff.mp read
  obtain ⟨_, dash, read⟩ := Option.bind_eq_some_iff.mp read
  obtain ⟨⟨month, _⟩, readMonth, read⟩ := Option.bind_eq_some_iff.mp read
  obtain ⟨_, secondDash, read⟩ := Option.bind_eq_some_iff.mp read
  obtain ⟨⟨day, behind⟩, readDay, read⟩ := Option.bind_eq_some_iff.mp read
  obtain ⟨timed, separates, read⟩ := Option.bind_eq_some_iff.mp read
  obtain ⟨⟨hour, _⟩, readHour, read⟩ := Option.bind_eq_some_iff.mp read
  obtain ⟨_, colon, read⟩ := Option.bind_eq_some_iff.mp read
  obtain ⟨⟨minute, _⟩, readMinute, read⟩ := Option.bind_eq_some_iff.mp read
  obtain ⟨_, secondColon, read⟩ := Option.bind_eq_some_iff.mp read
  obtain ⟨⟨second, zone⟩, readSecond, read⟩ := Option.bind_eq_some_iff.mp read
  obtain ⟨⟨nanosecond, _⟩, readFraction, read⟩ := Option.bind_eq_some_iff.mp read
  obtain ⟨⟨ahead, _⟩, readZone, -⟩ := Option.bind_eq_some_iff.mp read
  obtain ⟨separator, rfl, known⟩ := exists_separator_of_skipMark? separates
  have digits := number?_trimStart_of_fixedNumber? (by decide) readYear
  refine ⟨separator, timed, zone, ?_, known, ?_, ?_⟩
  · rw [Pattern.day, Pattern.rest?_cons (PatternItem.rest?_year digits),
      Pattern.rest?_cons (rest?_mark_of_skipMark? dash),
      Pattern.rest?_cons (PatternItem.rest?_twoDigits rfl readMonth),
      Pattern.rest?_cons (rest?_mark_of_skipMark? secondDash),
      Pattern.rest?_cons (PatternItem.rest?_twoDigits rfl readDay)]
    rfl
  · rw [Pattern.seconds, Pattern.minutes, List.cons_append, List.cons_append, List.cons_append,
      Pattern.rest?_cons (PatternItem.rest?_twoDigits rfl readHour),
      Pattern.rest?_cons (rest?_mark_of_skipMark? colon),
      Pattern.rest?_cons (PatternItem.rest?_twoDigits rfl readMinute), List.nil_append,
      Pattern.rest?_cons (rest?_mark_of_skipMark? secondColon),
      Pattern.rest?_cons (PatternItem.rest?_twoDigits rfl readSecond)]
    rfl
  · -- where the text ends there is neither a fraction nor a zone
    rintro rfl
    cases readFraction
    cases readZone

end Timestamp

end EntitySearch
