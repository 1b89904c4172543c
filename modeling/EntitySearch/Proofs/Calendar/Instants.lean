import EntitySearch.Proofs.Calendar.Reading

/-!
# Displayed timestamps are read

A timestamp is displayed as its date, a blank and its time to the second.  The day pattern stops in
front of the blank, so the text is no day, and the first of the patterns with a time takes in all of
it.  White space around the text does not count, and the fraction of the second is not displayed.
-/

namespace EntitySearch

/-! ## White space around a text -/

namespace Text

theorem trimStart_append {before : List Char}
    (white : ∀ char ∈ before, isWhiteSpace char = true) (text : List Char) :
    trimStart (before ++ text) = trimStart text :=
  List.dropWhile_append_of_pos white

/-- Trimming leaves what has no white space at its ends, whatever white space is around it. -/
theorem trim_surrounded {before text after : List Char}
    (whiteBefore : ∀ char ∈ before, isWhiteSpace char = true)
    (whiteAfter : ∀ char ∈ after, isWhiteSpace char = true) (present : text ≠ [])
    (first : ∀ char ∈ text.head?, isWhiteSpace char = false)
    (last : ∀ char ∈ text.getLast?, isWhiteSpace char = false) :
    trim (before ++ text ++ after) = text := by
  have starts : trimStart (text ++ after) = text ++ after := by
    apply trimStart_eq_self
    rwa [List.head?_append, List.head?_eq_some_head present, Option.some_or,
      ← List.head?_eq_some_head present]
  rw [trim, List.append_assoc, trimStart_append whiteBefore, starts, trimEnd, List.reverse_append,
    trimStart_append (by simpa using whiteAfter), trimStart_eq_self (by simpa using last),
    List.reverse_reverse]

end Text

/-! ## Times of day -/

namespace Pattern

theorem readItems?_append {first : List PatternItem} {parts entered : DateTimeParts}
    {text rest : List Char} (read : readItems? first parts text = some (entered, rest))
    (second : List PatternItem) :
    readItems? (first ++ second) parts text = readItems? second entered rest := by
  induction first generalizing parts text with
  | nil =>
      obtain ⟨rfl, rfl⟩ := by simpa [readItems?] using read
      rfl
  | cons item first remaining =>
      obtain ⟨⟨between, left⟩, one, others⟩ := Option.bind_eq_some_iff.mp read
      rw [List.cons_append, readItems?_cons one, remaining others]

/-- The seconds pattern reads the text of a time to its second. -/
theorem readItems?_seconds_wholeText (time : Time) (parts : DateTimeParts) :
    readItems? seconds parts time.wholeText =
      some
        ({ parts with hour := time.hour, minute := time.minute, second := time.second }, []) := by
  obtain ⟨hour, minute, second, -⟩ := time.isTime
  rw [Time.wholeText, List.append_assoc, List.cons_append, seconds, minutes,
    List.cons_append, List.cons_append, List.cons_append,
    readItems?_cons (PatternItem.read?_twoDigits rfl _ (by omega) _),
    readItems?_cons (PatternItem.read?_mark ..),
    readItems?_cons (PatternItem.read?_twoDigits rfl _ (by omega) _), List.nil_append,
    readItems?_cons (PatternItem.read?_mark ..),
    ← List.append_nil (Text.paddedNumeral 2 time.second),
    readItems?_cons (PatternItem.read?_twoDigits rfl _ (by omega) _)]
  rfl

end Pattern

/-! ## Timestamps -/

namespace Time

/-- The time without the fraction of its second. -/
def whole (time : Time) : Time where
  hour := time.hour
  minute := time.minute
  second := time.second
  nanosecond := 0
  isTime := ⟨time.isTime.1, time.isTime.2.1, time.isTime.2.2.1, by decide⟩

theorem head?_wholeText (time : Time) :
    ∀ char ∈ time.wholeText.head?, Text.isWhiteSpace char = false := by
  intro char first
  rw [wholeText, List.append_assoc] at first
  exact Text.isWhiteSpace_of_isDigit (Text.head?_paddedNumeral_append 2 time.hour _ char first)

end Time

namespace Timestamp

/-- The timestamp without the fraction of its second. -/
def whole (timestamp : Timestamp) : Timestamp := ⟨timestamp.date, timestamp.time.whole⟩

/-- What a pattern enters for a displayed timestamp. -/
def parts (timestamp : Timestamp) : DateTimeParts :=
  { timestamp.date.parts with
    hour := timestamp.time.hour, minute := timestamp.time.minute, second := timestamp.time.second }

theorem timestamp?_parts (timestamp : Timestamp) :
    timestamp.parts.timestamp? = some timestamp.whole := by
  have date : timestamp.parts.date? = some timestamp.date :=
    (Date.ofParts?_eq_some_iff ..).mpr ⟨rfl, rfl, rfl⟩
  have time : timestamp.parts.time? = some timestamp.time.whole :=
    (Time.ofParts?_eq_some_iff ..).mpr ⟨rfl, rfl, rfl, rfl⟩
  rw [DateTimeParts.timestamp?, date, time]
  rfl

theorem toList_display (timestamp : Timestamp) :
    timestamp.display.toList = timestamp.date.text ++ ' ' :: timestamp.time.wholeText :=
  String.toList_ofList

/-- The day pattern stops in front of the time. -/
theorem ofDay?_display (timestamp : Timestamp) :
    DateReading.ofDay? timestamp.display.toList = none := by
  rw [DateReading.ofDay?, toList_display, Pattern.read?, Pattern.readItems?_day_text]
  rfl

/-- The pattern of a day, a blank and a time to the second takes in the whole text. -/
theorem ofPattern?_display (timestamp : Timestamp) :
    DateReading.ofPattern? timestamp.display.toList (Pattern.day ++ .blank :: Pattern.seconds) =
      some (.instant timestamp.whole) := by
  have blank : PatternItem.blank.read? timestamp.date.parts (' ' :: timestamp.time.wholeText) =
      some (timestamp.date.parts, timestamp.time.wholeText) := by
    have white : ∀ char ∈ [' '], Text.isWhiteSpace char = true :=
      List.forall_mem_singleton.mpr (by decide)
    rw [PatternItem.read?, ← List.singleton_append, Text.trimStart_append white,
      Text.trimStart_eq_self timestamp.time.head?_wholeText]
  have read : Pattern.readItems? (Pattern.day ++ .blank :: Pattern.seconds) {}
      timestamp.display.toList = some (timestamp.parts, []) := by
    rw [toList_display, Pattern.readItems?_append (Pattern.readItems?_day_text _ _),
      Pattern.readItems?_cons blank, Pattern.readItems?_seconds_wholeText]
    rfl
  rw [DateReading.ofPattern?, Pattern.read?, read, Option.bind_some, timestamp?_parts,
    Option.map_some]

/-- A displayed timestamp has no white space at its ends. -/
theorem trim_display (timestamp : Timestamp) {before after : String}
    (blankBefore : Text.isBlank before = true) (blankAfter : Text.isBlank after = true) :
    Text.trim (before ++ timestamp.display ++ after).toList = timestamp.display.toList := by
  rw [String.toList_append, String.toList_append]
  apply Text.trim_surrounded (by simpa [Text.isBlank] using blankBefore)
    (by simpa [Text.isBlank] using blankAfter)
  · simp [toList_display]
  · rw [toList_display, Date.text, List.append_assoc, List.append_assoc]
    exact head?_yearText_append timestamp.date.year _
  · intro char last
    rw [toList_display, Time.wholeText, ← List.cons_append, ← List.append_assoc,
      List.append_cons _ ':' (Text.paddedNumeral 2 timestamp.time.second)] at last
    exact Text.isWhiteSpace_of_isDigit
      (Text.getLast?_append_paddedNumeral _ 2 timestamp.time.second char last)

end Timestamp

/-- A displayed timestamp names an instant, be there white space around it or not. -/
theorem DateReading.ofText?_display (timestamp : Timestamp) {before after : String}
    (blankBefore : Text.isBlank before = true) (blankAfter : Text.isBlank after = true) :
    ofText? (before ++ timestamp.display ++ after) = some (.instant timestamp.whole) := by
  rw [ofText?, timestamp.trim_display blankBefore blankAfter, timestamp.ofDay?_display,
    Pattern.dayTimes, List.findSome?_cons, timestamp.ofPattern?_display]
  rfl

namespace Correction

/-- Correcting the text that a timestamp is displayed as gives the timestamp back to the second,
whatever white space is around the text, whichever operator asks for it and wherever it stands among
the values: it is read as an instant and not as a day. -/
theorem apply_display (timestamp : Timestamp) {before after : String}
    (blankBefore : Text.isBlank before = true) (blankAfter : Text.isBlank after = true)
    (operator : Operator) {values : List Value} {position : Nat}
    (written : values[position]? =
      some (.text (before ++ (Value.timestamp timestamp).display ++ after))) :
    DateReading.ofText? (before ++ (Value.timestamp timestamp).display ++ after) =
        some (.instant timestamp.whole) ∧
      (dates.apply operator values)[position]? = some (.timestamp timestamp.whole) := by
  have read : DateReading.ofText? (before ++ (Value.timestamp timestamp).display ++ after) =
      some (.instant timestamp.whole) :=
    DateReading.ofText?_display timestamp blankBefore blankAfter
  refine ⟨read, ?_⟩
  rw [apply, List.getElem?_mapIdx, written, Option.map_some, correctValue, read]
  rfl

/-- An instant on the leap day of a negative year. -/
def ancientInstant : Timestamp :=
  ⟨⟨-4, 2, 29, by decide⟩, ⟨7, 8, 9, 500000000, by decide⟩⟩

/-- As the upper end of a range and with a no-break space in front, a displayed instant of a
negative year is still that instant. -/
theorem apply_display_ancientInstant :
    Text.isBlank "\u00a0" = true ∧ Text.isBlank "\n" = true ∧
      (Value.timestamp ancientInstant).display = "-0004-02-29 07:08:09" ∧
      (dates.apply .between [.null, .text ("\u00a0" ++ "-0004-02-29 07:08:09" ++ "\n")])[1]? =
        some (.timestamp ⟨ancientInstant.date, ⟨7, 8, 9, 0, by decide⟩⟩) := by
  have blankBefore : Text.isBlank "\u00a0" = true := by decide
  have blankAfter : Text.isBlank "\n" = true := by decide
  have displayed : (Value.timestamp ancientInstant).display = "-0004-02-29 07:08:09" := by
    decide +kernel
  have written : [Value.null, .text ("\u00a0" ++ "-0004-02-29 07:08:09" ++ "\n")][1]? =
      some (.text ("\u00a0" ++ (Value.timestamp ancientInstant).display ++ "\n")) := by
    rw [displayed]
    rfl
  exact ⟨blankBefore, blankAfter, displayed,
    (apply_display ancientInstant blankBefore blankAfter .between written).2⟩

end Correction

end EntitySearch
