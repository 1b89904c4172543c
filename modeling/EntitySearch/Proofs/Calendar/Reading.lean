import EntitySearch.Correction
import EntitySearch.Proofs.Calendar.Order
import EntitySearch.Proofs.Numerals

/-!
# Written dates are read

The year of a date is written with four digits, or with a sign and at least four, and its month and
day with two.  A reader that takes at most so many digits stops exactly where the next part begins,
so the text of a date is read as that date.
-/

namespace EntitySearch

/-! ## White space at the ends -/

namespace Text

theorem trimStart_eq_self {text : List Char}
    (first : ∀ char ∈ text.head?, isWhiteSpace char = false) : trimStart text = text := by
  cases text with
  | nil => rfl
  | cons char rest => simp [trimStart, first char rfl]

theorem trimStart_trimStart (text : List Char) :
    trimStart (trimStart text) = trimStart text := by
  apply trimStart_eq_self
  intro char first
  have notWhite := List.head?_dropWhile_not isWhiteSpace text
  rw [← trimStart, first] at notWhite
  simpa using notWhite

theorem trim_eq_self {text : List Char} (first : ∀ char ∈ text.head?, isWhiteSpace char = false)
    (last : ∀ char ∈ text.getLast?, isWhiteSpace char = false) : trim text = text := by
  rw [trim, trimStart_eq_self first, trimEnd, trimStart_eq_self (by simpa using last),
    List.reverse_reverse]

end Text

/-! ## Numbers -/

/-- A number ends with the last digit that may be read, or in front of what is no digit. -/
theorem number?_append {most : Nat} {digits rest : List Char} (present : digits ≠ [])
    (each : ∀ char ∈ digits, char.isDigit = true) (fits : digits.length ≤ most)
    (ends : digits.length = most ∨ ∀ char ∈ rest.head?, char.isDigit = false) :
    number? most (digits ++ rest) = some (Text.digitsValue digits, rest) := by
  have stops : (rest.take (most - digits.length)).takeWhile Char.isDigit = [] := by
    rcases ends with full | stop
    · simp [full]
    · cases rest with
      | nil => simp
      | cons char rest =>
          cases most - digits.length with
          | zero => simp
          | succ more => simp [stop char rfl]
  have read : ((digits ++ rest).take most).takeWhile Char.isDigit = digits := by
    rw [List.take_append, List.take_of_length_le fits, List.takeWhile_append_of_pos each, stops,
      List.append_nil]
  simp only [number?, read, if_neg present, List.drop_left]

/-- A numeral of a fixed width is read whatever comes behind it. -/
theorem number?_paddedNumeral {width number : Nat} (positive : width ≠ 0)
    (fits : number < 10 ^ width) (rest : List Char) :
    number? width (Text.paddedNumeral width number ++ rest) = some (number, rest) := by
  have length := Text.length_paddedNumeral positive fits
  rw [number?_append (Text.paddedNumeral_ne_nil width number)
    (fun _ => Text.isDigit_of_mem_paddedNumeral) length.le (.inl length),
    Text.digitsValue_paddedNumeral]

theorem number?_trimStart_paddedNumeral {width number : Nat} (positive : width ≠ 0)
    (fits : number < 10 ^ width) (rest : List Char) :
    number? width (Text.trimStart (Text.paddedNumeral width number ++ rest)) =
      some (number, rest) := by
  rw [Text.trimStart_eq_self, number?_paddedNumeral positive fits]
  intro char head
  exact Text.isWhiteSpace_of_isDigit (Text.head?_paddedNumeral_append width number rest char head)

/-- A numeral without a limit of its width is read up to what is no digit. -/
theorem number?_length_paddedNumeral (width number : Nat) {rest : List Char}
    (ends : ∀ char ∈ rest.head?, char.isDigit = false) :
    number? (Text.paddedNumeral width number ++ rest).length
      (Text.paddedNumeral width number ++ rest) = some (number, rest) := by
  rw [number?_append (Text.paddedNumeral_ne_nil width number)
    (fun _ => Text.isDigit_of_mem_paddedNumeral) (by simp) (.inr ends),
    Text.digitsValue_paddedNumeral]

/-! ## Dates -/

theorem year?_of_isDigit {text : List Char} (first : ∀ char ∈ text.head?, char.isDigit = true) :
    year? text = (number? 4 text).map fun (value, rest) => ((value : Int), rest) := by
  fun_cases year? text with
  | case1 rest => exact absurd (first '-' rfl) (by decide)
  | case2 rest => exact absurd (first '+' rfl) (by decide)
  | case3 => rfl

/-- Years of four digits and signed years are read up to what is no digit. -/
theorem year?_yearText (year : Int) {rest : List Char}
    (ends : ∀ char ∈ rest.head?, char.isDigit = false) :
    year? (Date.yearText year ++ rest) = some (year, rest) := by
  rw [Date.yearText]
  split
  next negative =>
    have value : -(year.natAbs : Int) = year := by omega
    rw [List.cons_append, year?, number?_length_paddedNumeral 4 year.natAbs ends]
    simp only [Option.map_some, value]
  next natural =>
    have value : (year.natAbs : Int) = year := by omega
    split
    next long =>
      rw [List.cons_append, year?, number?_length_paddedNumeral 4 year.natAbs ends]
      simp only [Option.map_some, value]
    next short =>
      rw [year?_of_isDigit (Text.head?_paddedNumeral_append 4 year.natAbs rest),
        number?_paddedNumeral (by decide) (by omega)]
      simp only [Option.map_some, value]

theorem head?_yearText_append (year : Int) (rest : List Char) :
    ∀ char ∈ (Date.yearText year ++ rest).head?, Text.isWhiteSpace char = false := by
  rw [Date.yearText]
  split
  · simp +decide
  · split
    · simp +decide
    · intro char head
      exact Text.isWhiteSpace_of_isDigit (Text.head?_paddedNumeral_append _ _ rest char head)

namespace PatternItem

theorem read?_year (parts : DateTimeParts) (value : Int) {rest : List Char}
    (ends : ∀ char ∈ rest.head?, char.isDigit = false) :
    year.read? parts (Date.yearText value ++ rest) = some ({ parts with year := value }, rest) := by
  simp only [read?, Text.trimStart_eq_self (head?_yearText_append value rest),
    year?_yearText value ends, Option.map_some]

/-- How an item that reads two digits enters their number among the parts. -/
def enter? : PatternItem → Option (DateTimeParts → Nat → DateTimeParts)
  | month => some fun parts value => { parts with month := value }
  | day => some fun parts value => { parts with day := value }
  | hour => some fun parts value => { parts with hour := value }
  | minute => some fun parts value => { parts with minute := value }
  | second => some fun parts value => { parts with second := value }
  | year | fraction | blank | mark _ => none

/-- An item of two digits reads what a number of at most two digits reads. -/
theorem read?_of_number? {item : PatternItem} {enter : DateTimeParts → Nat → DateTimeParts}
    (enters : item.enter? = some enter) (parts : DateTimeParts) {value : Nat}
    {text rest : List Char} (read : number? 2 (Text.trimStart text) = some (value, rest)) :
    item.read? parts text = some (enter parts value, rest) := by
  cases item <;> cases enters <;> simp only [read?, read, Option.map_some]

/-- Two digits are read whatever comes behind them. -/
theorem read?_twoDigits {item : PatternItem} {enter : DateTimeParts → Nat → DateTimeParts}
    (enters : item.enter? = some enter) (parts : DateTimeParts) {value : Nat}
    (fits : value < 10 ^ 2) (rest : List Char) :
    item.read? parts (Text.paddedNumeral 2 value ++ rest) = some (enter parts value, rest) :=
  read?_of_number? enters parts (number?_trimStart_paddedNumeral (by decide) fits rest)

theorem read?_mark (parts : DateTimeParts) (char : Char) (rest : List Char) :
    (mark char).read? parts (char :: rest) = some (parts, rest) :=
  if_pos rfl

end PatternItem

namespace Date

/-- What a pattern enters for a date. -/
def parts (date : Date) : DateTimeParts :=
  { year := date.year, month := date.month, day := date.day }

theorem date?_parts (date : Date) : date.parts.date? = some date :=
  (ofParts?_eq_some_iff ..).mpr ⟨rfl, rfl, rfl⟩

/-- The text of a date has no white space at its ends. -/
theorem trim_text (date : Date) : Text.trim date.text = date.text := by
  apply Text.trim_eq_self
  · rw [text, List.append_assoc]
    exact head?_yearText_append date.year _
  · intro char last
    rw [text, List.append_cons _ '-' (Text.paddedNumeral 2 date.day)] at last
    exact Text.isWhiteSpace_of_isDigit (Text.getLast?_append_paddedNumeral _ 2 date.day char last)

end Date

namespace Pattern

theorem readItems?_cons {item : PatternItem} {parts entered : DateTimeParts}
    {text rest : List Char} (read : item.read? parts text = some (entered, rest))
    (items : List PatternItem) :
    readItems? (item :: items) parts text = readItems? items entered rest := by
  rw [readItems?, read, Option.bind_some]

/-- The day pattern reads the text of a date and stops behind it. -/
theorem readItems?_day_text (date : Date) (rest : List Char) :
    readItems? day {} (date.text ++ rest) = some (date.parts, rest) := by
  have month : date.month < 10 ^ 2 := by have := date.isMonth; omega
  have dayOfMonth : date.day < 10 ^ 2 := by have := date.day_le; omega
  rw [Date.text, List.append_assoc, List.append_assoc, List.cons_append, List.cons_append, day,
    readItems?_cons (PatternItem.read?_year _ _ (by simp)),
    readItems?_cons (PatternItem.read?_mark ..),
    readItems?_cons (PatternItem.read?_twoDigits rfl _ month _),
    readItems?_cons (PatternItem.read?_mark ..),
    readItems?_cons (PatternItem.read?_twoDigits rfl _ dayOfMonth _)]
  rfl

theorem read?_day_text (date : Date) : read? day date.text = some date.parts := by
  have whole := readItems?_day_text date []
  rw [List.append_nil] at whole
  rw [read?, whole]

end Pattern

/-- The text of a date names that day. -/
theorem DateReading.ofText?_text (date : Date) :
    ofText? (String.ofList date.text) = some (.day date) := by
  rw [ofText?, String.toList_ofList, date.trim_text, ofDay?, Pattern.read?_day_text,
    Option.bind_some, date.date?_parts]
  rfl

end EntitySearch
