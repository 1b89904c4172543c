import EntitySearch.Proofs.Assembly
import EntitySearch.Proofs.Numerals
import EntitySearch.Proofs.Placeholders
import EntitySearch.Proofs.Snippet.Resolve

/-!
# Balanced pieces

Snippets, conditions and page clauses have one value for every placeholder, and the generated names
have no placeholders.
-/

namespace EntitySearch

/-! ## Generated names -/

namespace Alias

theorem placeholders_allocate {seed : String} (glue : placeholders seed = 0) (text : String) :
    placeholders (allocate seed text) = 0 := by
  obtain ⟨last, same, -⟩ := firstFree_eq_candidate seed text (tries text) 0
  rw [allocate, same]
  cases last with
  | zero => exact glue
  | succ index =>
      rw [candidate, placeholders_append, glue, Nat.zero_add, placeholders_eq_zero_iff]
      intro member
      have digit : Char.isDigit '?' = true :=
        Text.isDigit_of_mem_numeral (by simpa using member)
      simp at digit

theorem placeholders_columns {names : List String} (glue : ∀ name ∈ names, placeholders name = 0)
    (text : String) : ∀ name ∈ columns text names, placeholders name = 0 := by
  induction names generalizing text with
  | nil => simp [columns]
  | cons first names induction =>
      simp only [List.forall_mem_cons] at glue
      simp only [columns, List.forall_mem_cons]
      refine ⟨placeholders_allocate ?_ text, induction glue.2 _⟩
      rw [placeholders_append, glue.1]
      rfl

end Alias

namespace AggregateNames

/-- None of the names has a placeholder. -/
structure Glue (names : AggregateNames) : Prop where
  count : ∀ name ∈ names.count?, placeholders name = 0
  sums : ∀ name ∈ names.sums, placeholders name = 0
  table : placeholders names.table = 0

theorem glue_allocate {fetch : Fetch}
    (fields : ∀ name ∈ fetch.summaryFields, placeholders name = 0) (text : String) :
    (allocate text fetch).Glue where
  count := by
    intro name counted
    rw [allocate] at counted
    split at counted
    · obtain rfl := Option.some.inj counted
      exact Alias.placeholders_allocate rfl text
    · cases counted
  sums := Alias.placeholders_columns fields _
  table := Alias.placeholders_allocate rfl _

namespace Glue

variable {names : AggregateNames}

theorem countExpressions (glue : names.Glue) :
    ∀ expression ∈ names.countExpressions, placeholders expression = 0 := by
  intro expression member
  obtain ⟨name, counted, rfl⟩ := List.mem_map.mp member
  rw [placeholders_append, glue.count name (Option.mem_toList.mp counted)]
  rfl

theorem sumExpressions (glue : names.Glue) {summands : List String}
    (each : ∀ summand ∈ summands, placeholders summand = 0) :
    ∀ expression ∈ names.sumExpressions summands, placeholders expression = 0 := by
  intro expression member
  rw [AggregateNames.sumExpressions, ← List.map_uncurry_zip_eq_zipWith] at member
  obtain ⟨⟨summand, name⟩, paired, rfl⟩ := List.mem_map.mp member
  obtain ⟨summed, named⟩ := List.of_mem_zip paired
  change placeholders ("sum(" ++ summand ++ ") " ++ name) = 0
  rw [placeholders_append, placeholders_append, placeholders_append, each summand summed,
    glue.sums name named]
  rfl

theorem selected (glue : names.Glue) {summands : List String}
    (each : ∀ summand ∈ summands, placeholders summand = 0) :
    placeholders (names.selected summands) = 0 :=
  placeholders_intercalate rfl
    (List.forall_mem_append.mpr ⟨glue.countExpressions, glue.sumExpressions each⟩)

theorem selectedOfGroup (glue : names.Glue) {summands : List String}
    (each : ∀ summand ∈ summands, placeholders summand = 0) :
    placeholders (names.selectedOfGroup summands) = 0 := by
  apply placeholders_intercalate rfl
  split
  · exact glue.countExpressions
  · exact glue.sumExpressions each

end Glue

end AggregateNames

/-! ## Pieces -/

theorem count_spliceAll {bindings : Bindings} {names : List String} {char : Char}
    (unwanted : ∀ name ∈ names, char ∉ (Marker.text ⟨name, .literal⟩).toList)
    (unspliced : ∀ name ∈ names, char ∉ bindings.literalText name) (text : List Char) :
    (spliceAll bindings names text).count char = text.count char := by
  induction names generalizing text with
  | nil => rfl
  | cons name names induction =>
      simp only [List.forall_mem_cons] at unwanted unspliced
      rw [spliceAll, List.foldl_cons]
      exact (induction unwanted.2 unspliced.2 _).trans
        (Text.count_replaceAll unwanted.1 unspliced.1 text)

namespace Snippet

/-- A template has one placeholder for every bound parameter. -/
theorem placeholders_template {snippet : Snippet}
    (source : placeholders snippet.sourceText = 0) (bindings : Bindings) :
    placeholders snippet.template = (snippet.boundValues bindings).length := by
  obtain ⟨pieces⟩ := snippet
  simp only [placeholders, sourceText, template, boundValues, occurrences,
    String.toList_ofList] at source ⊢
  induction pieces with
  | nil => rfl
  | cons piece pieces induction =>
      simp only [List.flatMap_cons, List.count_append, Nat.add_eq_zero_iff] at source ⊢
      rw [induction source.2]
      rcases piece with char | ⟨name, _ | _⟩
      · simpa [SnippetPiece.template, SnippetPiece.source, SnippetPiece.marker?,
          List.filterMap_cons] using source.1
      · simp [SnippetPiece.template, SnippetPiece.marker?, Nat.add_comm]
      · simpa [SnippetPiece.template, SnippetPiece.source, SnippetPiece.marker?,
          List.filterMap_cons] using source.1

/-- A snippet's text has a placeholder for every bound value when neither the text it was read from
nor a spliced text brings one of its own. -/
theorem balanced_resolve {snippet : Snippet} {bindings : Bindings}
    (source : placeholders snippet.sourceText = 0)
    (spliced : ∀ name ∈ snippet.literalNames, '?' ∉ bindings.literalText name) :
    (snippet.resolve bindings).Balanced := by
  rw [Fragment.Balanced, placeholders, toList_sql_resolve, params_resolve,
    count_spliceAll (fun name literal => ?_) spliced, ← placeholders, placeholders_template source]
  rw [placeholders_eq_zero_iff] at source
  intro member
  apply source
  rw [sourceText, String.toList_ofList, List.mem_flatMap]
  refine ⟨.marker ⟨name, .literal⟩, mem_literalNames.mp literal, ?_⟩
  simpa [Marker.text, SnippetPiece.source] using member

end Snippet

namespace Condition

variable {column : String}

theorem balanced_compare (glue : placeholders column = 0) {sign : String}
    (sign_glue : placeholders sign = 0) (value : Value) :
    (compare column sign value).Balanced := by
  simp only [Fragment.Balanced, compare, placeholders_append, glue, sign_glue]
  rfl

theorem balanced_like (glue : placeholders column = 0) (before after : String) (value : Value) :
    (like column before after value).Balanced := by
  simp only [Fragment.Balanced, like, placeholders_append, glue]
  rfl

theorem balanced_isNull (glue : placeholders column = 0) : (isNull column).Balanced := by
  simp only [Fragment.Balanced, isNull, Fragment.sql_ofText, placeholders_append, glue]
  rfl

theorem balanced_isNotNull (glue : placeholders column = 0) : (isNotNull column).Balanced := by
  simp only [Fragment.Balanced, isNotNull, Fragment.sql_ofText, placeholders_append, glue]
  rfl

theorem balanced_between? (glue : placeholders column = 0) {values : List Value}
    {condition : Fragment} (compiled : between? column values = some condition) :
    condition.Balanced := by
  simp only [between?] at compiled
  split at compiled
  · obtain rfl := Option.some.inj compiled
    simp only [Fragment.Balanced, placeholders_append, glue]
    rfl
  · obtain rfl := Option.some.inj compiled
    exact balanced_compare glue rfl _
  · obtain rfl := Option.some.inj compiled
    exact balanced_compare glue rfl _
  · cases compiled

theorem balanced_oneOf? {compared : String} (glue : placeholders column = 0)
    (compared_glue : placeholders compared = 0) {values : List Value} {condition : Fragment}
    (compiled : oneOf? column compared values = some condition) : condition.Balanced := by
  rw [oneOf?] at compiled
  split at compiled
  · cases compiled
  · obtain rfl := Option.some.inj compiled
    have each : ∀ value ∈ values,
        (isValue column compared value).ConsistsOf [isValue column compared value] := by
      intro value _
      apply Fragment.ConsistsOf.of_balanced
      rw [isValue]
      split
      · exact balanced_isNull glue
      · exact balanced_compare compared_glue rfl value
    exact ((Fragment.ConsistsOf.join rfl each).wrap rfl rfl).balanced

/-- The condition of an operator has a value for every placeholder. -/
theorem balanced_ofOperator? {operator : Operator} {compared : String}
    (glue : placeholders column = 0) (compared_glue : placeholders compared = 0)
    {values : List Value} {condition : Fragment}
    (compiled : ofOperator? operator column compared values = some condition) :
    condition.Balanced := by
  cases operator with
  | between => exact balanced_between? compared_glue compiled
  | oneOf => exact balanced_oneOf? glue compared_glue compiled
  | empty =>
      obtain rfl := Option.some.inj compiled
      exact balanced_isNull compared_glue
  | notEmpty =>
      obtain rfl := Option.some.inj compiled
      exact balanced_isNotNull compared_glue
  | contains | startsWith | endsWith =>
      obtain rfl := Option.some.inj compiled
      exact balanced_like compared_glue _ _ _
  | equal | notEqual | greaterThan | greaterEqual | lessThan | lessEqual =>
      obtain rfl := Option.some.inj compiled
      exact balanced_compare compared_glue rfl _

end Condition

theorem Filter.balanced_condition? {filter : Filter} {type : FieldType} {column : String}
    {dialect : Dialect} {correction : Correction} {condition : Fragment}
    (glue : placeholders column = 0)
    (compiled : filter.condition? type column dialect correction = some condition) :
    condition.Balanced := by
  have compared : placeholders (filter.comparedColumn column dialect) = 0 := by
    rw [comparedColumn]
    split
    · simp only [Dialect.foldCase, placeholders_append, glue]
      rfl
    · exact glue
  exact Condition.balanced_ofOperator? glue compared compiled

namespace Dialect

theorem balanced_pageClause? {dialect : Dialect} {page : Page} {clause : Fragment}
    (present : dialect.pageClause? page = some clause) : clause.Balanced := by
  obtain ⟨max, -, rfl⟩ := Option.map_eq_some_iff.mp present
  cases dialect with
  | mysql => exact (by decide +kernel : placeholders " limit ?, ?" = 2)
  | postgresql | sqlite => exact (by decide +kernel : placeholders " limit ? offset ?" = 2)
  | sqlserver =>
      exact (by decide +kernel : placeholders " offset ? rows fetch next ? rows only" = 2)
  | oracle =>
      exact (by decide +kernel :
        placeholders ") row_ where rownum <= ?) table_ where table_.rownum_ > ?" = 2)

theorem placeholders_pageOpening (dialect : Dialect) (page : Page) :
    placeholders (dialect.pageOpening page) = 0 := by
  obtain ⟨offset, _ | max⟩ := page <;> cases dialect
  case some.oracle =>
    exact (by decide +kernel :
      placeholders "select * from (select row_.*, rownum rownum_ from (" = 0)
  all_goals rfl

end Dialect

end EntitySearch
