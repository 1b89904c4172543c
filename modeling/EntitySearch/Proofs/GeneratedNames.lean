import EntitySearch.Proofs.FreeNames
import EntitySearch.Proofs.Assembly

/-!
# Generated names do not clash

An aggregating statement names its count, its sums and its derived table one after another.  The
names are different from each other, they stand nowhere in the rows that are aggregated, and so no
column of a list that becomes a derived table is labelled with one of them.  The names of the sums
are in the order of the summed fields.
-/

namespace EntitySearch

/-- An expression of a select list with the name of its column. -/
structure NamedExpression where
  /-- The expression. -/
  expression : String
  /-- The name. -/
  name : String
  deriving DecidableEq, Repr

namespace NamedExpression

/-- The expression with the name behind it. -/
def sql (column : NamedExpression) : String := column.expression ++ " " ++ column.name

/-- The number of rows. -/
def count (name : String) : NamedExpression := ⟨"count(*)", name⟩

/-- The sum over an expression. -/
def sum (summand name : String) : NamedExpression := ⟨"sum(" ++ summand ++ ")", name⟩

/-- The text of a select list. -/
def listSql (columns : List NamedExpression) : String :=
  String.intercalate ", " (columns.map sql)

theorem sql_count (name : String) : (count name).sql = "count(*) " ++ name := rfl

theorem sql_sum (summand name : String) :
    (sum summand name).sql = "sum(" ++ summand ++ ") " ++ name := by
  simp only [sum, sql, String.append_assoc]
  rfl

end NamedExpression

namespace AggregateNames

/-- The names that an aggregating statement introduces; without a derived table there is no name for
one. -/
def introduced (names : AggregateNames) (derivesTable : Bool) : List String :=
  names.count?.toList ++ names.sums ++ if derivesTable then [names.table] else []

/-- The names clash neither with a text nor with each other, and each starts with its seed. -/
structure Apart (names : AggregateNames) (text : String) (fields : List String)
    (derivesTable : Bool) : Prop where
  nodup : (names.introduced derivesTable).Nodup
  free : ∀ name ∈ names.introduced derivesTable, Text.occursIn name text = false
  count : ∀ name ∈ names.count?, ∃ ending, name = "col_count" ++ ending
  /-- There is one name for every summed field, in the same order, and it starts with the seed of
  the field. -/
  sums : List.Forall₂ (fun field name => ∃ ending, name = "col_" ++ field ++ ending) fields
    names.sums
  table : ∃ ending, names.table = "tbl_" ++ ending

theorem freeInTurn_allocate (text : String) (fetch : Fetch) :
    Alias.FreeInTurn text ((allocate text fetch).introduced true) := by
  rw [introduced, if_pos rfl, List.append_assoc]
  refine Alias.FreeInTurn.append ?_ (.append (Alias.freeInTurn_columns _ _) ⟨?_, trivial⟩)
  · simp only [allocate]
    split
    · exact ⟨Alias.occursIn_allocate _ text, trivial⟩
    · trivial
  · exact Alias.occursIn_allocate _ _

theorem apart_allocate (text : String) (fetch : Fetch) (derivesTable : Bool) :
    (allocate text fetch).Apart text fetch.summaryFields derivesTable := by
  have inTurn := freeInTurn_allocate text fetch
  have fewer : ((allocate text fetch).introduced derivesTable).Sublist
      ((allocate text fetch).introduced true) := by
    cases derivesTable <;> simp [introduced]
  refine ⟨inTurn.nodup.sublist fewer, fun name member => inTurn.free name (fewer.subset member),
    ?_, Alias.columns_startWith _ _, Alias.allocate_eq_append _ _⟩
  intro name counted
  simp only [allocate] at counted
  split at counted
  · obtain rfl := Option.some.inj counted
    exact Alias.allocate_eq_append _ text
  · cases counted

/-- The sums over some expressions, each with its name. -/
def namedSums (names : AggregateNames) (summands : List String) : List NamedExpression :=
  List.zipWith .mk summands names.sums

theorem countExpressions_eq (names : AggregateNames) :
    names.countExpressions = (names.count?.toList.map NamedExpression.count).map (·.sql) := by
  simp only [countExpressions, List.map_map, Function.comp_def, NamedExpression.sql_count]

theorem sumExpressions_eq (names : AggregateNames) (summands : List String) :
    names.sumExpressions summands = ((names.namedSums summands).map fun summed =>
      NamedExpression.sum summed.expression summed.name).map (·.sql) := by
  simp only [sumExpressions, namedSums, List.map_zipWith, NamedExpression.sql_sum]

theorem selected_eq (names : AggregateNames) (summands : List String) :
    names.selected summands = NamedExpression.listSql (names.count?.toList.map .count ++
      (names.namedSums summands).map fun summed => .sum summed.expression summed.name) := by
  rw [selected, NamedExpression.listSql, List.map_append, countExpressions_eq, sumExpressions_eq]

theorem selectedOfGroup_eq (names : AggregateNames) (summands : List String) :
    names.selectedOfGroup summands = NamedExpression.listSql
      (if (names.namedSums summands).isEmpty then names.count?.toList.map .count
      else (names.namedSums summands).map fun summed => .sum summed.expression summed.name) := by
  rw [selectedOfGroup, countExpressions_eq, sumExpressions_eq, List.isEmpty_map, List.isEmpty_map]
  split <;> rfl

section full

variable {names : AggregateNames} {summands : List String}
  (full : summands.length = names.sums.length)

include full

theorem expression_namedSums : (names.namedSums summands).map (·.expression) = summands := by
  rw [namedSums, ← List.map_uncurry_zip_eq_zipWith, List.map_map]
  exact List.map_fst_zip full.le

theorem name_namedSums : (names.namedSums summands).map (·.name) = names.sums := by
  rw [namedSums, ← List.map_uncurry_zip_eq_zipWith, List.map_map]
  exact List.map_snd_zip full.ge

/-- Sums can be summed again under their names. -/
theorem selected_sums :
    names.selected names.sums = NamedExpression.listSql (names.count?.toList.map .count ++
      (names.namedSums summands).map fun summed => .sum summed.name summed.name) := by
  have again : (names.namedSums names.sums).map
        (fun summed => NamedExpression.sum summed.expression summed.name) =
      ((names.namedSums summands).map (·.name)).map fun name => .sum name name := by
    rw [name_namedSums full, namedSums, List.map_zipWith, List.zipWith_self]
  rw [selected_eq, again, List.map_map]
  rfl

end full

end AggregateNames

namespace Fragment

theorem occursIn_join (separator : String) {parts : List Fragment} {part : Fragment}
    (member : part ∈ parts) : Text.occursIn part.sql (join separator parts).sql = true := by
  fun_induction join separator parts with
  | case1 => cases member
  | case2 only =>
      obtain rfl := List.mem_singleton.mp member
      exact Text.occursIn_self _
  | case3 first next parts ih =>
      rcases List.mem_cons.mp member with rfl | later
      · exact Text.occursIn_append_right _ (Text.occursIn_append_right _ (Text.occursIn_self _))
      · exact Text.occursIn_append_left _ (ih later)

end Fragment

namespace Resolver

variable {resolver : Resolver} {entity : Entity} {search : Search}

/-- The aggregating statement's text over the text of its rows: the count and the sums over columns
are selected from the rows, or of groups the sums over the sums of each. -/
def clusterText (entity : Entity) (count? : Option String) (sums : List NamedExpression)
    (table rows : String) : String :=
  let count := count?.toList.map NamedExpression.count
  let ofColumns := sums.map fun summed => NamedExpression.sum summed.expression summed.name
  let ofSums := sums.map fun summed => NamedExpression.sum summed.name summed.name
  let list := NamedExpression.listSql
  if entity.distinct then
    "select " ++ list (count ++ ofColumns) ++ " from (" ++ rows ++ ") " ++ table
  else if entity.grouping?.isSome then
    "select " ++ list (count ++ ofSums) ++ " from (select " ++
      list (if sums.isEmpty then count else ofColumns) ++ rows ++ ") " ++ table
  else "select " ++ list (count ++ ofColumns) ++ rows

/-- The names of an aggregating statement, and its sums. -/
structure Names (entity : Entity) (search : Search) (rows : String) (cluster : ClusterStatement)
    (names : AggregateNames) (sums : List NamedExpression) : Prop where
  counted : names.count?.isSome = search.fetch.total
  count : cluster.countName? = names.count?
  sumNames : cluster.sumNames = names.sums
  /-- There is one sum for every summed field, in the same order: the one over its column. -/
  mapped : List.Forall₂ (fun field summed => entity.column? field = some summed.expression)
    search.fetch.summaryFields sums
  /-- The sums have the names of the statement, in the same order. -/
  named : sums.map (·.name) = names.sums
  /-- The names stand where the text introduces them, behind the count and the sums. -/
  text : cluster.statement.sql = clusterText entity names.count? sums names.table rows

theorem sql_clusterStatement (fetch : Fetch) {columns : List String} (rows : Fragment)
    (full : columns.length = fetch.summaryFields.length) :
    (clusterStatement entity fetch columns rows).statement.sql =
      let names := AggregateNames.allocate rows.sql fetch
      clusterText entity names.count? (names.namedSums columns) names.table rows.sql := by
  have each : columns.length = (AggregateNames.allocate rows.sql fetch).sums.length :=
    full.trans (Alias.columns_length _ _).symm
  rw [clusterStatement_eq]
  simp only [clusterText, ← AggregateNames.selected_eq, ← AggregateNames.selectedOfGroup_eq,
    ← AggregateNames.selected_sums each]
  split
  · simp [ClusterStatement.overTable, String.append_assoc]
  · split
    · simp [ClusterStatement.overGroups, String.append_assoc]
    · simp [ClusterStatement.overRows]

theorem columns_of_mapped {fields : List String}
    (mapped : ∀ field ∈ fields, (entity.column? field).isSome) :
    List.Forall₂ (fun field column => entity.column? field = some column) fields
      (fields.filterMap entity.column?) := by
  induction fields with
  | nil => exact .nil
  | cons field fields ih =>
      rw [List.forall_mem_cons] at mapped
      obtain ⟨column, found⟩ := Option.isSome_iff_exists.mp mapped.1
      rw [List.filterMap_cons_some found]
      exact .cons found (ih mapped.2)

section accepted

variable (accepted : searchError? entity search = none)

include accepted

theorem mapped_summands :
    List.Forall₂ (fun field column => entity.column? field = some column)
      search.fetch.summaryFields (search.fetch.summaryFields.filterMap entity.column?) :=
  columns_of_mapped (searchError?_eq_none_iff.mp accepted).2

theorem length_summands (text : String) :
    (search.fetch.summaryFields.filterMap entity.column?).length =
      (AggregateNames.allocate text search.fetch).sums.length := by
  rw [← (mapped_summands accepted).length_eq]
  exact (Alias.columns_length _ _).symm

/-- The sums of a search that has no error are the sums over the columns of its summed fields. -/
theorem names_clusterStatement (rows : Fragment) :
    Names entity search rows.sql
      (clusterStatement entity search.fetch (search.fetch.summaryFields.filterMap entity.column?)
        rows)
      (.allocate rows.sql search.fetch)
      ((AggregateNames.allocate rows.sql search.fetch).namedSums
        (search.fetch.summaryFields.filterMap entity.column?)) where
  counted := by
    simp only [AggregateNames.allocate]
    split <;> simp_all
  count := rfl
  sumNames := rfl
  mapped := by
    have mapped := mapped_summands accepted
    rwa [← AggregateNames.expression_namedSums (length_summands accepted rows.sql),
      List.forall₂_map_right_iff] at mapped
  named := AggregateNames.name_namedSums (length_summands accepted rows.sql)
  text := sql_clusterStatement _ _ (mapped_summands accepted).length_eq.symm

end accepted

theorem occursIn_selectClause {label : String} (labelled : label ∈ entity.labels)
    (bindings : Bindings) :
    Text.occursIn label (selectClause entity bindings).sql = true := by
  obtain ⟨selection, selected, rfl⟩ := List.mem_map.mp labelled
  let column (selection : Field × Snippet) : Fragment :=
    selection.2.resolve bindings ++ .ofText (" " ++ selection.1.label)
  have inColumn : Text.occursIn selection.1.label (column selection).sql = true :=
    Text.occursIn_append_left _ (Text.occursIn_append_left _ (Text.occursIn_self _))
  have inColumns := Fragment.occursIn_join ", " (List.mem_map_of_mem (f := column) selected)
  exact Text.occursIn_append_left _ (Text.occursIn_trans inColumn inColumns)

/-- No generated name clashes with the rows or with another generated name, nor with a label of the
list when that becomes a derived table. -/
theorem resolve_namesApart {resolution : Resolution} {cluster : ClusterStatement}
    (resolved : resolver.resolve entity search = .ok resolution)
    (aggregated : resolution.cluster? = some cluster) :
    ∃ (names : AggregateNames) (sums : List NamedExpression),
      Names entity search (resolver.aggregatedRows entity search).sql cluster names sums ∧
        names.Apart (resolver.aggregatedRows entity search).sql search.fetch.summaryFields
          (entity.distinct || entity.grouping?.isSome) ∧
        (entity.distinct = true → ∀ label ∈ entity.labels,
          label ∉ names.introduced (entity.distinct || entity.grouping?.isSome)) ∧
        ∀ list ∈ resolution.list?, list.labels = entity.labels := by
  obtain ⟨accepted, rfl⟩ := resolve_eq_ok_iff.mp resolved
  obtain ⟨-, rfl⟩ := mem_cluster?_statements.mp aggregated
  have apart := AggregateNames.apart_allocate (resolver.aggregatedRows entity search).sql
    search.fetch (entity.distinct || entity.grouping?.isSome)
  refine ⟨_, _, names_clusterStatement accepted _, apart, ?_, ?_⟩
  · intro distinct label labelled introduced
    have inRows : Text.occursIn label (resolver.aggregatedRows entity search).sql = true := by
      rw [aggregatedRows, if_pos distinct]
      exact Text.occursIn_append_right _ (occursIn_selectClause labelled _)
    rw [apart.free label introduced] at inRows
    cases inRows
  · intro list listed
    obtain ⟨-, rfl⟩ := mem_list?_statements.mp listed
    rfl

/-- A table whose fields are named like other seeds. -/
def tallies : Entity where
  table := .ofText "t"
  fields :=
    { toList :=
        [.ofMapping "count" (.selected "t.count" .long),
          .ofMapping "count0" (.ofColumn "t.col_count" .long)]
      names_nodup := by decide
      labels_nodup := by decide }
  joinCondition? := none
  grouping? := none
  distinct := true
  table_notBlank := by decide +kernel

/-- The total, and sums over fields of which one is repeated. -/
def tallying : Search where
  fetch := Fetch.all.withSummary ["count", "count0", "count"]

/-- Each sum gets a name of its own, and its expression is the column of its field. -/
theorem resolve_tallies_namesApart :
    ∃ (resolution : Resolution) (cluster : ClusterStatement) (names : AggregateNames)
        (sums : List NamedExpression),
      resolve {} tallies tallying = .ok resolution ∧ resolution.cluster? = some cluster ∧
        Names tallies tallying (aggregatedRows {} tallies tallying).sql cluster names sums ∧
        names.Apart (aggregatedRows {} tallies tallying).sql ["count", "count0", "count"] true ∧
        (∀ label ∈ tallies.labels, label ∉ names.introduced true) ∧
        cluster.sumNames = ["col_count0", "col_count00", "col_count1"] ∧
        cluster.statement.sql =
          "select count(*) col_count, sum(t.count) col_count0, sum(t.col_count) col_count00, " ++
            "sum(t.count) col_count1 from (select distinct t.count count from t) tbl_" := by
  have accepted : searchError? tallies tallying = none := by decide +kernel
  have resolved : resolve {} tallies tallying = .ok (statements {} tallies tallying) :=
    resolve_eq_ok_iff.mpr ⟨accepted, rfl⟩
  obtain ⟨names, sums, named, apart, labels, -⟩ := resolve_namesApart resolved rfl
  exact ⟨_, _, names, sums, resolved, rfl, named, apart, labels rfl, by decide +kernel⟩

end Resolver

end EntitySearch
