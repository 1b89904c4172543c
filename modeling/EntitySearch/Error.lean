/-!
# Errors

What can be wrong with an entity or a search.  Every error names its cause; the wording is in one
place per type.
-/

namespace EntitySearch

/-- Why a description of an entity is refused. -/
inductive EntityError where
  /-- The table is blank. -/
  | blankTable
  /-- Two fields have one name. -/
  | repeatedField (name : String)
  /-- A field has the column alias of an earlier field. -/
  | repeatedLabel (label name : String)
  deriving DecidableEq, Repr

namespace EntityError

/-- The error in words. -/
def message : EntityError → String
  | blankTable => "table snippet is blank"
  | repeatedField name => "field '" ++ name ++ "' is declared twice"
  | repeatedLabel label name => "alias '" ++ label ++ "' of field '" ++ name ++ "' is already used"

end EntityError

/-- Why a search cannot be resolved. -/
inductive SearchError where
  /-- A sum is asked for over a field without a column. -/
  | unmappedSummaryField (name : String)
  /-- A filter restricts a field without a column. -/
  | unmappedFilterField (name : String)
  /-- The entity is refused. -/
  | invalidEntity (cause : EntityError)
  /-- No dialect has the name. -/
  | unknownDialect (name : String)
  /-- No operator has the name. -/
  | unknownOperator (name : String)
  /-- No kind of pagination has the name. -/
  | unknownPagination (name : String)
  deriving DecidableEq, Repr

namespace SearchError

/-- The error in words. -/
def message : SearchError → String
  | unmappedSummaryField name =>
      "summary field '" ++ name ++ "' is not mapped to a database column"
  | unmappedFilterField name =>
      "filter field '" ++ name ++ "' is not mapped to a database column"
  | invalidEntity cause => "invalid metadata: " ++ cause.message
  | unknownDialect name =>
      "unknown dialect '" ++ name ++
        "', expected one of mysql, postgresql, oracle, sqlserver, sqlite"
  | unknownOperator name => "unknown operator '" ++ name ++ "'"
  | unknownPagination name =>
      "unknown pagination type '" ++ name ++ "', expected page or offset"

/-- The error lies in the entity, or in a search that asks for more than the entity maps, and not in
a name that nothing has. -/
def isConfiguration : SearchError → Bool
  | unmappedSummaryField _ | unmappedFilterField _ | invalidEntity _ => true
  | unknownDialect _ | unknownOperator _ | unknownPagination _ => false

end SearchError

end EntitySearch
