import EntitySearch.Fragment
import EntitySearch.Search

/-!
# Dialects

Database engines agree on searches up to the way a page of rows is asked for.  A dialect appends
its clause to a statement, or wraps the statement; the values of the page come last in either case.
-/

namespace EntitySearch

/-- A database engine's dialect of SQL. -/
inductive Dialect where
  /-- MySQL and MariaDB. -/
  | mysql
  /-- PostgreSQL. -/
  | postgresql
  /-- Oracle, whose pages are cut out by row numbers. -/
  | oracle
  /-- Microsoft SQL Server. -/
  | sqlserver
  /-- SQLite. -/
  | sqlite
  deriving DecidableEq, Repr

namespace Dialect

/-- The name of the dialect. -/
def name : Dialect → String
  | mysql => "mysql"
  | postgresql => "postgresql"
  | oracle => "oracle"
  | sqlserver => "sqlserver"
  | sqlite => "sqlite"

/-- The names that the dialects are read from. -/
def readNames : List (String × Dialect) :=
  [("mysql", mysql), ("mariadb", mysql), ("postgresql", postgresql), ("postgres", postgresql),
    ("pg", postgresql), ("oracle", oracle), ("sqlserver", sqlserver), ("mssql", sqlserver),
    ("sqlite", sqlite)]

/-- The dialect with a name, in any case of its letters, or the error that there is none.  Folding
ASCII letters is enough, as no other character has a lower case that is made of letters of these
names. -/
def ofName (name : String) : Except SearchError Dialect :=
  match readNames.find? fun entry => Text.equalsIgnoringCase entry.1 name with
  | some entry => .ok entry.2
  | none => .error (.unknownDialect name)

/-- The column in the form that is compared when upper and lower case count as equal. -/
def foldCase (_dialect : Dialect) (column : String) : String := "upper(" ++ column ++ ")"

/-- The sum of two numbers, or the greatest number when it is exceeded. -/
def saturatingAdd (left right : UInt64) : UInt64 :=
  UInt64.ofNatClamp (left.toNat + right.toNat)

/-- The statement, cut down to a page.  A page without a greatest number of rows leaves the
statement as it is, whatever its offset. -/
def paginate (dialect : Dialect) (page : Page) (statement : Fragment) : Fragment :=
  match page.max? with
  | none => statement
  | some max =>
      let offset := Value.count page.offset
      let rows := Value.count max
      match dialect with
      | mysql => statement ++ ⟨" limit ?, ?", [offset, rows]⟩
      | postgresql | sqlite => statement ++ ⟨" limit ? offset ?", [rows, offset]⟩
      | sqlserver => statement ++ ⟨" offset ? rows fetch next ? rows only", [offset, rows]⟩
      | oracle =>
          Fragment.ofText "select * from (select row_.*, rownum rownum_ from (" ++ statement ++
            ⟨") row_ where rownum <= ?) table_ where table_.rownum_ > ?",
              [Value.count (saturatingAdd page.offset max), offset]⟩

theorem ofName_name (dialect : Dialect) : ofName dialect.name = .ok dialect := by
  cases dialect <;> rfl

theorem paginate_unbounded (dialect : Dialect) (offset : UInt64) (statement : Fragment) :
    dialect.paginate { offset } statement = statement := rfl

end Dialect

end EntitySearch
