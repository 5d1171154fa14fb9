/-
The kind of work a SQL text asks for, judged by its first word.
-/
import PooledChain.Text.Blank
import PooledChain.Text.UpperCase

namespace PooledChain.Sql

/-- Beginnings of SQL texts in upper case, each with its operation; the
first that matches counts. -/
def operations : List (String × String) :=
  [("SELECT", "SELECT"), ("INSERT", "INSERT"), ("UPDATE", "UPDATE"), ("DELETE", "DELETE"),
   ("MERGE", "MERGE"), ("\x7bCALL", "CALL"), ("CALL", "CALL"), ("EXEC", "EXECUTE"),
   ("WITH", "SELECT"), ("CREATE", "CREATE"), ("ALTER", "ALTER"), ("DROP", "DROP")]

/-- The operation of the first beginning that `head` starts with. -/
def operationOf (head : List Char) : String :=
  match operations.find? fun (start, _) => start.toList.isPrefixOf head with
  | some (_, name) => name
  | none => "OTHER"

/-- How many characters are looked at. -/
def headLength : Nat := 8

/-- The operation of a SQL text. Its head is cut before it is put in
upper case: no beginning is longer than eight characters, and a
character never vanishes in upper case. -/
def operation (sql : List Char) : String :=
  operationOf (((Text.trimStart sql).take headLength).flatMap Text.upperCase)

end PooledChain.Sql
