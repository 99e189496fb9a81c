import RpiRobot.Paging
import RpiRobot.PlainFilters

/-!
# Which pages can be listed

`findAll` decodes every row that its statements give, and one row that it cannot decode
makes the whole page fail. The server may also refuse the conditions of the filter: a
number column that is compared with a word is an error before any row is read.
-/

namespace Listability

open SqlConditions (Expr Row)
open SqlTables SqlServers DomainObjects RequestParams Repositories RepositoryStatements
open FieldQueries RowDecoding SecondSelects PageResults PlainFilters
open DeleteAgreement (Lists)
open RegistrySchema (schema)

-- Without this the unifier tries to parse the text of a statement.
attribute [local irreducible] condServer

section
variable {env : Env} {int4In : String → Bool} {runtime : Runtime} {moment : Moment}
  {sat : Expr → Row → Bool} {d : Database schema} {filter : Filter} {page : PageRequest}

end

def searched : Filter :=
  (Filter.create.add "name" .opLike (.string "smart")).add "id" .opGte (.integral 1)

def recorded : Filter := Filter.create.add "device_id" .opEq (.integral 1)

end Listability
