import EntityQuery.Value
import EntityQuery.Text.Quoted

/-!
# Errors

Everything that can go wrong while a statement is built or run, each cause with what it is about;
`Error.message` is the one place where causes become words. A `Failure` is what a session reports:
words of its own, or an error of this library that its lookups ran into.
-/

namespace EntityQuery

/-- The statements that change rows in bulk; they neither project nor group. -/
inductive BulkChange where
  | update
  | delete
  deriving DecidableEq

def BulkChange.plural : BulkChange → String
  | update => "updates"
  | delete => "deletes"

mutual

inductive Error where
  /-- Execution without a session. -/
  | unboundSession
  /-- An entity where only an attribute name could say what to compare it with. -/
  | ambiguousEntity (entity : EntityRef)
  /-- Attributes to fetch, on a statement that fetches none. -/
  | projectionNotAllowed (statement : BulkChange)
  /-- Groups, on a statement that has none. -/
  | groupingNotAllowed (statement : BulkChange)
  /-- Entities or a subquery beside other members. -/
  | mixedMembership
  | multipleSubqueries
  /-- A sort key that ends in something other than a direction. -/
  | unknownSortDirection (token : String)
  /-- A subquery as the right-hand side of an equality. -/
  | subqueryComparison (key : String)
  /-- Paths that start at different entity types. -/
  | mixedEntityTypes (first other : String)
  /-- A filter text that has not the form key, operator, value. -/
  | invalidFilter (text : String)
  /-- A lookup by unique field on a type that has none. -/
  | noPrimaryKey (entityType : String)
  | noResultFound (query : String)
  | multipleResultsFound (query : String)
  /-- The session failed. -/
  | session (failure : Failure)

inductive Failure where
  /-- The session's own words. -/
  | reported (text : String)
  /-- An error of this library, met inside the session. -/
  | internal (error : Error)

end

mutual

def Error.message : Error → String
  | .unboundSession => "statement has no session bound to it"
  | .ambiguousEntity entity => "keyword required for entity " ++ entity.toText
  | .projectionNotAllowed statement => "unable to use projections during " ++ statement.plural
  | .groupingNotAllowed statement => "unable to group results during " ++ statement.plural
  | .mixedMembership => "membership tests cannot mix entities with other values"
  | .multipleSubqueries => "only one subquery is supported per membership test"
  | .unknownSortDirection token => "unknown sorting method: " ++ Text.inspect token
  | .subqueryComparison key =>
    "cannot compare " ++ key ++ " against a subquery, use in_() instead"
  | .mixedEntityTypes first other =>
    "selecting multiple base types is not supported (" ++ first ++ " and " ++ other ++ ")"
  | .invalidFilter text => "invalid filter: " ++ Text.inspect text
  | .noPrimaryKey entityType => entityType ++ " has no primary key other than its identifier"
  | .noResultFound query => "no result found for query: " ++ query
  | .multipleResultsFound query => "multiple results found for query: " ++ query
  | .session failure => "session error: " ++ failure.message

def Failure.message : Failure → String
  | .reported text => text
  | .internal error => error.message

end

end EntityQuery
