import DocQuery.Statement.Compile

/-!
# Requests

A request is a query together with what is to be done: read, insert, update, delete, drop, or change an array.
-/

namespace DocQuery

inductive Request where
  | select (query : Query)
  | insert (query : Query) (documents : List Document)
  | insertGetId (query : Query) (document : Document)
  | update (query : Query) (values : Document)
  | delete (query : Query)
  | truncate (query : Query)
  | push (query : Query) (column : String) (value : Value) (unique : Bool)
  | pull (query : Query) (column : String) (value : Value)

/-- The statement of a request. -/
def Request.compile : Request → Compiled Statement
  | select q => q.compileSelect
  | insert q documents => q.compileInsert documents
  | insertGetId q document => q.compileInsertGetId document
  | update q values => q.compileUpdate values
  | delete q => q.compileDelete
  | truncate q => q.compileTruncate
  | push q column value unique => q.compilePush column value unique
  | pull q column value => q.compilePull column value

end DocQuery
