import DocQuery.Statement.Basic
import DocQuery.Store.Call

/-!
# Statements as store calls

Every statement is one store call, and its answer is read off the reply.
-/

namespace DocQuery

/-- The call that a statement makes. -/
def Statement.toCall : Statement → StoreCall
  | aggregate c pipeline _ => .aggregate c (pipeline.map Stage.toDocument)
  | insertMany c documents => .insertMany c documents
  | insertOne c document => .insertOne c document
  | updateMany c filter update => .updateMany c filter update
  | deleteMany c filter => .deleteMany c filter
  | drop c => .drop c

/-- What a reply says to a statement. -/
def StoreReply.toOutput : StoreReply → StatementOutput
  | rows documents => .rows documents
  | ids _ => .acknowledged true
  | id v => .insertedId v
  | updated count => .count (UInt64.ofNat count.modified)
  | deleted count => .count (UInt64.ofNat count)
  | dropped => .acknowledged true

end DocQuery
