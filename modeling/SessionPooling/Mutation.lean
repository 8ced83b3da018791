/-! Writes that a transaction collects and sends with its commit. -/
namespace SessionPooling

inductive MutationKind where
  | insert
  | update
  | insertOrUpdate
  | replace
  | delete
deriving DecidableEq

namespace MutationKind

def name : MutationKind → String
  | insert => "Insert"
  | update => "Update"
  | insertOrUpdate => "InsertOrUpdate"
  | replace => "Replace"
  | delete => "Delete"

def all : List MutationKind := [insert, update, insertOrUpdate, replace, delete]

end MutationKind

/-- A write to the rows of one table, passed on as it is. -/
structure Mutation where
  kind : MutationKind
  table : String
  columns : List String
  rows : List (List String)
deriving DecidableEq

end SessionPooling
