import CouchLoad.Text.Numeral

/-!
# The context of a document

What a template and its conditions can refer to while one document is generated.
-/

namespace CouchLoad

/-- The values a document is generated from. -/
structure Context where
  counter : Nat
  dbPrefix : String
  userPrefix : String
  deriving DecidableEq, Repr

/-- A reference to one of these values. -/
inductive Reference where
  | counter
  | dbPrefix
  | userPrefix
  deriving DecidableEq, Repr

/-- The name of a reference, in placeholders and in conditions alike. -/
def Reference.name : Reference → String
  | .counter => "doc_id_counter"
  | .dbPrefix => "db_prefix"
  | .userPrefix => "user_prefix"

/-- The reference with a given name. -/
def Reference.ofName? (name : List Char) : Option Reference :=
  [counter, dbPrefix, userPrefix].find? fun r => r.name.toList = name

/-- The text that a reference stands for. -/
def Context.text (ctx : Context) : Reference → List Char
  | .counter => Text.decimal ctx.counter
  | .dbPrefix => ctx.dbPrefix.toList
  | .userPrefix => ctx.userPrefix.toList

end CouchLoad
