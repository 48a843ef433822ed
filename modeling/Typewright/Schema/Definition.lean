import Typewright.Schema.Directive
import Typewright.Schema.TypeRef

/-! The definitions a schema is made of. -/
namespace Typewright

structure Argument where
  name : String
  type : TypeRef
  directives : Directives

structure Field where
  name : String
  type : TypeRef
  arguments : List Argument
  directives : Directives

structure RecordType where
  name : String
  fields : List Field
  directives : Directives

inductive Kind where
  | scalar
  | enum
  | input
  | output
  | interface
  | union
deriving DecidableEq

inductive Definition where
  | scalar (name : String) (directives : Directives)
  | enum (name : String) (values : List String) (directives : Directives)
  | input (record : RecordType)
  | output (record : RecordType)
  | interface (record : RecordType)
  | union (name : String) (members : List String) (directives : Directives)

namespace Definition

def name : Definition → String
  | scalar name _ => name
  | enum name _ _ => name
  | input record => record.name
  | output record => record.name
  | interface record => record.name
  | union name _ _ => name

def directives : Definition → Directives
  | scalar _ directives => directives
  | enum _ _ directives => directives
  | input record => record.directives
  | output record => record.directives
  | interface record => record.directives
  | union _ _ directives => directives

def kind : Definition → Kind
  | scalar .. => .scalar
  | enum .. => .enum
  | input _ => .input
  | output _ => .output
  | interface _ => .interface
  | union .. => .union

end Definition

def fieldPath (container field : String) : String := s!"{container}.{field}"

def argumentPath (container field argument : String) : String := s!"{container}.{field}({argument})"

end Typewright
