/-! Nested records of named fields, one for each node of an expression, and their JSON text, on one line or indented by
two. -/
namespace DigitCalc

inductive Record where
  | node (kind : String) (value : Option Nat) (line column : Int) (children : List Record)
  deriving Repr

namespace Record

def fields (kind : String) (value : Option Nat) (line column : Int) : List String :=
  ["\"kind\": \"" ++ kind ++ "\"", "\"value\": " ++ (value.map toString).getD "null",
   "\"line\": " ++ toString line, "\"col\": " ++ toString column]

mutual

def compact : Record → String
  | .node kind value line column children =>
      "\x7b" ++ ", ".intercalate (fields kind value line column) ++ ", \"children\": [" ++
        ", ".intercalate (compactAll children) ++ "]\x7d"

def compactAll : List Record → List String
  | [] => []
  | record :: rest => compact record :: compactAll rest

end

def indentation (depth : Nat) : String :=
  "\n" ++ String.ofList (List.replicate (2 * depth) ' ')

mutual

/-- A record whose own line is indented `depth` times. -/
def indented (depth : Nat) : Record → String
  | .node kind value line column children =>
      let inner := indentation (depth + 1)
      "\x7b" ++ inner ++ ("," ++ inner).intercalate (fields kind value line column) ++
        "," ++ inner ++ "\"children\": " ++ indentedList (depth + 1) children ++ indentation depth ++ "\x7d"

def indentedList (depth : Nat) : List Record → String
  | [] => "[]"
  | record :: rest =>
      "[" ++ indentation (depth + 1) ++ indented (depth + 1) record ++ indentedRest (depth + 1) rest ++
        indentation depth ++ "]"

def indentedRest (depth : Nat) : List Record → String
  | [] => ""
  | record :: rest => "," ++ indentation depth ++ indented depth record ++ indentedRest depth rest

end

end Record

end DigitCalc
