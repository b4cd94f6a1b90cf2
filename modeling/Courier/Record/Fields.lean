import Courier.Record

set_option autoImplicit false

namespace Courier.Fields

inductive Place where
  | bare
  | inside
  -- Just past a quote found inside: the closing one, or the first of a doubled one.
  | quote
  | after
deriving DecidableEq, Repr

structure State where
  complete : List Text := []
  place : Place := .bare
  field : Text := []
deriving DecidableEq

-- The current field as it would stand if it ended here. Trimming leaves a quoted field alone.
def State.close (trim : Bool) (s : State) : Text :=
  if trim && s.place == .bare then Text.trim s.field.reverse else s.field.reverse

def outside (delimiter : Char) (trim : Bool) (s : State) (c : Char) : State :=
  if c == delimiter then { complete := s.close trim :: s.complete }
  else if c == '"' && s.place == .bare && Text.allBlank s.field then
    { s with place := .inside, field := [] }
  else if s.place == .after && trim && Text.isBlank c then s
  else { s with field := c :: s.field }

def step (delimiter : Char) (trim : Bool) (s : State) (c : Char) : State :=
  match s.place with
  | .inside =>
    if c == '"' then { s with place := .quote } else { s with field := c :: s.field }
  | .quote =>
    if c == '"' then { s with place := .inside, field := c :: s.field }
    else outside delimiter trim { s with place := .after } c
  | .bare => outside delimiter trim s c
  | .after => outside delimiter trim s c

def State.finish? (trim : Bool) (s : State) : Option (List Text) :=
  if s.place == .inside then none else some (s.close trim :: s.complete).reverse

def split? (delimiter : Char) (trim : Bool) (line : Text) : Option (List Text) :=
  (line.foldl (step delimiter trim) {}).finish? trim

end Courier.Fields
