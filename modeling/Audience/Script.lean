import Audience.Segment.Composer

/-!
# Scripts

A script composes a segment from steps: conditions go into the group that was opened last,
and group steps open a further group.  The first step that fails is the result.

**New identifiers.**  The segment starts with one, and each step takes one.

**Results.**
* `Script.run_nil`, `Script.run_cons`: a script runs step by step.
-/

namespace Audience
namespace Script

/-- A step of a script. -/
inductive Step
  | condition (field : String) (op : Operator) (value : TypedValue)
  | between (field : String) (low high : TypedValue)
  | andGroup
  | orGroup
deriving DecidableEq

namespace Step

/-- The condition step for equality. -/
def equals (field : String) (value : TypedValue) : Step := .condition field .equals value

/-- The condition step for text inside text. -/
def contains (field text : String) : Step := .condition field .contains (.text text)

end Step

/-- A condition with an operator and a value. -/
def makeCondition (schema : Schema) (id : Uuid) (field : String) (op : Operator)
    (value : TypedValue) : Except Error Condition := do
  let c ← Condition.on schema field id
  let c ← c.setOperator schema op
  c.setValue schema value

/-- A condition with a range. -/
def makeRange (schema : Schema) (id : Uuid) (field : String) (low high : TypedValue) :
    Except Error Condition := do
  let c ← makeCondition schema id field .between low
  c.setSecondValue schema high

/-- Makes one step. -/
def step (schema : Schema) (fresh : Uuid) (s : Segment) : Step → Except Error Segment
  | .condition field op value => do
      let c ← makeCondition schema fresh field op value
      s.append s.last.id c
  | .between field low high => do
      let c ← makeRange schema fresh field low high
      s.append s.last.id c
  | .andGroup =>
      let s := s.addGroup fresh
      s.turnGroup s.last.id
  | .orGroup => .ok (s.addGroup fresh)

/-- Makes steps in order, until one fails. -/
def run (schema : Schema) : List Step → Segment → IdSource → Except Error Segment
  | [], s, _ => .ok s
  | a :: rest, s, ids => do
      let s ← step schema ids.next s a
      run schema rest s ids.advance

@[simp] theorem run_nil (schema : Schema) (s : Segment) (ids : IdSource) :
    run schema [] s ids = .ok s := rfl

theorem run_cons (schema : Schema) (a : Step) (rest : List Step) (s : Segment)
    (ids : IdSource) :
    run schema (a :: rest) s ids =
      (step schema ids.next s a).bind fun s => run schema rest s ids.advance := rfl

/-- The segment that a script composes. -/
def build (schema : Schema) (steps : List Step) (ids : IdSource) : Except Error Segment :=
  run schema steps (Segment.new ids.next) ids.advance

end Script
end Audience
