import ToolAuthoring.Log.Rule

/-!
# Log filters

A filter decides which records are shown. It is a list of rules; for a record the most specific rule
that is about it counts.
-/

namespace ToolAuthoring

/-- The rules of a filter, and the parts of its text that are none. -/
structure LogFilter where
  rules : List LogRule
  refused : List (String × LogRuleError)
deriving DecidableEq, Repr

namespace LogFilter

/-- The parts of a filter, which commas separate. -/
def parts (s : String) : List String :=
  ((s.toList.splitOn ',').filter fun part => !part.isEmpty).map String.ofList

/-- The filter that a text describes, if all its parts are rules. Without any, nothing is shown. -/
def ofText? (s : String) : Option LogFilter :=
  ((parts s).mapM fun part => (LogRule.ofText part).toOption).map fun rules => ⟨rules, []⟩

/-- A part that is no rule, with the reason. -/
def refusal? (part : String) : Option (String × LogRuleError) :=
  match LogRule.ofText part with
  | .ok _ => none
  | .error e => some (part, e)

/-- The filter that the rules in a text describe. Without any, errors are shown. -/
def ofText (s : String) : LogFilter :=
  let rules := (parts s).filterMap fun part => (LogRule.ofText part).toOption
  ⟨if rules.isEmpty then [.everything (.upTo .error)] else rules, (parts s).filterMap refusal?⟩

/-- The lines that report the parts of a filter that are no rules. -/
def notices (f : LogFilter) : List String :=
  f.refused.map fun r => "ignoring \x60" ++ r.1 ++ "\x60: " ++ r.2.message

/-- The rule that counts for a target. -/
def rule? (f : LogFilter) (target : String) : Option LogRule :=
  (f.rules.filter (·.covers target)).foldl LogRule.prefer none

/-- Whether a record is shown. -/
def shows (f : LogFilter) (r : LogRecord) : Bool :=
  match f.rule? r.source.target with
  | some rule => rule.bound.admits r.level
  | none => false

end LogFilter

end ToolAuthoring
