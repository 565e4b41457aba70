import Signpost.Pattern.Syntax
import Signpost.Pattern.Template

/-!
# Patterns

A pattern is a text together with the expression it reads as, so two patterns with one text are
equal.
-/

namespace Signpost

structure Pattern where
  source : String
  expr : Pattern.Expr
  read_source : Pattern.Expr.read source.toList = .ok expr

namespace Pattern

theorem eq_of_source {p q : Pattern} (h : p.source = q.source) : p = q := by
  obtain ⟨s, e, he⟩ := p
  obtain ⟨t, f, hf⟩ := q
  obtain rfl : s = t := h
  obtain rfl : e = f := by simpa [he] using hf
  rfl

instance : DecidableEq Pattern := fun p q =>
  if h : p.source = q.source then isTrue (eq_of_source h)
  else isFalse (fun e => h (congrArg Pattern.source e))

/-- Reads a text as a pattern. -/
def compile (source : String) : Except Fault Pattern :=
  match h : Expr.read source.toList with
  | .ok e => .ok ⟨source, e, h⟩
  | .error f => .error f

/-- Replaces every match of the pattern in a text by the expanded template. -/
def replaceAll (p : Pattern) (text template : String) : String :=
  String.ofList (p.expr.replaceAll text.toList template.toList)

end Pattern

end Signpost
