import Mathlib.Data.List.Basic
import Mathlib.Algebra.Group.Nat.Basic
import Mathlib.Algebra.Group.Int

/-!
# Folds whose last write wins, and folds that append to a log

Two pieces of state in this development are written by a sequence of steps, each of which
either overwrites the piece with a value it carries or leaves it alone: the pause flag of
the diag module, and the result of a GPU in the software plugin.  `foldl_lastWrite` says
once that the piece at the end of such a fold is the value of the last step that writes
it, or its initial value.  The errors, infos and warnings of the plugin are logs each step
may append to; `foldl_appendLog` says once what such a log holds at the end.
-/

namespace DcgmDiag

lemma getD_or {β : Type} (a b : Option β) (d : β) : (a.or b).getD d = a.getD (b.getD d) := by
  cases a <;> rfl

lemma findSome?_singleton {α β : Type} (w : α → Option β) (a : α) : [a].findSome? w = w a := by
  simp only [List.findSome?_cons, List.findSome?_nil]
  cases w a <;> rfl

lemma flatMap_ite_singleton {α β : Type} (p : α → Bool) (f : α → β) (l : List α) :
    l.flatMap (fun a => if p a then [f a] else []) = (l.filter p).map f := by
  induction l with
  | nil => rfl
  | cons a l ih => by_cases h : p a <;> simp [List.filter_cons, h, ih]

lemma flatMap_toList {α β : Type} (f : α → Option β) (l : List α) :
    l.flatMap (fun a => (f a).toList) = l.filterMap f := by
  induction l with
  | nil => rfl
  | cons a l ih => cases h : f a <;> simp [List.filterMap_cons, h, ih]

/-- A fold whose step writes `w a` into the field `proj` when `w a` is a value, and leaves
the field alone otherwise, ends with the last value written. -/
lemma foldl_lastWrite {σ α β : Type} (f : σ → α → σ) (proj : σ → β) (w : α → Option β)
    (hf : ∀ s a, proj (f s a) = (w a).getD (proj s)) (s : σ) (as : List α) :
    proj (as.foldl f s) = (as.reverse.findSome? w).getD (proj s) := by
  induction as generalizing s with
  | nil => rfl
  | cons a as ih =>
    rw [List.foldl_cons, ih, hf, List.reverse_cons, List.findSome?_append, getD_or,
      findSome?_singleton]

/-- A fold whose step appends `w a`, when it is a value, to the log `proj` ends with the log
followed by every value written, in order. -/
lemma foldl_appendLog {σ α β : Type} (f : σ → α → σ) (proj : σ → List β) (w : α → Option β)
    (hf : ∀ s a, proj (f s a) = proj s ++ (w a).toList) (s : σ) (as : List α) :
    proj (as.foldl f s) = proj s ++ as.filterMap w := by
  induction as generalizing s with
  | nil => simp
  | cons a as ih =>
    rw [List.foldl_cons, ih, hf]
    cases h : w a <;> simp [List.filterMap_cons, h]

end DcgmDiag
