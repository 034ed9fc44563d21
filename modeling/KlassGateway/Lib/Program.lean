import Mathlib.Init
/-!
# Programs over an interface of atomic operations

An asynchronous handler runs as a sequence of atomic calls: a database
statement, a queue command, a request to another service.  Between two calls
anything else may run.  `Prog` is such a program with the calls left
uninterpreted, so that the same term can be run alone, stepped one call at a
time among other programs, or checked against a discipline on its calls.

* `Interface` names the operations and the type of each answer.
* `Prog` is a tree of operations.  `abort` is a panic: the program stops and
  has no result.
* `Prog` is a lawful monad, so programs are written in `do` notation;
  `Fallible` adds an error with `ExceptT`, which is what `?` does in the
  source language.
-/

namespace KlassGateway.Lib

/-- A set of operations, each with the type of its answer. -/
structure Interface where
  Op : Type
  Resp : Op → Type

/-- A program that performs operations of `I` and returns an `α`. -/
inductive Prog (I : Interface) (α : Type) : Type where
  | ret (a : α)
  | abort
  | op (o : I.Op) (k : I.Resp o → Prog I α)

namespace Prog

variable {I : Interface} {α β γ : Type}

/-- Sequential composition: `f` starts with the result of the first program. -/
def bind : Prog I α → (α → Prog I β) → Prog I β
  | ret a, f => f a
  | abort, _ => abort
  | op o k, f => op o (fun r => (k r).bind f)

instance : Monad (Prog I) where
  pure := ret
  bind := bind

@[simp] theorem pure_eq (a : α) : (pure a : Prog I α) = ret a := rfl

@[simp] theorem bind_eq (p : Prog I α) (f : α → Prog I β) : p >>= f = p.bind f := rfl

@[simp] theorem ret_bind (a : α) (f : α → Prog I β) : (ret a).bind f = f a := rfl

@[simp] theorem abort_bind (f : α → Prog I β) : (abort : Prog I α).bind f = abort := rfl

@[simp] theorem op_bind (o : I.Op) (k : I.Resp o → Prog I α) (f : α → Prog I β) :
    (op o k).bind f = op o (fun r => (k r).bind f) := rfl

theorem bind_ret (p : Prog I α) : p.bind ret = p := by
  induction p with
  | ret a => rfl
  | abort => rfl
  | op o k ih => exact congrArg (op o) (funext ih)

theorem bind_assoc (p : Prog I α) (f : α → Prog I β) (g : β → Prog I γ) :
    (p.bind f).bind g = p.bind (fun a => (f a).bind g) := by
  induction p with
  | ret a => rfl
  | abort => rfl
  | op o k ih => exact congrArg (op o) (funext ih)

instance : LawfulMonad (Prog I) :=
  LawfulMonad.mk' (Prog I) (fun p => bind_ret p) (fun _ _ => rfl)
    (fun p f g => bind_assoc p f g)

end Prog

/-- A program that may fail with an error of type `ε`. -/
abbrev Fallible (I : Interface) (ε α : Type) := ExceptT ε (Prog I) α

/-- Perform one operation and return its answer. -/
def perform {I : Interface} (o : I.Op) : Prog I (I.Resp o) := .op o .ret

/-- A panic inside a fallible program. -/
def panicked {I : Interface} {ε α : Type} : Fallible I ε α := ExceptT.mk .abort

/-- Run a fallible program to the end and hand back its `Result`. -/
def attempt {I : Interface} {ε α : Type} (p : Fallible I ε α) : Prog I (Except ε α) := p.run

/-- The `Result` of a fallible program inside another one. -/
def resultOf {I : Interface} {ε ε' α : Type} (p : Fallible I ε α) : Fallible I ε' (Except ε α) :=
  ExceptT.mk (p.run.bind fun r => .ret (.ok r))

/-- Only the success of a fallible program: an error ends it without a
result. -/
def onSuccess {I : Interface} {ε ε' α : Type} (p : Fallible I ε α) : Fallible I ε' α :=
  ExceptT.mk (p.run.bind fun
    | .ok a => .ret (.ok a)
    | .error _ => .abort)

/-- `map_err`: rewrite the error of a fallible program. -/
def mapErr {I : Interface} {ε ε' α : Type} (f : ε → ε') (p : Fallible I ε α) :
    Fallible I ε' α :=
  ExceptT.mk (p.run.bind fun r => .ret (r.mapError f))

end KlassGateway.Lib
