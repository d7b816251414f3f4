import Mathlib.Logic.Relation

set_option autoImplicit false

-- Graphs without cycles, and what moving one node's edge does to them.
namespace VapeCommerce.Lib.Forest

open Relation

variable {A : Type} {edge moved : A -> A -> Prop} {node target : A}

def Acyclic (edge : A -> A -> Prop) : Prop :=
  forall start, Not (TransGen edge start start)

theorem Acyclic.mono (acyclic : Acyclic edge) (within : forall start finish, moved start finish ->
    edge start finish) : Acyclic moved :=
  fun start cycle => acyclic start (TransGen.mono within _ _ cycle)

-- A path that takes the new edge ends behind it.
theorem path_moved (edges : forall start finish, moved start finish ->
      edge start finish \/ (start = node /\ finish = target))
    (avoids : Not (ReflTransGen edge target node)) {start finish : A}
    (path : TransGen moved start finish) :
    TransGen edge start finish \/ (ReflTransGen edge start node /\ ReflTransGen edge target finish) := by
  induction path with
  | single step =>
    rcases edges _ _ step with old | ⟨rfl, rfl⟩
    next => exact .inl (.single old)
    next => exact .inr ⟨.refl, .refl⟩
  | tail path step ih =>
    rcases ih with known | ⟨entered, left⟩
    next =>
      rcases edges _ _ step with old | ⟨rfl, rfl⟩
      next => exact .inl (known.tail old)
      next => exact .inr ⟨known.to_reflTransGen, .refl⟩
    next =>
      rcases edges _ _ step with old | ⟨rfl, rfl⟩
      next => exact .inr ⟨entered, left.tail old⟩
      next => exact absurd left avoids

/-- Giving a node an edge to a place from where it cannot be reached makes no cycle. -/
theorem acyclic_moved (node target : A) (acyclic : Acyclic edge) (edges : forall start finish, moved start finish ->
      edge start finish \/ (start = node /\ finish = target))
    (avoids : Not (ReflTransGen edge target node)) : Acyclic moved := by
  intro start cycle
  rcases path_moved edges avoids cycle with known | ⟨entered, left⟩
  next => exact acyclic start known
  next => exact avoids (left.trans entered)

end VapeCommerce.Lib.Forest
