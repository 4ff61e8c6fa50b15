import Mathlib.Init

/-! # Transducers and what can be seen of their states

A transducer answers every input with an output. Two states are alike when no sequence
of inputs tells them apart. -/

structure Transducer (σ α β : Type*) where
  step : σ → α → σ × β

namespace Transducer

variable {σ α β : Type*} (machine : Transducer σ α β)

/-- The outputs for a sequence of inputs. -/
def outputs : σ → List α → List β
  | _, [] => []
  | state, input :: rest =>
      (machine.step state input).2 :: outputs (machine.step state input).1 rest

/-- No sequence of inputs tells the two states apart. -/
def Alike (left right : σ) : Prop :=
  ∀ inputs, machine.outputs left inputs = machine.outputs right inputs

variable {machine} {left right : σ}

/-- A state is like itself. -/
theorem Alike.refl (state : σ) : machine.Alike state state := fun _ => rfl

/-- Alike states give the same output. -/
theorem Alike.output (alike : machine.Alike left right) (input : α) :
    (machine.step left input).2 = (machine.step right input).2 :=
  (List.cons.inj (alike [input])).1

/-- Alike states stay alike. -/
theorem Alike.next (alike : machine.Alike left right) (input : α) :
    machine.Alike (machine.step left input).1 (machine.step right input).1 :=
  fun rest => (List.cons.inj (alike (input :: rest))).2

end Transducer
