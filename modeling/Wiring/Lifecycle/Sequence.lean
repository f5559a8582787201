import Wiring.Lifecycle.Slot

/-!
# Lifecycle — Sequence

Values that are made late: a sequence is made when it is first walked and kept, a factory makes a
value anew on every call.
-/

namespace Wiring

/-- A producer with the number of times it ran; the n-th run counts from zero. -/
structure Producer (α : Type) where
  produce : Nat → α
  runs : Nat

namespace Producer

def run {α : Type} (p : Producer α) : Producer α × α :=
  ({ p with runs := p.runs + 1 }, p.produce p.runs)

end Producer

structure LazySequence (α : Type) where
  items : Slot (List α)
  producer : Producer (List α)

namespace LazySequence

def ofProducer {α : Type} (produce : Nat → List α) : LazySequence α := ⟨.empty, ⟨produce, 0⟩⟩

def isFilled {α : Type} (s : LazySequence α) : Bool := s.items.held.isSome

/-- Walk the sequence: only the first walk runs the producer. -/
def walk {α : Type} (s : LazySequence α) : LazySequence α × List α :=
  match s.items.held with
  | some items => (s, items)
  | none =>
    let (producer, items) := s.producer.run
    (⟨⟨some items⟩, producer⟩, items)

end LazySequence

end Wiring
