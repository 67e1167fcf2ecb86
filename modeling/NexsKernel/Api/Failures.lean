import Mathlib.Tactic

/-!
# Failures

How a function of the kernel can fail (`api/failures.h`). A system call that is refused reports a
`SyscallError`; its constructors are the error types of `sel4/errors.h` with the fields of
`syscall_error_t` that belong to them.

`Halt` is not a result of the C code: an assertion that fails stops the kernel, and a loop of the model
that has not ended within its fuel, or a write past the end of an array, has no result. That none of this
happens is never assumed.
-/

namespace NexsKernel

/-- Why a function of the model did not return. -/
inductive Halt where
  | assertion
  | outOfFuel
  | outOfBounds
  deriving DecidableEq, Repr

/-- `assert`. -/
def assert (b : Bool) : Except Halt Unit :=
  if b then .ok () else .error .assertion

@[simp] lemma assert_ok {b : Bool} (h : b = true) : assert b = .ok () := by
  simp [assert, h]

/-- A sequence of two functions returns when both do. -/
lemma bind_eq_ok {ε α β : Type} {x : Except ε α} {f : α → Except ε β} {r : β} :
    (x >>= f) = .ok r ↔ ∃ a, x = .ok a ∧ f a = .ok r := by
  cases x with
  | error e => exact ⟨nofun, nofun⟩
  | ok a => exact ⟨fun h => ⟨a, rfl, h⟩, fun ⟨_, e, h⟩ => by cases e; exact h⟩

/-- A sequence of two functions fails when one of them does. -/
lemma bind_eq_error {ε α β : Type} {x : Except ε α} {f : α → Except ε β} {e : ε} :
    (x >>= f) = .error e ↔ x = .error e ∨ ∃ a, x = .ok a ∧ f a = .error e := by
  cases x with
  | error e' => exact ⟨fun h => .inl (by cases h; rfl), fun h => h.elim (fun h => by cases h; rfl) nofun⟩
  | ok a => exact ⟨fun h => .inr ⟨a, rfl, h⟩, fun h => h.elim nofun fun ⟨_, e, h⟩ => by cases e; exact h⟩

lemma assert_eq_ok {b : Bool} {u : Unit} : assert b = .ok u ↔ b = true := by
  cases b <;> simp [assert]

/-- `current_syscall_error`. -/
inductive SyscallError where
  | invalidArgument (invalidArgumentNumber : Nat)
  | invalidCapability (invalidCapNumber : Nat)
  | illegalOperation
  | rangeError (rangeErrorMin rangeErrorMax : Nat)
  | alignmentError
  | failedLookup (failedLookupWasSource : Bool)
  | truncatedMessage
  | deleteFirst
  | revokeFirst
  | notEnoughMemory (memoryLeft : Nat)
  deriving DecidableEq, Repr

/-- A check of a decode function: the request is refused with `e` when `c` holds. -/
def refuseIf (c : Prop) [Decidable c] (e : SyscallError) : Except SyscallError Unit :=
  if c then .error e else .ok ()

/-- A request that was accepted has passed the check. -/
lemma refuseIf_bind {α : Type} {c : Prop} [Decidable c] {e : SyscallError}
    {f : Except SyscallError α} {r : α} :
    (do refuseIf c e; f) = .ok r ↔ ¬ c ∧ f = .ok r := by
  unfold refuseIf
  split
  · rename_i h
    exact ⟨nofun, fun h' => absurd h h'.1⟩
  · rename_i h
    exact ⟨fun h' => ⟨h, h'⟩, fun h' => h'.2⟩

/-- A request is refused by the check, or after it. -/
lemma refuseIf_bind_error {α : Type} {c : Prop} [Decidable c] {e e' : SyscallError} {f : Except SyscallError α} :
    (do refuseIf c e; f) = .error e' ↔ c ∧ e = e' ∨ ¬ c ∧ f = .error e' := by
  unfold refuseIf
  split
  · rename_i h
    exact ⟨fun h' => .inl ⟨h, Except.error.inj h'⟩, fun h' => h'.elim (fun h' => congrArg _ h'.2) fun h' =>
      absurd h h'.1⟩
  · rename_i h
    exact ⟨fun h' => .inr ⟨h, h'⟩, fun h' => h'.elim (fun h' => absurd h'.1 h) fun h' => h'.2⟩

end NexsKernel
