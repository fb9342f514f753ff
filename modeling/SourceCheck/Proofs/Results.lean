/-! # Results that may fail

    What is known of a result once it is known that some step made of it went well. -/

namespace SourceCheck

variable {ε ε' α β : Type}

theorem eq_ok_of_map {f : α → β} {x : Except ε α} {b : β} (h : x.map f = .ok b) :
    ∃ a, x = .ok a ∧ f a = b := by
  cases x with
  | error e => contradiction
  | ok a => exact ⟨a, rfl, Except.ok.inj h⟩

theorem eq_ok_of_mapError {f : ε → ε'} {x : Except ε α} {a : α} (h : x.mapError f = .ok a) :
    x = .ok a := by
  cases x with
  | error e => contradiction
  | ok a => exact congrArg Except.ok (Except.ok.inj h)

theorem eq_ok_of_toOption {x : Except ε α} {a : α} (h : x.toOption = some a) : x = .ok a := by
  cases x with
  | error e => contradiction
  | ok b => rw [Option.some.inj h]

theorem map_some_ne (x : Except ε α) : x.map some ≠ .ok none := by
  cases x with
  | error e =>
    intro h
    contradiction
  | ok a =>
    intro h
    cases Except.ok.inj h

theorem eq_of_map_some {x y : Except ε α} (h : x.map some = y.map some) : x = y := by
  cases y with
  | error e =>
    cases x with
    | error e' => exact congrArg Except.error (Except.error.inj h)
    | ok a => contradiction
  | ok b =>
    obtain ⟨a, rfl, ha⟩ := eq_ok_of_map h
    exact congrArg Except.ok (Option.some.inj ha)

theorem isOk_map (f : α → β) (x : Except ε α) : (x.map f).isOk = x.isOk := by
  cases x with
  | error e => rfl
  | ok a => rfl

end SourceCheck
