import Mathlib

namespace Foundation

variable {ε α β : Type}

/-- `read` takes from the front of its input exactly what `write` puts there, which is `size`
bytes. -/
structure Codec (write : α → List ε) (read : List ε → Option (α × List ε)) (size : ℕ) : Prop where
  length : ∀ value, (write value).length = size
  read_write : ∀ value rest, read (write value ++ rest) = some (value, rest)
  write_read : ∀ input value rest, read input = some (value, rest) → input = write value ++ rest
  total : ∀ input, size ≤ input.length → ∃ value rest, read input = some (value, rest)

namespace Codec
variable {write : α → List ε} {read : List ε → Option (α × List ε)} {size : ℕ}

theorem read_all (codec : Codec write read size) (value : α) :
    read (write value) = some (value, []) := by
  have whole := codec.read_write value []
  rwa [List.append_nil] at whole

theorem rest_length (codec : Codec write read size) {input rest : List ε} {value : α}
    (taken : read input = some (value, rest)) : input.length - rest.length = size := by
  rw [codec.write_read input value rest taken, List.length_append, codec.length]
  omega

theorem exists_of_length (codec : Codec write read size) {input : List ε}
    (exact : input.length = size) :
    ∃ value, read input = some (value, []) ∧ write value = input := by
  obtain ⟨value, rest, taken⟩ := codec.total input exact.ge
  have split := codec.write_read input value rest taken
  have empty : rest = [] := by
    apply List.eq_nil_of_length_eq_zero
    have length := congrArg List.length split
    rw [List.length_append, codec.length] at length
    omega
  subst empty
  exact ⟨value, taken, by rw [split, List.append_nil]⟩

theorem pair {writeNext : β → List ε} {readNext : List ε → Option (β × List ε)} {sizeNext : ℕ}
    (first : Codec write read size) (second : Codec writeNext readNext sizeNext) :
    Codec (fun values : α × β => write values.1 ++ writeNext values.2)
      (fun input => (read input).bind fun (value, rest) =>
        (readNext rest).map fun (next, rest) => ((value, next), rest)) (size + sizeNext) where
  length values := by rw [List.length_append, first.length, second.length]
  read_write values rest := by
    simp [List.append_assoc, first.read_write, second.read_write]
  write_read input values rest taken := by
    obtain ⟨⟨value, middle⟩, now, later⟩ := Option.bind_eq_some_iff.mp taken
    obtain ⟨⟨next, last⟩, after, same⟩ := Option.map_eq_some_iff.mp later
    obtain ⟨rfl, rfl⟩ := Prod.mk.inj same
    rw [first.write_read input value middle now, second.write_read middle next last after,
      List.append_assoc]
  total input enough := by
    obtain ⟨value, middle, now⟩ := first.total input (by omega)
    have length := congrArg List.length (first.write_read input value middle now)
    rw [List.length_append, first.length] at length
    obtain ⟨next, rest, after⟩ := second.total middle (by omega)
    exact ⟨(value, next), rest, by simp [now, after]⟩

theorem equiv (codec : Codec write read size) (fields : α ≃ β) :
    Codec (fun value => write (fields.symm value))
      (fun input => (read input).map fun (value, rest) => (fields value, rest)) size where
  length value := codec.length _
  read_write value rest := by simp [codec.read_write]
  write_read input value rest taken := by
    obtain ⟨⟨inner, last⟩, found, same⟩ := Option.map_eq_some_iff.mp taken
    obtain ⟨rfl, rfl⟩ := Prod.mk.inj same
    rw [codec.write_read input inner last found, Equiv.symm_apply_apply]
  total input enough := by
    obtain ⟨value, rest, taken⟩ := codec.total input enough
    exact ⟨fields value, rest, by rw [taken, Option.map_some]⟩

theorem checked (codec : Codec write read size) : Codec write
    (fun input => do
      let (value, rest) ← read input
      guard (input.length - rest.length = size)
      return (value, rest)) size := by
  have same : (fun input => do
      let (value, rest) ← read input
      guard (input.length - rest.length = size)
      return (value, rest)) = read := by
    funext input
    cases taken : read input with
    | none => rfl
    | some found =>
        obtain ⟨value, rest⟩ := found
        simp [guard, codec.rest_length taken]
  rwa [same]

end Codec

end Foundation
