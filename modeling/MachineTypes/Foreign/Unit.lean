import MachineTypes.Foreign.Basic

/-!
# `MachineTypes.Foreign.Unit`: a provider that keeps no values

Its copies are absent, its hash is constant, and it finds two values equal when both are absent.
Each call leaves a note of the capability used and of its tags.
-/

set_option autoImplicit false

namespace MachineTypes.Foreign.Unit

/-- The capabilities of the provider. -/
def capabilities : Capabilities where
  clone tag _ := do
    Call.note ("unit-clone " ++ tag.display)
    return .absent
  free tag _ := Call.note ("unit-free " ++ tag.display)
  hash tag _ := do
    Call.note ("unit-hash " ++ tag.display)
    return 1
  equals tag₁ value₁ tag₂ value₂ := do
    Call.note ("unit-equals " ++ tag₁.display ++ " " ++ tag₂.display)
    return value₁.isAbsent && value₂.isAbsent

/-- The provider, as one object. -/
def provider : Provider := .direct capabilities

end MachineTypes.Foreign.Unit
