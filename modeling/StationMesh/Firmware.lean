import StationMesh.Bytes

/-!
# Firmware updates

A new firmware comes in steps, each of them a command with arguments of its own. What a step does
is up to the updater; it may decline it, or answer it with as many bytes as an acknowledgment can
carry.
-/

namespace StationMesh

/-- The most bytes an answer can have: a frame less its header. -/
def replyCapacity : Nat := 251

/-- Something that takes the steps of an update. -/
class FirmwareUpdater (φ : Type) where
  /-- Takes a step and answers it, or declines it. -/
  step : Bytes → φ → Option Bytes × φ

/-- Updaters that answer by a simple rule. -/
inductive RuleUpdater where
  /-- Declines every step. -/
  | declines
  /-- Answers with the arguments; declines a step that has none. -/
  | echoes
  /-- Answers with so many equal bytes, as far as they fit. -/
  | fills (count : Nat)
deriving DecidableEq, Repr

instance : FirmwareUpdater RuleUpdater where
  step
    | _, .declines => (none, .declines)
    | arguments, .echoes =>
        (if arguments.isEmpty then none else some (arguments.take replyCapacity), .echoes)
    | _, .fills count => (some (List.replicate (min count replyCapacity) 0x5A), .fills count)

end StationMesh
