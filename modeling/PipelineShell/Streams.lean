/-
# Streams -- the three streams of a command

Every command begins with the streams of the shell itself.  Binding another
stream closes the one that was bound before, so at any time a command holds at
most the handles that its `Streams` show.
-/
import PipelineShell.Host

namespace PipelineShell

set_option autoImplicit false

/-- Where a command reads, writes, and reports errors. -/
structure Streams where
  input : InputHandle
  output : OutputHandle
  error : OutputHandle
  deriving DecidableEq, Repr

namespace Streams

variable {W : Type} [Host W]

def standard : Streams := ⟨.inherited, .standardOutput, .standardError⟩

def bindInput (streams : Streams) (input : InputHandle) : StateM (Context W) Streams := do
  Context.act (Host.closeInput streams.input)
  pure { streams with input }

def bindOutput (streams : Streams) (output : OutputHandle) : StateM (Context W) Streams := do
  Context.act (Host.closeOutput streams.output)
  pure { streams with output }

def bindError (streams : Streams) (error : OutputHandle) : StateM (Context W) Streams := do
  Context.act (Host.closeOutput streams.error)
  pure { streams with error }

def release (streams : Streams) : StateM (Context W) Unit := do
  Context.act (Host.closeInput streams.input)
  Context.act (Host.closeOutput streams.output)
  Context.act (Host.closeOutput streams.error)

end Streams

end PipelineShell
