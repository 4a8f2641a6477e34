/-
# Capture -- buffers in memory, and the writers that share them

A memory writer appends to a buffer.  Copies of a writer share its buffer, so
whoever keeps a copy sees everything that is written through the others.
-/
import PipelineShell.Text.Utf8

namespace PipelineShell

set_option autoImplicit false

/-- Buffers, and writers numbered in the order in which they were made. -/
structure Capture where
  buffers : List Bytes
  /-- The buffer of each writer. -/
  writers : List Nat
  deriving DecidableEq, Repr

namespace Capture

def start : Capture := ⟨[[]], [0]⟩

/-- The buffer of a writer; a writer that does not exist has one of its own, past
all others. -/
def bufferOf (capture : Capture) (writer : Nat) : Nat :=
  capture.writers.getD writer capture.buffers.length

def create (capture : Capture) : Nat × Capture :=
  (capture.writers.length,
    ⟨capture.buffers ++ [[]], capture.writers ++ [capture.buffers.length]⟩)

def share (capture : Capture) (writer : Nat) : Nat × Capture :=
  (capture.writers.length,
    { capture with writers := capture.writers ++ [capture.bufferOf writer] })

/-- Appends bytes; all of them are accepted. -/
def write (capture : Capture) (writer : Nat) (bytes : Bytes) : Nat × Capture :=
  (bytes.length,
    { capture with buffers := capture.buffers.modify (capture.bufferOf writer) (· ++ bytes) })

/-- Everything that was written through a writer and its copies. -/
def contents (capture : Capture) (writer : Nat) : Bytes :=
  capture.buffers.getD (capture.bufferOf writer) []

/-- The contents as text, malformed parts shown as U+FFFD. -/
def text (capture : Capture) (writer : Nat) : String :=
  Utf8.decodeLossy (capture.contents writer)

end Capture

end PipelineShell
