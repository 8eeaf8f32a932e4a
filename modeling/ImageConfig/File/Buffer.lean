/-!
# Buffers before files

A text that is added to a file piece by piece is held back in a buffer of bounded size. A piece that
no longer fits sends what is held to the file first; a piece as large as the whole buffer goes to
the file at once. Nothing is lost and nothing overtakes: what is sent, followed by what is held, is
what was held, followed by the piece (`sent_append_held`).
-/

namespace ImageConfig

/-- The size of the buffer before a file, in bytes. -/
def bufferCapacity : Nat := 8192

/-- Text on its way to a file. -/
structure FileBuffer where
  /-- What the file does not have yet. -/
  held : String := ""
  /-- The buffer is large enough. -/
  fits : held.utf8ByteSize ≤ bufferCapacity := by decide

/-- What is left of an addition to a buffer. -/
structure Buffered where
  /-- What goes to the file now. -/
  sent : String
  /-- The buffer afterwards. -/
  buffer : FileBuffer

namespace FileBuffer

/-- Adds a piece of text. -/
def add (buffer : FileBuffer) (piece : String) : Buffered :=
  if small : piece.utf8ByteSize < bufferCapacity then
    if room : (buffer.held ++ piece).utf8ByteSize ≤ bufferCapacity then
      ⟨"", ⟨buffer.held ++ piece, room⟩⟩
    else ⟨buffer.held, ⟨piece, Nat.le_of_lt small⟩⟩
  else ⟨buffer.held ++ piece, {}⟩

/-- What is sent, followed by what is held, is what was held, followed by the piece. -/
theorem sent_append_held (buffer : FileBuffer) (piece : String) :
    (buffer.add piece).sent ++ (buffer.add piece).buffer.held = buffer.held ++ piece := by
  unfold add
  split
  · split <;> simp
  · simp

/-- A piece that fits is held back whole. -/
theorem sent_add_of_fits {buffer : FileBuffer} {piece : String}
    (small : piece.utf8ByteSize < bufferCapacity)
    (room : (buffer.held ++ piece).utf8ByteSize ≤ bufferCapacity) :
    (buffer.add piece).sent = "" := by
  rw [add, dif_pos small, dif_pos room]

end FileBuffer

end ImageConfig
