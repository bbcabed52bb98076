/-!
# Transfer buffers

A buffer of bytes, most of which are often zero. Only the bytes up to the last one that was ever
written are stored. `Buffer.bytes` is the whole contents.
-/

namespace UsbThroughput

/-- The memory of one transfer: bytes that were written, then so many that are still zero. -/
structure Buffer where
  written : Array UInt8
  blank : Nat
  deriving DecidableEq, Repr

namespace Buffer

/-- A buffer without room. -/
def empty : Buffer := ⟨#[], 0⟩

/-- A buffer of zeros. -/
def zeros (length : Nat) : Buffer := ⟨#[], length⟩

/-- A buffer with the given contents. -/
def ofArray (bytes : Array UInt8) : Buffer := ⟨bytes, 0⟩

/-- The number of bytes that a buffer holds. -/
def size (buffer : Buffer) : Nat := buffer.written.size + buffer.blank

/-- The contents of a buffer. -/
def bytes (buffer : Buffer) : List UInt8 :=
  buffer.written.toList ++ List.replicate buffer.blank 0

/-- The first bytes of a buffer, at most `count` of them. -/
def take (buffer : Buffer) (count : Nat) : List UInt8 :=
  buffer.written.toList.take count ++
    List.replicate (min (count - buffer.written.size) buffer.blank) 0

/-- Writes bytes to the start of a buffer. Those that do not fit are lost. -/
def fill (buffer : Buffer) (data : List UInt8) : Buffer :=
  let fitting := (data.take buffer.size).toArray
  let written := fitting ++ buffer.written.extract fitting.size buffer.written.size
  ⟨written, buffer.size - written.size⟩

@[simp] theorem size_zeros (length : Nat) : (zeros length).size = length := by
  simp [zeros, size]

@[simp] theorem length_bytes (buffer : Buffer) : buffer.bytes.length = buffer.size := by
  simp [bytes, size]

/-- The first bytes are those of the contents. -/
theorem take_eq (buffer : Buffer) (count : Nat) : buffer.take count = buffer.bytes.take count := by
  simp [take, bytes, List.take_append, List.take_replicate]

@[simp] theorem size_fill (buffer : Buffer) (data : List UInt8) :
    (buffer.fill data).size = buffer.size := by
  simp only [fill, size, List.size_toArray, List.length_take, Array.size_append,
    Array.size_extract]
  omega

end Buffer

end UsbThroughput
