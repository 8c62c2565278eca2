import EndpointStubs.Files.Encoding

/-!
# Runtimes

What the program takes from the runtime that it runs on, and what differs from
one to another: the codecs that it has for the names of encodings, and how many
types may stand within each other in a source before its stack is full. The
latter depends on who calls the scanner, too, and on what the calls for the
innermost type need; it is less than the thousand calls that a stack holds.
-/

namespace EndpointStubs

structure Runtime where
  /-- The codec for texts that a name stands for, if there is one. -/
  codec? : String → Option Codec
  /-- The most types within each other that the stack has room for. -/
  nesting : Nat
  /-- No runtime is without the encoding that generated files have. -/
  codec?_utf8 : codec? "utf-8" = some Encoding.utf8.codec
  /-- No runtime is without room for the classes that are generated. -/
  room : 3 ≤ nesting
  /-- Each type takes a call, and the stack holds a thousand. -/
  bounded : nesting < 1000

/-- A runtime with the usual encodings. -/
def Runtime.standard : Runtime where
  codec? name := (Encoding.ofName? name).map Encoding.codec
  nesting := 970
  codec?_utf8 := by
    have hname : Encoding.ofName? "utf-8" = some .utf8 := by decide +kernel
    rw [hname]
    rfl
  room := by decide
  bounded := by decide

end EndpointStubs
