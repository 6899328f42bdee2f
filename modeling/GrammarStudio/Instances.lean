/-!
# Instances of the core library

What the core library says of its own types is meant throughout, also where a second instance for the same is in sight.

* `powNat`, `zeroNat` — powers and zero of the numbers;
* `leList`, `hashableChar`, `decidableEqByteArray` — order, hash and equality of texts and of bytes.
-/

namespace GrammarStudio

@[default_instance 20000]
scoped instance (priority := 2000) powNat {α : Type} [NatPow α] : Pow α Nat := instPowNat

scoped instance (priority := 2000) zeroNat : Zero Nat := Zero.ofOfNat0

scoped instance (priority := 2000) leList {α : Type} [LT α] : LE (List α) := List.instLE

scoped instance (priority := 2000) hashableChar : Hashable Char := instHashableChar

scoped instance (priority := 2000) decidableEqByteArray : DecidableEq ByteArray := ByteArray.instDecidableEq

end GrammarStudio
